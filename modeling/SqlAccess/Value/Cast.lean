import SqlAccess.Value.Basic

/-
  This file defines the type tags of placeholders and the
  casts that they ask for.  Null passes every cast.

  Key definitions include:
    * `TypeTag`
    * `TypeTag.ofLetter?`
    * `TypeTag.letter`
    * `CastFault`
    * `CastFault.message`
    * `TypeTag.cast`
-/

namespace SqlAccess

------------------------------------------------------------
-- Tags
------------------------------------------------------------

/- The type that a placeholder may ask its value to have. -/
inductive TypeTag
  | string
  | integer
  | unsigned
  | float
  | boolean
  | list
deriving DecidableEq, Repr

namespace TypeTag

/- The tag that a letter names. -/
def ofLetter? (c : Char) : Option TypeTag :=
  if c = 's' then some string
  else if c = 'i' then some integer
  else if c = 'u' then some unsigned
  else if c = 'f' then some float
  else if c = 'b' then some boolean
  else if c = 'l' then some list
  else none

/- The letter that names a tag. -/
def letter : TypeTag → Char
  | string => 's'
  | integer => 'i'
  | unsigned => 'u'
  | float => 'f'
  | boolean => 'b'
  | list => 'l'

end TypeTag

------------------------------------------------------------
-- Faults
------------------------------------------------------------

/-
  Why a cast fails: the value has no counterpart in the
  target type, the integer is negative, or a list was
  wanted.
-/
inductive CastFault
  | rejected (value : Value) (target : String)
  | negative (i : Int64)
  | notAList (value : Value)

/- The text of a cast fault. -/
def CastFault.message : CastFault → String
  | rejected value target =>
      "cannot convert " ++ value.kindText ++ " value " ++
        value.inspect ++ " to " ++ target
  | negative i =>
      "negative value " ++ toString i.toInt ++
        " for unsigned integer"
  | notAList value =>
      "expected a list, got " ++ value.kindText ++ " value"

------------------------------------------------------------
-- Casts
------------------------------------------------------------

namespace Cast

/- Text: every value but a blob has one. -/
def textOf? : Value → Option String
  | .text s => some s
  | .int i => some (toString i.toInt)
  | .float x => some (Value.floatText.render x)
  | .bool b => some (toString b)
  | .timestamp t => some t.text
  | .json document => some document.text
  | .null => none
  | .blob _ => none

/-
  An integer: integers, truth values, floats without a
  fraction whose size is below two to the 63rd, and texts
  that are integers apart from white space around them.
-/
def intOf? : Value → Option Int64
  | .int i => some i
  | .bool b => some (if b then 1 else 0)
  | .float x =>
      match x.toInt? with
      | some i =>
          if i.natAbs < Nat.pow 2 63 then
            some (Int64.ofInt i)
          else none
      | none => none
  | .text s => Reading.int64? (Blank.trim s.toList)
  | _ => none

/-
  A float: floats, integers, and texts that are numbers
  apart from white space around them.
-/
def floatOf? : Value → Option Binary64
  | .float x => some x
  | .int i => some (Binary64.ofInt i.toInt)
  | .text s => Reading.binary64? (Blank.trim s.toList)
  | _ => none

/- The truth value that a word spells. -/
def boolOfWord? (word : String) : Option Bool :=
  if word ∈ ["true", "t", "1"] then some true
  else if word ∈ ["false", "f", "0"] then some false
  else none

/-
  A truth value: truth values, the integers 0 and 1, and
  texts that spell one apart from case and white space
  around them.
-/
def boolOf? : Value → Option Bool
  | .bool b => some b
  | .int i =>
      if i = 0 then some false
      else if i = 1 then some true
      else none
  | .text s =>
      boolOfWord? <|
        String.ofList
          ((Blank.trim s.toList).map Char.toLower)
  | _ => none

/- An integer that is not negative. -/
def unsignedOf (value : Value) : Except CastFault Int64 :=
  match intOf? value with
  | none => .error (.rejected value "unsigned integer")
  | some i => if i < 0 then .error (.negative i) else .ok i

/- A result, or the rejection of the value. -/
def orRejected
    (value : Value)
    (target : String)
    (result : Option Value) : Except CastFault Value :=
  match result with
  | some v => .ok v
  | none => .error (.rejected value target)

end Cast

/-
  Cast a single value.  A list tag is judged where lists are
  bound, so it leaves a single value as it is.
-/
def TypeTag.cast
    (tag : TypeTag)
    (value : Value) : Except CastFault Value :=
  if value.isNull then .ok value
  else
    match tag with
    | string =>
        Cast.orRejected value "string"
          ((Cast.textOf? value).map .text)
    | integer =>
        Cast.orRejected value "integer"
          ((Cast.intOf? value).map .int)
    | unsigned => (Cast.unsignedOf value).map .int
    | float =>
        Cast.orRejected value "float"
          ((Cast.floatOf? value).map .float)
    | boolean =>
        Cast.orRejected value "boolean"
          ((Cast.boolOf? value).map .bool)
    | list => .ok value

end SqlAccess
