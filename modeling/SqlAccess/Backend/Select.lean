import SqlAccess.Backend.Sqlite
import SqlAccess.Number.Reading
import SqlAccess.Text.Blank

/-
  This file answers selections that read no table: a row of
  markers and literals, each with an optional name.  It is
  what an in-memory database is asked when nothing is stored
  in it.

  Key definitions include:
    * `Select.Expression`
    * `Select.readItem?`
    * `Select.ofText?`
    * `Select.answer`
-/

namespace SqlAccess

namespace Select

------------------------------------------------------------
-- Expressions
------------------------------------------------------------

/- A marker of a number, or a literal. -/
inductive Expression
  | marker (number : Nat)
  | literal (value : Value)

/- A selected expression and the name of its column. -/
structure Item where
  expression : Expression
  name : String

/- A text without white space at either end. -/
def trimmed (text : List Char) : List Char :=
  Blank.trim text

/- Whether a text is a word, in letters of any case. -/
def isWord (word : String) (text : List Char) : Bool :=
  String.ofList (text.map Char.toLower) = word

/- A text in single quotes, where two quotes are one. -/
def quoted? : List Char → Option (List Char)
  | ['\x27'] => some []
  | '\x27' :: '\x27' :: rest =>
      (quoted? rest).map ('\x27' :: ·)
  | c :: rest =>
      if c = '\x27' then
        none
      else
        (quoted? rest).map (c :: ·)
  | [] => none

/- A number: whole if it fits 64 bits, and else a float. -/
def number? (text : List Char) : Option Value :=
  match Reading.int64? text with
  | some i => some (.int i)
  | none =>
      if text.all fun c => c.isDigit ||
        c ∈ ".eE+-".toList then
        (Reading.binary64? text).map .float
      else
        none

/- The literal that a text is. -/
def literal? (text : List Char) : Option Value :=
  match text with
  | '\x27' :: rest =>
      (quoted? rest).map fun s => .text (String.ofList s)
  | _ =>
      if isWord "null" text then some .null
      else if isWord "true" text then some (.int 1)
      else if isWord "false" text then some (.int 0)
      else number? text

/-
  The expression that a text is.  A marker without a number
  takes the one after the last.
-/
def expression?
    (last : Nat)
    (text : List Char) : Option Expression :=
  match text with
  | ['?'] => some (.marker (last + 1))
  | '?' :: digits => (Reading.digits? digits).map .marker
  | _ => (literal? text).map .literal

------------------------------------------------------------
-- Items
------------------------------------------------------------

/- Cut a text at commas that are not in quotes. -/
def splitCommas : Bool → List Char → List (List Char)
  | _, [] => [[]]
  | inQuotes, c :: rest =>
      if c = ',' && !inQuotes then
        [] :: splitCommas inQuotes rest
      else
        match splitCommas (inQuotes != (c = '\x27'))
          rest with
        | [] => [[c]]
        | item :: items => (c :: item) :: items

/- Cut a text at the last word `as` that stands alone. -/
def splitAs : List Char → List Char × Option (List Char)
  | [] => ([], none)
  | c :: rest =>
      match splitAs rest with
      | (front, some name) => (c :: front, some name)
      | (front, none) =>
          if Blank.isBlank c && isWord "as" (rest.take 2) &&
              (rest[2]?).any Blank.isBlank
          then ([], some (trimmed (rest.drop 2)))
          else (c :: front, none)

/- The name that a text gives, without quotes around it. -/
def nameText (text : List Char) : String :=
  match text with
  | '\"' :: rest => String.ofList rest.dropLast
  | _ => String.ofList text

/-
  An item.  The column of an expression without a name has
  the text of the expression as its name.
-/
def readItem?
    (last : Nat)
    (text : List Char) : Option Item :=
  let (front, name) := splitAs text
  let source := trimmed front
  (expression? last source).map fun expression =>
    { expression := expression
      name := nameText (name.getD source) }

/- The number of the last marker after an expression. -/
def lastMarker (last : Nat) : Expression → Nat
  | .marker number => max last number
  | .literal _ => last

/- Items one after the other. -/
def readItems?
    (last : Nat) : List (List Char) → Option (List Item)
  | [] => some []
  | text :: rest => do
      let item ← readItem? last text
      let items ←
        readItems? (lastMarker last item.expression) rest
      return item :: items

/- The items of a selection. -/
def ofText? (sql : String) : Option (List Item) :=
  let text := trimmed sql.toList
  let body := text.drop 6
  if isWord "select" (text.take 6) &&
    body.head?.any Blank.isBlank
  then
    readItems? 0 (splitCommas false body)
  else
    none

------------------------------------------------------------
-- Answers
------------------------------------------------------------

/- The number of values that some items need. -/
def needed (items : List Item) : Nat :=
  items.foldl (fun last item =>
    lastMarker last item.expression) 0

/- The value of an expression. -/
def Expression.value
    (values : List Value) : Expression → Value
  | marker number =>
      (values[number - 1]?).elim .null Stored.roundTrip
  | literal value => value

/- The answer to a selection with values for its markers. -/
def answer
    (sql : String)
    (values : List Value) : Except Error ResultSet :=
  match ofText? sql with
  | none => .error (.query sql "not a selection of values")
  | some items =>
      if values.length = needed items then
        .ok
          ⟨items.map Item.name,
            [items.map fun item =>
              item.expression.value values]⟩
      else
        .error <|
          wrongParameterCount sql values.length
            (needed items)

end Select

end SqlAccess
