import SqlAccess.Json.Basic
import SqlAccess.Number.Layout
import SqlAccess.Text.Quoted

/-
  This file writes JSON documents: as compact JSON text, and
  in the form that names the kind of every part, which error
  messages show.

  Key definitions include:
    * `Json.numberLayout`
    * `Json.quote`
    * `Json.text`
    * `Json.inspect`
-/

namespace SqlAccess

namespace Json

------------------------------------------------------------
-- Compact Text
------------------------------------------------------------

/-
  Floating-point numbers have a point or an exponent; the
  exponent begins at ten to the sixteenth and below ten to
  the minus fifth, and is signed.
-/
def numberLayout : Decimal.Layout :=
  { window := some (-5, 16)
    keepsPoint := true
    plusSign := true
    ties := .toEven }

/- The text of a number. -/
def Number.text : Number → String
  | .natural n => toString n.toNat
  | .negative n => toString n.toInt
  | .float x => numberLayout.render x

/- A hexadecimal number of four digits. -/
def hex4 (n : Nat) : String :=
  let digits := Nat.toDigits 16 n
  String.ofList
    (List.replicate (4 - digits.length) '0' ++ digits)

/-
  The form of a character in a JSON string.  Only the quote,
  the backslash and the controls below the space are
  escaped.
-/
def escape (c : Char) : String :=
  if c = '\"' then "\\\""
  else if c = '\\' then "\\\\"
  else if c = '\n' then "\\n"
  else if c = '\r' then "\\r"
  else if c = '\t' then "\\t"
  else if c.toNat = 8 then "\\b"
  else if c.toNat = 12 then "\\f"
  else if c.toNat < 0x20 then "\\u" ++ hex4 c.toNat
  else String.singleton c

/- A JSON string. -/
def quote (s : String) : String :=
  "\"" ++ String.join (s.toList.map escape) ++ "\""

/- A sequence of texts with commas between them. -/
def commas (texts : List String) : String :=
  ",".intercalate texts

mutual

/- The text of a document, without blanks. -/
def text : Json → String
  | .null => "null"
  | .bool true => "true"
  | .bool false => "false"
  | .number n => n.text
  | .string s => quote s
  | .array items => "[" ++ commas (itemTexts items) ++ "]"
  | .object members =>
      "\x7b" ++ commas (memberTexts members) ++ "\x7d"

/- The texts of documents. -/
def itemTexts : List Json → List String
  | [] => []
  | item :: rest => text item :: itemTexts rest

/- The texts of members. -/
def memberTexts : List (String × Json) → List String
  | [] => []
  | (name, value) :: rest =>
      (quote name ++ ":" ++ text value) :: memberTexts rest

end

------------------------------------------------------------
-- Inspection
------------------------------------------------------------

mutual

/- A document with the kind of every part. -/
def inspect : Json → String
  | .null => "Null"
  | .bool true => "Bool(true)"
  | .bool false => "Bool(false)"
  | .number n => "Number(" ++ n.text ++ ")"
  | .string s => "String(" ++ Quoted.quote s ++ ")"
  | .array items =>
      "Array [" ++
        ", ".intercalate (inspectItems items) ++ "]"
  | .object members =>
      "Object \x7b" ++
        ", ".intercalate (inspectMembers members) ++ "\x7d"

/- The parts of an array. -/
def inspectItems : List Json → List String
  | [] => []
  | item :: rest => inspect item :: inspectItems rest

/- The parts of an object. -/
def inspectMembers : List (String × Json) → List String
  | [] => []
  | (name, value) :: rest =>
      (Quoted.quote name ++ ": " ++ inspect value)
        :: inspectMembers rest

end

end Json

end SqlAccess
