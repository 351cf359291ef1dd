import SqlAccess.Text.Printable

/-
  This file writes text between double quotes, with every
  character escaped that would not show as itself.

  Key definitions include:
    * `Quoted.hex`
    * `Quoted.escape`
    * `Quoted.quote`
-/

namespace SqlAccess

namespace Quoted

/- A number in lower-case hexadecimal digits. -/
def hex (n : Nat) : String :=
  String.ofList (Nat.toDigits 16 n)

/- An escape that names a code point. -/
def codePoint (c : Char) : String :=
  "\\u\x7b" ++ hex c.toNat ++ "\x7d"

/- The form of one character between the quotes. -/
def escape (c : Char) : String :=
  if c.toNat = 0 then "\\0"
  else if c = '\t' then "\\t"
  else if c = '\n' then "\\n"
  else if c = '\r' then "\\r"
  else if c = '\"' then "\\\""
  else if c = '\\' then "\\\\"
  else if Printable.standsAlone c then String.singleton c
  else codePoint c

/- A text in double quotes. -/
def quote (text : String) : String :=
  "\"" ++ String.join (text.toList.map escape) ++ "\""

end Quoted

end SqlAccess
