/-
  This file reads percent-encoded text: a percent sign and
  two hexadecimal digits stand for a byte, and every other
  character stands for its own bytes in UTF-8.  A percent
  sign that no two digits follow stands for itself.

  Key definitions include:
    * `Percent.hexDigit?`
    * `Percent.decode`
    * `Percent.text?`
-/

namespace SqlAccess

namespace Percent

/- The value of a hexadecimal digit. -/
def hexDigit? (c : Char) : Option Nat :=
  if c.isDigit then some (c.toNat - '0'.toNat)
  else if 'a' ≤ c && c ≤ 'f' then
    some (c.toNat - 'a'.toNat + 10)
  else if 'A' ≤ c && c ≤ 'F' then
    some (c.toNat - 'A'.toNat + 10)
  else none

/- The byte that two hexadecimal digits stand for. -/
def byte? (high low : Char) : Option UInt8 := do
  return UInt8.ofNat
    (16 * (← hexDigit? high) + (← hexDigit? low))

/- The bytes that percent-encoded text stands for. -/
def decode : List Char → List UInt8
  | [] => []
  | '%' :: high :: low :: rest =>
      match byte? high low with
      | some byte => byte :: decode rest
      | none =>
          String.utf8EncodeChar '%' ++
            decode (high :: low :: rest)
  | c :: rest => String.utf8EncodeChar c ++ decode rest

/- The decoded text, if the bytes are text. -/
def text? (text : List Char) : Option (List Char) :=
  (String.fromUTF8? ⟨(decode text).toArray⟩).map
    String.toList

end Percent

end SqlAccess
