import SqlAccess.Number.Binary64

/-
  This file reads whole numbers and floating-point numbers
  from decimal text.  The text must be a number from its
  first character to its last; surrounding white space is
  the caller's business.

  Key definitions include:
    * `Reading.digits?`
    * `Reading.wholeNumber?`
    * `Reading.naturalNumber?`
    * `Reading.int64?`
    * `Reading.Numeral`
    * `Reading.binary64?`
-/

namespace SqlAccess

namespace Reading

------------------------------------------------------------
-- Digits and Signs
------------------------------------------------------------

/- The digit that an ASCII character stands for. -/
def digitValue (c : Char) : Nat :=
  c.toNat - '0'.toNat

/- The number that a run of digits stands for. -/
def digitsValue (digits : List Char) : Nat :=
  digits.foldl (fun n c => 10 * n + digitValue c) 0

/- A number of at least one digit and nothing else. -/
def digits? (text : List Char) : Option Nat :=
  if text.isEmpty || !text.all Char.isDigit then none
  else some (digitsValue text)

/- An optional sign, and what follows it. -/
def splitSign : List Char → Bool × List Char
  | '-' :: rest => (true, rest)
  | '+' :: rest => (false, rest)
  | text => (false, text)

------------------------------------------------------------
-- Whole Numbers
------------------------------------------------------------

/- One optional sign and digits. -/
def wholeNumber? (text : List Char) : Option Int :=
  let (negative, rest) := splitSign text
  (digits? rest).map fun n =>
    if negative then -(n : Int) else n

/- Digits after an optional plus sign. -/
def naturalNumber? : List Char → Option Nat
  | '+' :: rest => digits? rest
  | text => digits? text

/- A whole number that fits 64 bits. -/
def int64? (text : List Char) : Option Int64 :=
  match wholeNumber? text with
  | some i =>
      if -Int.pow 2 63 ≤ i && i < Int.pow 2 63 then
        some (Int64.ofInt i)
      else none
  | none => none

------------------------------------------------------------
-- Floating-Point Numbers
------------------------------------------------------------

/-
  The decimal `digits * 10 ^ exponent` as it was written.
-/
structure Numeral where
  digits : Nat
  exponent : Int
deriving Repr

/-
  An exponent: nothing, or the letter, an optional sign and
  digits.
-/
def exponent? : List Char → Option Int
  | [] => some 0
  | c :: rest =>
      if c = 'e' || c = 'E' then wholeNumber? rest else none

/-
  Digits with at most one point among them, at least one
  digit in all, and an optional exponent.
-/
def numeral? (text : List Char) : Option Numeral :=
  let whole := text.takeWhile Char.isDigit
  let rest := text.dropWhile Char.isDigit
  let (fraction, rest) :=
    match rest with
    | '.' :: rest =>
        (rest.takeWhile Char.isDigit,
          rest.dropWhile Char.isDigit)
    | rest => ([], rest)
  if whole.isEmpty && fraction.isEmpty then none
  else
    (exponent? rest).map fun exponent =>
      ⟨digitsValue (whole ++ fraction),
        exponent - fraction.length⟩

/-
  The number nearest to a numeral.  Past ten to the 310th
  everything is infinite and below ten to the -330th
  everything is zero, so no larger power is computed.
-/
def Numeral.toBinary64
    (negative : Bool)
    (n : Numeral) : Binary64 :=
  let leading : Int :=
    (Nat.toDigits 10 n.digits).length + n.exponent
  if n.digits = 0 || leading < -330 then
    Binary64.ofMagnitude negative 0
  else if 310 < leading then
    Binary64.infinity negative
  else
    match n.exponent with
    | .ofNat k =>
        Binary64.ofQuotient negative
          (n.digits * Nat.pow 10 k) 1
    | .negSucc k =>
        Binary64.ofQuotient negative n.digits
          (Nat.pow 10 (k + 1))

/-
  An optional sign before a numeral or before a name of
  infinity or of what is not a number, in letters of any
  case.
-/
def binary64? (text : List Char) : Option Binary64 :=
  let (negative, rest) := splitSign text
  let word := String.ofList (rest.map Char.toLower)
  if word = "inf" || word = "infinity" then
    some (Binary64.infinity negative)
  else if word = "nan" then
    some
      (if negative then Binary64.nan.neg else Binary64.nan)
  else
    (numeral? rest).map (Numeral.toBinary64 negative)

end Reading

end SqlAccess
