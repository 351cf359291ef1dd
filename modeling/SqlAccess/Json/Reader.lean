import SqlAccess.Json.Basic
import SqlAccess.Number.Reading

/-
  This file reads JSON text.  Every reader takes the
  characters that are left and gives back what it read with
  the characters after it, or nothing if there is no such
  thing at this place.

  Key definitions include:
    * `Json.readNumber?`
    * `Json.readString?`
    * `Json.readValue?`
    * `Json.ofText?`
-/

namespace SqlAccess

namespace Json

------------------------------------------------------------
-- Numbers
------------------------------------------------------------

/-
  A decimal as the nearest number to its digits, multiplied
  or divided by a power of ten, each step rounded.  Of an
  exponent below the least power of ten, 308 tens are taken
  first.  Nothing is read where the result would be
  infinite.
-/
def decimal?
    (negative : Bool)
    (digits : Nat)
    (exponent : Int) : Option Binary64 :=
  let start := Binary64.ofQuotient false digits 1
  let signed (x : Binary64) : Binary64 :=
    if negative then x.neg else x
  match exponent with
  | .ofNat n =>
      if start.isZero then some (signed start)
      else if 308 < n then none
      else
        let x := start.mul (Binary64.powerOfTen n)
        if x.isInfinite then none else some (signed x)
  | .negSucc k =>
      let n := k + 1
      if n ≤ 308 then
        some (signed (start.div (Binary64.powerOfTen n)))
      else if n ≤ 616 then
        let x := start.div (Binary64.powerOfTen 308)
        some
          (signed (x.div (Binary64.powerOfTen (n - 308))))
      else
        some (signed Binary64.zero)

/-
  A number continued by leading digits while it fits 64 bits
  without a sign, and how many digits are left out.
-/
def leadingDigits (n : Nat) : List Char → Nat × Nat
  | [] => (n, 0)
  | c :: rest =>
      let next := 10 * n + Reading.digitValue c
      if next < Nat.pow 2 64 then leadingDigits next rest
      else (n, rest.length + 1)

/- The exponent part of a number, if there is one. -/
def readExponent? :
    List Char → Option (Option Int × List Char)
  | c :: rest =>
      if c = 'e' || c = 'E' then
        let (negative, rest) := Reading.splitSign rest
        let digits := rest.takeWhile Char.isDigit
        (Reading.digits? digits).map fun n =>
          (some (if negative then -(n : Int) else n),
            rest.dropWhile Char.isDigit)
      else
        some (none, c :: rest)
  | [] => some (none, [])

/-
  The digits after the point of a number, if there is one.
-/
def readFraction? :
    List Char → Option (Option (List Char) × List Char)
  | '.' :: rest =>
      let digits := rest.takeWhile Char.isDigit
      if digits.isEmpty then none
      else some (some digits, rest.dropWhile Char.isDigit)
  | rest => some (none, rest)

/-
  The number of a whole part alone: a whole number where it
  fits 64 bits and is not a negative zero.
-/
def wholeNumber?
    (negative : Bool)
    (digits : List Char) : Option Number :=
  let n := Reading.digitsValue digits
  if negative then
    if 0 < n && n ≤ Nat.pow 2 63 then
      some (.negative (Int64.ofInt (-(n : Int))))
    else
      let (leading, left) := leadingDigits 0 digits
      (decimal? true leading left).map .float
  else if n < Nat.pow 2 64 then
    some (.natural (UInt64.ofNat n))
  else
    let (leading, left) := leadingDigits 0 digits
    (decimal? false leading left).map .float

/-
  A number: an optional minus, digits without a needless
  zero before them, an optional fraction and an optional
  exponent.
-/
def readNumber?
    (text : List Char) : Option (Number × List Char) := do
  let (negative, text) :=
    match text with
    | '-' :: rest => (true, rest)
    | text => (false, text)
  let whole := text.takeWhile Char.isDigit
  if whole.isEmpty then none
  if 1 < whole.length && whole.head? = some '0' then none
  let (fraction, rest) ←
    readFraction? (text.dropWhile Char.isDigit)
  let (exponent, rest) ← readExponent? rest
  match fraction, exponent with
  | none, none =>
      let n ← wholeNumber? negative whole
      return (n, rest)
  | _, _ =>
      let fraction := fraction.getD []
      let (leading, left) := leadingDigits 0 whole
      let (leading, cut) := leadingDigits leading fraction
      let x ←
        decimal? negative leading
          (exponent.getD 0 + left + cut - fraction.length)
      return (.float x, rest)

------------------------------------------------------------
-- Strings
------------------------------------------------------------

/- The value of a hexadecimal digit. -/
def hexValue? (c : Char) : Option Nat :=
  if c.isDigit then some (c.toNat - '0'.toNat)
  else if 'a' ≤ c && c ≤ 'f' then
    some (c.toNat - 'a'.toNat + 10)
  else if 'A' ≤ c && c ≤ 'F' then
    some (c.toNat - 'A'.toNat + 10)
  else none

/- Four hexadecimal digits. -/
def readHex4? : List Char → Option (Nat × List Char)
  | a :: b :: c :: d :: rest => do
      let a ← hexValue? a
      let b ← hexValue? b
      let c ← hexValue? c
      let d ← hexValue? d
      return (((a * 16 + b) * 16 + c) * 16 + d, rest)
  | _ => none

/-
  A code point after the letter of its escape; one above the
  basic plane is written as two escapes.
-/
def readCodePoint?
    (text : List Char) : Option (Char × List Char) := do
  let (high, rest) ← readHex4? text
  if 0xd800 ≤ high && high < 0xdc00 then
    match rest with
    | '\\' :: 'u' :: rest =>
        let (low, rest) ← readHex4? rest
        if 0xdc00 ≤ low && low < 0xe000 then
          let code :=
            0x10000 + (high - 0xd800) * 0x400 +
              (low - 0xdc00)
          return (Char.ofNat code, rest)
        else
          none
    | _ => none
  else if 0xdc00 ≤ high && high < 0xe000 then
    none
  else
    return (Char.ofNat high, rest)

/- The character that an escape of one letter stands for. -/
def simpleEscape? (c : Char) : Option Char :=
  if c = '\"' then some '\"'
  else if c = '\\' then some '\\'
  else if c = '/' then some '/'
  else if c = 'b' then some (Char.ofNat 8)
  else if c = 'f' then some (Char.ofNat 12)
  else if c = 'n' then some '\n'
  else if c = 'r' then some '\r'
  else if c = 't' then some '\t'
  else none

/-
  The rest of a string after its opening quote.  Each step
  takes at least one character, so the steps given are
  enough once they are as many as the characters.
-/
def readChars? :
    Nat → List Char → List Char →
    Option (String × List Char)
  | 0, _, _ => none
  | _ + 1, _, [] => none
  | steps + 1, done, c :: rest =>
      if c = '\"' then
        some (String.ofList done.reverse, rest)
      else if c = '\\' then
        match rest with
        | 'u' :: rest =>
            match readCodePoint? rest with
            | some (c, rest) =>
                readChars? steps (c :: done) rest
            | none => none
        | c :: rest =>
            match simpleEscape? c with
            | some c => readChars? steps (c :: done) rest
            | none => none
        | [] => none
      else if c.toNat < 0x20 then
        none
      else
        readChars? steps (c :: done) rest

/- A string. -/
def readString? :
    List Char → Option (String × List Char)
  | '\"' :: rest => readChars? (rest.length + 1) [] rest
  | _ => none

------------------------------------------------------------
-- Documents
------------------------------------------------------------

/- Skip the blanks that may stand between two tokens. -/
def skipBlanks (text : List Char) : List Char :=
  text.dropWhile fun c =>
    c = ' ' || c = '\n' || c = '\t' || c = '\r'

/- Take a given beginning off a text. -/
def skipWord?
    (word : List Char)
    (text : List Char) : Option (List Char) :=
  if word.isPrefixOf text then some (text.drop word.length)
  else none

mutual

/-
  A document at the start of a text.  The first argument
  bounds the number of nested calls; every call takes a
  character, so the length of the text is enough.
-/
def readValue? :
    Nat → List Char → Option (Json × List Char)
  | 0, _ => none
  | steps + 1, text =>
      match skipBlanks text with
      | '[' :: rest =>
          match skipBlanks rest with
          | ']' :: rest => some (.array [], rest)
          | rest => do
              let (items, rest) ← readItems? steps rest
              return (.array items, rest)
      | '\x7b' :: rest =>
          match skipBlanks rest with
          | '\x7d' :: rest => some (.object [], rest)
          | rest => do
              let (members, rest) ←
                readMembers? steps rest
              return (ofMembers members, rest)
      | '\"' :: rest => do
          let (s, rest) ← readString? ('\"' :: rest)
          return (.string s, rest)
      | 'n' :: rest => do
          let rest ← skipWord? ['u', 'l', 'l'] rest
          return (.null, rest)
      | 't' :: rest => do
          let rest ← skipWord? ['r', 'u', 'e'] rest
          return (.bool true, rest)
      | 'f' :: rest => do
          let rest ← skipWord? ['a', 'l', 's', 'e'] rest
          return (.bool false, rest)
      | text => do
          let (n, rest) ← readNumber? text
          return (.number n, rest)

/- The items of an array up to its closing bracket. -/
def readItems? :
    Nat → List Char → Option (List Json × List Char)
  | 0, _ => none
  | steps + 1, text => do
      let (item, rest) ← readValue? steps text
      match skipBlanks rest with
      | ',' :: rest =>
          let (items, rest) ← readItems? steps rest
          return (item :: items, rest)
      | ']' :: rest => return ([item], rest)
      | _ => none

/- The members of an object up to its closing brace. -/
def readMembers? :
    Nat → List Char →
    Option (List (String × Json) × List Char)
  | 0, _ => none
  | steps + 1, text => do
      let (name, rest) ← readString? (skipBlanks text)
      match skipBlanks rest with
      | ':' :: rest =>
          let (value, rest) ← readValue? steps rest
          match skipBlanks rest with
          | ',' :: rest =>
              let (members, rest) ←
                readMembers? steps rest
              return ((name, value) :: members, rest)
          | '\x7d' :: rest => return ([(name, value)], rest)
          | _ => none
      | _ => none

end

/- The document that a whole text is. -/
def ofText? (text : String) : Option Json :=
  let text := text.toList
  match readValue? (2 * text.length + 1) text with
  | some (document, rest) =>
      if (skipBlanks rest).isEmpty then
        some document
      else
        none
  | none => none

end Json

end SqlAccess
