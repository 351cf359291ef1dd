import SqlAccess.Number.Reading
import SqlAccess.Text.Blank
import SqlAccess.Time.Timestamp

/-
  This file reads timestamps.  White space may stand before
  every number, and any amount of it, or none, between the
  day and the time.  Nothing may follow.

  Key definitions include:
    * `TimestampReader.year?`
    * `TimestampReader.field?`
    * `TimestampReader.fraction?`
    * `Timestamp.ofText?`
-/

namespace SqlAccess

namespace TimestampReader

/-
  A number of one digit or more, not more than a given count
  where there is one, and what follows.
-/
def digits?
    (most : Option Nat)
    (text : List Char) : Option (Nat × List Char) :=
  let run := text.takeWhile Char.isDigit
  let taken :=
    match most with
    | some most => run.take most
    | none => run
  if taken.isEmpty then none
  else
    some (Reading.digitsValue taken, text.drop taken.length)

/- A number of one or two digits after white space. -/
def field? (text : List Char) : Option (Nat × List Char) :=
  digits? (some 2) (Blank.trimStart text)

/-
  A year after white space: up to four digits, or a sign and
  any number of them.
-/
def year? (text : List Char) : Option (Int × List Char) :=
  match Blank.trimStart text with
  | '-' :: rest =>
      (digits? none rest).map fun (n, rest) =>
        (-(n : Int), rest)
  | '+' :: rest =>
      (digits? none rest).map fun (n, rest) =>
        ((n : Int), rest)
  | text =>
      (digits? (some 4) text).map fun (n, rest) =>
        ((n : Int), rest)

/- A given character. -/
def mark?
    (c : Char)
    (text : List Char) : Option (List Char) :=
  match text with
  | d :: rest => if d = c then some rest else none
  | [] => none

/-
  The nanoseconds of a fraction, if there is one.  Digits
  past the ninth are ignored.
-/
def fraction?
    (text : List Char) :
    Option (Nat × List Char) :=
  match text with
  | '.' :: rest =>
      let run := rest.takeWhile Char.isDigit
      let taken := run.take 9
      if taken.isEmpty then none
      else
        let scale := Nat.pow 10 (9 - taken.length)
        some
          (Reading.digitsValue taken * scale,
            rest.drop run.length)
  | text => some (0, text)

/-
  The second and nanosecond that a shown second and a
  fraction stand for.
-/
def clock?
    (shown nanos : Nat) : Option (Nat × Nat) :=
  if shown < 60 then some (shown, nanos)
  else if shown = 60 then some (59, Nat.pow 10 9 + nanos)
  else none

end TimestampReader

open TimestampReader in
/- The timestamp that a whole text is. -/
def Timestamp.ofText?
    (text : String) :
    Option Timestamp := do
  let (year, rest) ← year? text.toList
  let rest ← mark? '-' rest
  let (month, rest) ← field? rest
  let rest ← mark? '-' rest
  let (day, rest) ← field? rest
  let (hour, rest) ← field? rest
  let rest ← mark? ':' rest
  let (minute, rest) ← field? rest
  let rest ← mark? ':' rest
  let (shown, rest) ← field? rest
  let (nanos, rest) ← fraction? rest
  if !rest.isEmpty then none
  let (second, nano) ← clock? shown nanos
  Timestamp.of? year month day hour minute second nano

end SqlAccess
