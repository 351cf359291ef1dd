/-
  This file defines lengths of time and their text.

  Key definitions include:
    * `Duration`
    * `Duration.ofMillis`
    * `Duration.toMillis`
    * `Duration.text`
-/

namespace SqlAccess

/- A length of time in whole nanoseconds. -/
structure Duration where
  nanos : Nat
deriving DecidableEq, Repr, Inhabited

namespace Duration

/- A length of time from seconds and nanoseconds. -/
def ofParts (seconds nanos : Nat) : Duration :=
  ⟨seconds * Nat.pow 10 9 + nanos⟩

/- A length of time from milliseconds. -/
def ofMillis (millis : Nat) : Duration :=
  ⟨millis * Nat.pow 10 6⟩

/- The whole seconds. -/
def seconds (d : Duration) : Nat :=
  d.nanos / Nat.pow 10 9

/- The nanoseconds past the whole seconds. -/
def subsecond (d : Duration) : Nat :=
  d.nanos % Nat.pow 10 9

/-
  The whole milliseconds, as a number of 64 bits.  What does
  not fit becomes the largest such number.
-/
def toMillis (d : Duration) : Nat :=
  min (d.nanos / Nat.pow 10 6) (Nat.pow 2 64 - 1)

/-
  A number of nanoseconds in a unit of so many decimal
  places, without trailing zeros.
-/
def inUnit
    (nanos places : Nat)
    (unit : String) : String :=
  let fraction :=
    Nat.toDigits 10 (nanos % Nat.pow 10 places)
  let padded :=
    List.replicate (places - fraction.length) '0' ++
      fraction
  let shown :=
    (padded.reverse.dropWhile (· = '0')).reverse
  toString (nanos / Nat.pow 10 places) ++
    (if shown.isEmpty then ""
     else "." ++ String.ofList shown) ++
    unit

/-
  The text of a length of time, in the largest unit of which
  it has at least one.
-/
def text (d : Duration) : String :=
  if Nat.pow 10 9 ≤ d.nanos then inUnit d.nanos 9 "s"
  else if Nat.pow 10 6 ≤ d.nanos then
    inUnit d.nanos 6 "ms"
  else if Nat.pow 10 3 ≤ d.nanos then
    inUnit d.nanos 3 "µs"
  else inUnit d.nanos 0 "ns"

end Duration

end SqlAccess
