import SqlAccess.Number.Binary64

/-
  This file finds the shortest decimal that reads back as a
  given floating-point number.  The reals that round to the
  number form an interval around its value; the coarsest
  decimal grid with a point in that interval wins, and of
  two such points the nearer one.

  Key definitions include:
    * `Decimal`
    * `Decimal.Ties`
    * `Decimal.Neighbourhood`
    * `Decimal.Neighbourhood.onGrid?`
    * `Decimal.shortest`
-/

namespace SqlAccess

/- The decimal `digits * 10 ^ exponent`. -/
structure Decimal where
  digits : Nat
  exponent : Int
deriving DecidableEq, Repr

namespace Decimal

/- The decimal digits of a whole number, first one first. -/
def digitChars (n : Nat) : List Char :=
  Nat.toDigits 10 n

/- Which of two equally near decimals is taken. -/
inductive Ties
  | upward
  | toEven
deriving DecidableEq, Repr

/-
  The same decimal without trailing zeros.  Every division
  by ten takes one digit away, so as many steps as there are
  digits are enough.
-/
def trimmed (d : Decimal) : Decimal :=
  go (digitChars d.digits).length d
where
  go : Nat → Decimal → Decimal
    | 0, d => d
    | steps + 1, d =>
        if d.digits ≠ 0 ∧ d.digits % 10 = 0 then
          go steps ⟨d.digits / 10, d.exponent + 1⟩
        else
          d

------------------------------------------------------------
-- The Reals That Round to a Number
------------------------------------------------------------

/-
  The value of a positive number with the two ends of the
  interval of reals that round to it, all over one
  denominator.
-/
structure Neighbourhood where
  low : Nat
  value : Nat
  high : Nat
  den : Nat
  closed : Bool
deriving Repr

/-
  The neighbourhood of a positive finite number.  Below a
  power of two the numbers lie twice as close, and the ends
  belong to the interval iff the significand is even.
-/
def neighbourhood (x : Binary64) : Neighbourhood :=
  let below :=
    if x.fractionField = 0 ∧ 1 < x.exponentField then
      1
    else
      2
  let quarters := 4 * x.significand
  let (unit, den) := Ieee.scaleDown 1 1 (2 - x.exponent)
  { low := (quarters - below) * unit
    value := quarters * unit
    high := (quarters + 2) * unit
    den := den
    closed := x.significand % 2 = 0 }

namespace Neighbourhood

/- Whether a quotient lies in the interval. -/
def contains
    (n : Neighbourhood)
    (num den : Nat) : Bool :=
  if n.closed then
    n.low * den ≤ num * n.den &&
      num * n.den ≤ n.high * den
  else
    n.low * den < num * n.den && num * n.den < n.high * den

/-
  The number of digits before the point, less the zeros
  after it: the value is at least one tenth of ten to this
  power and below that power.  No finite number needs more
  than the given number of steps.
-/
def magnitude (n : Neighbourhood) : Int :=
  if n.den ≤ n.value then
    ((digitChars (n.value / n.den)).length : Int)
  else
    go 400 n.value 0
where
  go : Nat → Nat → Int → Int
    | 0, _, zeros => zeros
    | steps + 1, value, zeros =>
        if n.den ≤ 10 * value then zeros
        else go steps (10 * value) (zeros - 1)

/-
  The point of the grid of multiples of a power of ten that
  lies in the interval and is nearest to the value, if any
  lies there.  Only the two points around the value can be.
-/
def onGrid?
    (n : Neighbourhood)
    (ties : Ties)
    (exponent : Int) : Option Nat :=
  let (unitNum, unitDen) : Nat × Nat :=
    match exponent with
    | .ofNat k => (Nat.pow 10 k, 1)
    | .negSucc k => (1, Nat.pow 10 (k + 1))
  let num := n.value * unitDen
  let den := n.den * unitNum
  let below := num / den
  let above := below + 1
  match
    n.contains (below * unitNum) unitDen,
    n.contains (above * unitNum) unitDen
  with
  | false, false => none
  | true, false => some below
  | false, true => some above
  | true, true =>
      let twice := 2 * (num % den)
      if twice < den then some below
      else if den < twice then some above
      else
        match ties with
        | .upward => some above
        | .toEven => some (below + below % 2)

end Neighbourhood

------------------------------------------------------------
-- The Shortest Decimal
------------------------------------------------------------

/-
  The shortest decimal that reads back as a positive finite
  number.  Seventeen digits tell any two numbers apart.
-/
def shortest
    (ties : Ties)
    (x : Binary64) : Decimal :=
  let around := neighbourhood x
  let magnitude := around.magnitude
  let found :=
    (List.range 17).findSome? fun places =>
      let exponent := magnitude - (places + 1 : Nat)
      (around.onGrid? ties exponent).map
        (Decimal.mk · exponent)
  trimmed (found.getD ⟨0, 0⟩)

end Decimal

end SqlAccess
