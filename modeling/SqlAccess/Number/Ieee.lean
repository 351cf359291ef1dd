/-
  This file defines the interchange formats of binary
  floating-point numbers and the one rounding that every
  conversion into such a format goes through.

  Key definitions include:
    * `Ieee.Format`
    * `Ieee.double`
    * `Ieee.single`
    * `Ieee.roundHalfEven`
    * `Ieee.roundMagnitude`
-/

namespace SqlAccess

namespace Ieee

------------------------------------------------------------
-- Formats
------------------------------------------------------------

/-
  A binary format: the number of significant bits, the
  implicit leading one included, and the width of the
  exponent field.
-/
structure Format where
  precision : Nat
  exponentBits : Nat
deriving DecidableEq, Repr

/- The format of a 64-bit number. -/
def double : Format := ⟨53, 11⟩

/- The format of a 32-bit number. -/
def single : Format := ⟨24, 8⟩

namespace Format

/-
  The exponent of the last place of the smallest numbers:
  every finite number is a whole multiple of two to this
  power.
-/
def leastExponent (format : Format) : Int :=
  3 - (Nat.pow 2 (format.exponentBits - 1) : Nat)
    - format.precision

/- The bits of positive infinity. -/
def infinity (format : Format) : Nat :=
  (Nat.pow 2 format.exponentBits - 1)
    * Nat.pow 2 (format.precision - 1)

end Format

------------------------------------------------------------
-- Rounding
------------------------------------------------------------

/-
  The whole number nearest to a quotient; a half goes to the
  even neighbour.
-/
def roundHalfEven
    (num den : Nat) : Nat :=
  let quotient := num / den
  let twice := 2 * (num % den)
  if twice < den then quotient
  else if den < twice then quotient + 1
  else quotient + quotient % 2

/-
  The quotient of two positive numbers, divided by a power
  of two, as a quotient of whole numbers.
-/
def scaleDown
    (num den : Nat)
    (exponent : Int) : Nat × Nat :=
  match exponent with
  | .ofNat n => (num, den * Nat.pow 2 n)
  | .negSucc n => (num * Nat.pow 2 (n + 1), den)

/-
  The exponent of the last place that a positive quotient
  has in a format: the leading bit of the quotient is then
  the leading bit of the significand, unless the quotient is
  below the normal range.
-/
def lastPlace
    (format : Format)
    (num den : Nat) : Int :=
  let guess : Int :=
    (num.log2 : Int) - (den.log2 : Int)
      - (format.precision - 1 : Nat)
  let (scaledNum, scaledDen) := scaleDown num den guess
  let exponent :=
    if scaledNum <
      scaledDen * Nat.pow 2 (format.precision - 1)
    then guess - 1
    else guess
  max exponent format.leastExponent

/-
  The bits, sign excluded, of the number of a format nearest
  to a quotient.  A significand that rounds up to the next
  power of two carries into the exponent field by itself,
  and what is past the largest number is infinity.
-/
def roundMagnitude
    (format : Format)
    (num den : Nat) : Nat :=
  if num = 0 then 0
  else
    let exponent := lastPlace format num den
    let (scaledNum, scaledDen) := scaleDown num den exponent
    let significand := roundHalfEven scaledNum scaledDen
    let step := (exponent - format.leastExponent).toNat
    min (step * Nat.pow 2 (format.precision - 1) +
      significand)
      format.infinity

end Ieee

end SqlAccess
