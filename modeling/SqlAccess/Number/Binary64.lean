import SqlAccess.Number.Ieee

/-
  This file defines 64-bit binary floating-point numbers by
  their bits.  Every operation reads the exact value off the
  bits and rounds once, so the value of a number is a whole
  number times a power of two.

  Key definitions include:
    * `Binary64`
    * `Binary64.significand`
    * `Binary64.exponent`
    * `Binary64.ofQuotient`
    * `Binary64.ofInt`
    * `Binary64.toInt?`
    * `Binary64.numericEq`
    * `Binary64.toSingleBits`
-/

namespace SqlAccess

/- A 64-bit floating-point number, as its bits. -/
structure Binary64 where
  bits : UInt64
deriving DecidableEq, Repr, Inhabited

namespace Binary64

------------------------------------------------------------
-- Fields and Classes
------------------------------------------------------------

/- Whether the sign bit is set. -/
def isNegative (x : Binary64) : Bool :=
  Nat.pow 2 63 ≤ x.bits.toNat

/- The bits below the sign. -/
def magnitude (x : Binary64) : Nat :=
  x.bits.toNat % Nat.pow 2 63

/- The biased exponent. -/
def exponentField (x : Binary64) : Nat :=
  x.magnitude / Nat.pow 2 52

/- The significand without its implicit leading one. -/
def fractionField (x : Binary64) : Nat :=
  x.magnitude % Nat.pow 2 52

/- Not a number. -/
def isNaN (x : Binary64) : Bool :=
  x.exponentField = 2047 ∧ x.fractionField ≠ 0

/- Positive or negative infinity. -/
def isInfinite (x : Binary64) : Bool :=
  x.exponentField = 2047 ∧ x.fractionField = 0

/- A number with a value. -/
def isFinite (x : Binary64) : Bool :=
  x.exponentField < 2047

/-
  The whole part of the value: a finite number is its
  significand times two to its exponent.
-/
def significand (x : Binary64) : Nat :=
  if x.exponentField = 0 then x.fractionField
  else x.fractionField + Nat.pow 2 52

/- The exponent of the last place of the significand. -/
def exponent (x : Binary64) : Int :=
  (max x.exponentField 1 : Nat) - 1075

/- Positive or negative zero. -/
def isZero (x : Binary64) : Bool :=
  x.magnitude = 0

------------------------------------------------------------
-- Construction
------------------------------------------------------------

/- A number from its sign and the bits below the sign. -/
def ofMagnitude
    (negative : Bool)
    (magnitude : Nat) : Binary64 :=
  ⟨UInt64.ofNat
    (if negative then Nat.pow 2 63 + magnitude
      else magnitude)⟩

/- Positive zero. -/
def zero : Binary64 := ⟨0⟩

/- The quiet number that is none. -/
def nan : Binary64 := ⟨0x7ff8000000000000⟩

/- Infinity of either sign. -/
def infinity (negative : Bool) : Binary64 :=
  ofMagnitude negative Ieee.double.infinity

/- The number nearest to a quotient. -/
def ofQuotient
    (negative : Bool)
    (num den : Nat) : Binary64 :=
  ofMagnitude negative
    (Ieee.roundMagnitude Ieee.double num den)

/-
  The number nearest to a quotient times a power of two.
-/
def ofScaled
    (negative : Bool)
    (num den : Nat)
    (exponent : Int) : Binary64 :=
  let (num, den) := Ieee.scaleDown num den (-exponent)
  ofQuotient negative num den

/- The number nearest to a whole number. -/
def ofInt (i : Int) : Binary64 :=
  ofQuotient (i < 0) i.natAbs 1

/- The number nearest to a power of ten. -/
def powerOfTen (n : Nat) : Binary64 :=
  ofQuotient false (Nat.pow 10 n) 1

/- The opposite number. -/
def neg (x : Binary64) : Binary64 :=
  ofMagnitude (!x.isNegative) x.magnitude

------------------------------------------------------------
-- Arithmetic on Finite Numbers
------------------------------------------------------------

/- The rounded product of two finite numbers. -/
def mul (x y : Binary64) : Binary64 :=
  ofScaled (x.isNegative != y.isNegative)
    (x.significand * y.significand) 1
    (x.exponent + y.exponent)

/-
  The rounded quotient of two finite numbers, the second
  other than zero.
-/
def div (x y : Binary64) : Binary64 :=
  ofScaled (x.isNegative != y.isNegative)
    x.significand y.significand
    (x.exponent - y.exponent)

------------------------------------------------------------
-- Comparison and Conversion
------------------------------------------------------------

/-
  Equality of numbers: zeros of both signs are equal, and
  what is not a number equals nothing.
-/
def numericEq (x y : Binary64) : Bool :=
  !x.isNaN && !y.isNaN &&
    (x.bits == y.bits || (x.isZero && y.isZero))

/- The value of a finite number without a fraction. -/
def toInt? (x : Binary64) : Option Int :=
  if !x.isFinite then none
  else
    let sign : Int := if x.isNegative then -1 else 1
    match x.exponent with
    | .ofNat n =>
        some (sign * (x.significand * Nat.pow 2 n : Nat))
    | .negSucc n =>
        let unit := Nat.pow 2 (n + 1)
        if x.significand % unit = 0 then
          some (sign * (x.significand / unit : Nat))
        else
          none

/-
  The bits of the nearest 32-bit number.  What is not a
  number stays so.
-/
def toSingleBits (x : Binary64) : UInt32 :=
  let magnitude : Nat :=
    if x.isNaN then
      Ieee.single.infinity + Nat.pow 2 22
    else if x.isInfinite then
      Ieee.single.infinity
    else
      let (num, den) :=
        Ieee.scaleDown x.significand 1 (-x.exponent)
      Ieee.roundMagnitude Ieee.single num den
  UInt32.ofNat
    (if x.isNegative then Nat.pow 2 31 + magnitude
      else magnitude)

end Binary64

end SqlAccess
