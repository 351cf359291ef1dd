import SqlAccess.Number.Binary64
import SqlAccess.Proofs.Number.Rounding

/-
  This file gives floating-point numbers their values as
  rational numbers, and proves that the conversion to 32
  bits finds the nearest number.

  Key definitions include:
    * `Ieee.Format.number?`
    * `Ieee.Format.Rounds`
    * `Binary64.number?`

  Key theorems include:
    * `Binary64.number?_eq`
    * `Binary64.toSingleBits_rounds`
-/

namespace SqlAccess

------------------------------------------------------------
-- Bits with a Sign
------------------------------------------------------------

namespace Ieee

namespace Format

variable (format : Format)

/- The bit of the sign, which is above all others. -/
def signBit : Nat :=
  Nat.pow 2 (format.precision - 1 + format.exponentBits)

/-
  The number that bits stand for.  Infinity has none, and
  neither has what is not a number.
-/
def number? (bits : Nat) : Option ℚ :=
  if bits % format.signBit < format.infinity then
    if bits < format.signBit then
      some (format.value (bits % format.signBit))
    else
      some (-format.value (bits % format.signBit))
  else
    none

/-
  Bits are what a number is rounded to: below the sign they
  are nearest to its magnitude, and the sign is that of the
  number.
-/
structure Rounds (bits : Nat) (x : ℚ) : Prop where
  nearest : format.IsNearest |x| (bits % format.signBit)
  sign : x ≠ 0 → (format.signBit ≤ bits ↔ x < 0)

/- Infinity leaves the bit of the sign alone. -/
theorem infinity_lt_signBit :
    format.infinity < format.signBit := by
  have hExponent : 0 < Nat.pow 2 format.exponentBits :=
    Nat.pow_pos Nat.two_pos
  have hUnit : 0 < Nat.pow 2 (format.precision - 1) :=
    Nat.pow_pos Nat.two_pos
  have hSign :
      format.signBit =
        Nat.pow 2 format.exponentBits
          * Nat.pow 2 (format.precision - 1) := by
    unfold signBit
    rw [Nat.pow_eq, Nat.pow_add, Nat.mul_comm]
    rfl
  rw [hSign]
  unfold infinity
  exact Nat.mul_lt_mul_of_pos_right
    (Nat.sub_lt hExponent Nat.one_pos) hUnit

end Format

end Ieee

------------------------------------------------------------
-- Numbers of 64 Bits
------------------------------------------------------------

namespace Binary64

/-
  The number that a finite floating-point number stands for.
-/
def number? (x : Binary64) : Option ℚ :=
  if x.isFinite then
    some ((if x.isNegative then -1 else 1)
      * (x.significand * (2 : ℚ) ^ x.exponent))
  else
    none

/-
  The fields of a number are those of its bits in the
  format.
-/
theorem significand_mul_exponent (x : Binary64) :
    (x.significand : ℚ) * (2 : ℚ) ^ x.exponent =
      Ieee.double.value x.magnitude := by
  have hUnit : Ieee.double.unit = Nat.pow 2 52 := rfl
  have hLeast : Ieee.double.leastExponent = -1074 := rfl
  have hPlace :
      Ieee.double.place x.magnitude =
        x.exponentField - 1 := rfl
  have hDivMod := Nat.div_add_mod x.magnitude (Nat.pow 2 52)
  have hPart :
      Ieee.double.wholePart x.magnitude =
        x.significand := by
    unfold Ieee.Format.wholePart significand
    rw [hPlace, hUnit]
    unfold exponentField fractionField
    cases hField : x.magnitude / Nat.pow 2 52 with
    | zero =>
        rw [hField] at hDivMod
        simp only [if_true]
        omega
    | succ field =>
        rw [hField, Nat.mul_succ] at hDivMod
        rw [if_neg (Nat.succ_ne_zero field),
          Nat.add_sub_cancel, Nat.mul_comm]
        omega
  have hExponent :
      ((Ieee.double.place x.magnitude : Nat) : Int)
          + Ieee.double.leastExponent =
        x.exponent := by
    rw [hPlace, hLeast]
    unfold exponent
    omega
  unfold Ieee.Format.value
  rw [hPart, hExponent]

/- A number is finite if its bits are below infinity. -/
theorem isFinite_iff (x : Binary64) :
    x.isFinite = true ↔
      x.magnitude < Ieee.double.infinity := by
  have hUnit : 0 < Nat.pow 2 52 := Nat.pow_pos Nat.two_pos
  have hInfinity :
      Ieee.double.infinity = 2047 * Nat.pow 2 52 := rfl
  unfold isFinite exponentField
  rw [decide_eq_true_iff, hInfinity]
  exact Nat.div_lt_iff_lt_mul hUnit

/- A number has the value of its bits. -/
theorem number?_eq (x : Binary64) :
    x.number? = Ieee.double.number? x.bits.toNat := by
  have hFinite := x.isFinite_iff
  have hMagnitude :
      x.bits.toNat % Ieee.double.signBit =
        x.magnitude := rfl
  unfold number? Ieee.Format.number?
  rw [significand_mul_exponent, hMagnitude]
  by_cases hBelow : x.magnitude < Ieee.double.infinity
  · rw [if_pos (hFinite.2 hBelow), if_pos hBelow]
    unfold isNegative
    by_cases hSign : x.bits.toNat < Ieee.double.signBit
    · have hPositive : ¬ Nat.pow 2 63 ≤ x.bits.toNat :=
        Nat.not_le.2 hSign
      rw [if_pos hSign, decide_eq_false hPositive]
      simp
    · have hNegative : Nat.pow 2 63 ≤ x.bits.toNat :=
        Nat.not_lt.1 hSign
      rw [if_neg hSign, decide_eq_true hNegative]
      simp
  · rw [if_neg (mt hFinite.1 hBelow), if_neg hBelow]

/-
  The magnitude of a number is the value of its lower bits.
-/
theorem abs_of_number?
    {x : Binary64} {r : ℚ}
    (hNumber : x.number? = some r) :
    |r| = Ieee.double.value x.magnitude ∧
      (r ≠ 0 → (x.isNegative = true ↔ r < 0)) := by
  unfold number? at hNumber
  rw [significand_mul_exponent] at hNumber
  have hNonneg := Ieee.double.value_nonneg x.magnitude
  cases hFinite : x.isFinite with
  | false => simp [hFinite] at hNumber
  | true =>
      cases hSign : x.isNegative with
      | false =>
          have hValue :
              Ieee.double.value x.magnitude = r := by
            simpa [hFinite, hSign] using hNumber
          rw [← hValue]
          refine ⟨abs_of_nonneg hNonneg, fun _ => ?_⟩
          simp [hNonneg]
      | true =>
          have hValue :
              -Ieee.double.value x.magnitude = r := by
            simpa [hFinite, hSign] using hNumber
          rw [← hValue, abs_neg]
          refine ⟨abs_of_nonneg hNonneg,
            fun hNonzero => ?_⟩
          have hPositive :
              0 < Ieee.double.value x.magnitude :=
            lt_of_le_of_ne hNonneg
              (Ne.symm (neg_ne_zero.1 hNonzero))
          simp [hPositive]

------------------------------------------------------------
-- Conversion to 32 Bits
------------------------------------------------------------

/-
  The 32 bits of a finite number are what it is rounded to.
-/
theorem toSingleBits_rounds
    {x : Binary64} {r : ℚ}
    (hNumber : x.number? = some r) :
    Ieee.single.Rounds x.toSingleBits.toNat r := by
  rcases abs_of_number? hNumber with ⟨hAbs, hSign⟩
  rcases Ieee.scaleDown_spec x.significand Nat.one_pos
    (-x.exponent)
    with ⟨hDen, hQuotient⟩
  generalize hPair :
    Ieee.scaleDown x.significand 1 (-x.exponent) = scaled
      at hDen hQuotient
  have hValue : (scaled.1 : ℚ) / scaled.2 = |r| := by
    rw [hQuotient, hAbs, ← significand_mul_exponent,
      Nat.cast_one, div_one, zpow_neg, div_inv_eq_mul]
  have hNearest :
      Ieee.single.IsNearest |r|
        (Ieee.roundMagnitude Ieee.single scaled.1
          scaled.2) := by
    rw [← hValue]
    exact Ieee.roundMagnitude_isNearest (by decide) _ hDen
  have hFinite : x.exponentField < 2047 := by
    by_contra hNot
    simp [number?, isFinite, hNot] at hNumber
  have hField : x.exponentField ≠ 2047 := hFinite.ne
  generalize hMagnitude :
    Ieee.roundMagnitude Ieee.single scaled.1 scaled.2 =
      magnitude
      at hNearest
  have hBits :
      x.toSingleBits =
        UInt32.ofNat
          (if x.isNegative then Nat.pow 2 31 + magnitude
           else magnitude) := by
    unfold toSingleBits
    simp [isNaN, isInfinite, hField, hPair, hMagnitude]
  have hBound : magnitude < Nat.pow 2 31 :=
    hNearest.1.trans_lt Ieee.single.infinity_lt_signBit
  have hSignBit : Ieee.single.signBit = Nat.pow 2 31 := rfl
  cases hNegative : x.isNegative with
  | false =>
      have hNat : x.toSingleBits.toNat = magnitude := by
        rw [hBits, hNegative]
        simp only [Bool.false_eq_true, if_false,
          UInt32.toNat_ofNat', Nat.pow_eq] at hBound ⊢
        omega
      constructor
      · rw [hNat, hSignBit, Nat.mod_eq_of_lt hBound]
        exact hNearest
      · intro hNonzero
        rw [← hSign hNonzero, hNat, hSignBit, hNegative]
        simpa using hBound
  | true =>
      have hNat :
          x.toSingleBits.toNat =
            Nat.pow 2 31 + magnitude := by
        rw [hBits, hNegative]
        simp only [if_true, UInt32.toNat_ofNat', Nat.pow_eq]
          at hBound ⊢
        omega
      constructor
      · rw [hNat, hSignBit, Nat.add_mod_left,
          Nat.mod_eq_of_lt hBound]
        exact hNearest
      · intro hNonzero
        rw [← hSign hNonzero, hNat, hSignBit, hNegative]
        simp

end Binary64

end SqlAccess
