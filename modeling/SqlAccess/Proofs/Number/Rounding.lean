import Mathlib.Algebra.Order.Field.Power
import Mathlib.Data.Rat.Cast.Order
import Mathlib.Tactic.FieldSimp
import Mathlib.Tactic.Linarith
import Mathlib.Tactic.Positivity
import Mathlib.Tactic.Ring
import SqlAccess.Number.Ieee

/-
  This file gives the bits of a format their values as
  rational numbers, and proves that the one rounding of the
  library finds the nearest value.

  Key definitions include:
    * `Ieee.Format.value`
    * `Ieee.Format.IsNearest`

  Key theorems include:
    * `Ieee.Format.value_strictMono`
    * `Ieee.roundMagnitude_isNearest`
    * `Ieee.Format.IsNearest.unique`
-/

namespace SqlAccess

namespace Ieee

------------------------------------------------------------
-- Values of Bits
------------------------------------------------------------

namespace Format

variable (format : Format)

/- The first significand that has its leading bit. -/
def unit : Nat :=
  Nat.pow 2 (format.precision - 1)

/-
  How far the last place of some bits is above the least
  last place.
-/
def place (magnitude : Nat) : Nat :=
  magnitude / format.unit - 1

/-
  The significand of some bits, its leading bit included.
-/
def wholePart (magnitude : Nat) : Nat :=
  magnitude - format.place magnitude * format.unit

/-
  The value of the bits below the sign.  Infinity has the
  value that the number after the largest one would have.
-/
def value (magnitude : Nat) : ℚ :=
  format.wholePart magnitude *
    (2 : ℚ) ^ ((format.place magnitude : Int)
      + format.leastExponent)

theorem unit_pos : 0 < format.unit :=
  Nat.pow_pos Nat.two_pos

/-
  What the place takes up of some bits is not more than they
  are.
-/
theorem place_mul_unit_le (magnitude : Nat) :
    format.place magnitude * format.unit ≤ magnitude := by
  calc format.place magnitude * format.unit
      ≤ magnitude / format.unit * format.unit :=
        Nat.mul_le_mul_right _ (Nat.sub_le _ _)
    _ ≤ magnitude := Nat.div_mul_le_self _ _

/- The rest of the bits is their significand. -/
theorem place_mul_add_wholePart (magnitude : Nat) :
    format.place magnitude * format.unit
      + format.wholePart magnitude = magnitude :=
  Nat.add_sub_cancel' (format.place_mul_unit_le magnitude)

/-
  A significand is below twice the unit, and has its leading
  bit unless it is in the least place.
-/
theorem wholePart_bounds (magnitude : Nat) :
    format.wholePart magnitude < 2 * format.unit ∧
      (format.place magnitude = 0 ∨
        format.unit ≤ format.wholePart magnitude) := by
  have hUnit := format.unit_pos
  have hDivMod := Nat.div_add_mod magnitude format.unit
  have hMod := Nat.mod_lt magnitude hUnit
  rw [Nat.mul_comm] at hDivMod
  unfold wholePart place
  cases hField : magnitude / format.unit with
  | zero =>
      rw [hField] at hDivMod
      constructor
      · omega
      · left
        rfl
  | succ field =>
      rw [hField, Nat.succ_mul] at hDivMod
      rw [Nat.add_sub_cancel]
      constructor
      · omega
      · right
        omega

/-
  The value of bits that are given by a place and a
  significand.  The significand may be twice the unit, which
  carries into the place.
-/
theorem value_of_place
    {step significand : Nat}
    (hHigh : significand ≤ 2 * format.unit)
    (hLow : step = 0 ∨ format.unit ≤ significand) :
    format.value (step * format.unit + significand) =
      significand *
        (2 : ℚ) ^
          ((step : Int) + format.leastExponent) := by
  have hUnit := format.unit_pos
  rcases Nat.lt_or_ge significand (2 * format.unit) with
    hLess | hTwice
  · have hPlace :
        format.place (step * format.unit + significand) =
          step := by
      unfold place
      rw [Nat.add_comm, Nat.add_mul_div_right _ _ hUnit]
      rcases Nat.lt_or_ge significand format.unit with
        hSmall | hLarge
      · have hStep : step = 0 := by omega
        rw [Nat.div_eq_of_lt hSmall, hStep]
      · have hOne : significand / format.unit = 1 := by
          apply Nat.div_eq_of_lt_le
          · omega
          · omega
        rw [hOne]
        omega
    have hPart :
        format.wholePart
            (step * format.unit + significand) =
          significand := by
      unfold wholePart
      rw [hPlace, Nat.add_sub_cancel_left]
    unfold value
    rw [hPlace, hPart]
  · have hCarried :
        significand = 2 * format.unit := by omega
    have hSum :
        step * format.unit + significand =
          (step + 2) * format.unit := by
      rw [hCarried, Nat.add_mul]
    have hPlace :
        format.place ((step + 2) * format.unit) =
          step + 1 := by
      unfold place
      rw [Nat.mul_div_cancel _ hUnit]
      rfl
    have hPart :
        format.wholePart ((step + 2) * format.unit) =
          format.unit := by
      unfold wholePart
      rw [hPlace, ← Nat.sub_mul]
      have hOne : step + 2 - (step + 1) = 1 := by omega
      rw [hOne, Nat.one_mul]
    unfold value
    rw [hSum, hPlace, hPart, hCarried]
    have hExponent :
        ((step + 1 : Nat) : Int) + format.leastExponent =
          (step : Int) + format.leastExponent + 1 := by
      push_cast
      ring
    rw [hExponent, zpow_add_one₀ (by norm_num)]
    push_cast
    ring

/-
  From some bits to the next, the value goes up a last
  place.
-/
theorem value_succ (magnitude : Nat) :
    format.value (magnitude + 1) =
      format.value magnitude +
        (2 : ℚ) ^ ((format.place magnitude : Int)
          + format.leastExponent) := by
  rcases format.wholePart_bounds magnitude with
    ⟨hHigh, hLow⟩
  have hNext :
      magnitude + 1 =
        format.place magnitude * format.unit
          + (format.wholePart magnitude + 1) := by
    rw [← Nat.add_assoc, place_mul_add_wholePart]
  have hLowNext :
      format.place magnitude = 0 ∨
        format.unit ≤ format.wholePart magnitude + 1 :=
    hLow.imp_right Nat.le_succ_of_le
  rw [hNext, format.value_of_place hHigh hLowNext]
  unfold value
  push_cast
  ring

/- More bits have a larger value. -/
theorem value_strictMono : StrictMono format.value := by
  apply strictMono_nat_of_lt_succ
  intro magnitude
  rw [value_succ]
  have hPlace :
      (0 : ℚ) <
        (2 : ℚ) ^ ((format.place magnitude : Int) +
          format.leastExponent) := by
    positivity
  linarith

/- Bits have no negative value. -/
theorem value_nonneg (magnitude : Nat) :
    0 ≤ format.value magnitude := by
  unfold value
  positivity

/- Only the bits without a one have the value zero. -/
theorem value_eq_zero_iff (magnitude : Nat) :
    format.value magnitude = 0 ↔ magnitude = 0 := by
  have hZero : format.value 0 = 0 := by
    simp [value, wholePart]
  constructor
  · intro hValue
    exact format.value_strictMono.injective
      (hValue.trans hZero.symm)
  · intro hMagnitude
    rw [hMagnitude, hZero]

end Format

------------------------------------------------------------
-- Nearest Values
------------------------------------------------------------

namespace Format

variable (format : Format)

/-
  Some bits are those nearest to a number: none up to
  infinity have a nearer value, and where others are equally
  near, the last bit is a zero.
-/
def IsNearest (x : ℚ) (magnitude : Nat) : Prop :=
  magnitude ≤ format.infinity ∧
    ∀ other ≤ format.infinity,
      other ≠ magnitude →
        |format.value magnitude - x| <
            |format.value other - x| ∨
          (|format.value magnitude - x| =
              |format.value other - x| ∧
            magnitude % 2 = 0)

/-
  Some bits are chosen for a number between two neighbours:
  the nearer neighbour, and the even one where both are
  equally near.
-/
def IsChosen
    (low : Nat) (x : ℚ)
    (magnitude : Nat) : Prop :=
  (magnitude = low ∧
    (x - format.value low < format.value (low + 1) - x ∨
      (x - format.value low = format.value (low + 1) - x ∧
        low % 2 = 0))) ∨
  (magnitude = low + 1 ∧
    (format.value (low + 1) - x < x - format.value low ∨
      (format.value (low + 1) - x = x - format.value low ∧
        (low + 1) % 2 = 0)))

variable {format : Format}

/- The chosen neighbour is nearer than all other bits. -/
theorem IsChosen.nearest
    {low magnitude : Nat} {x : ℚ}
    (hLow : format.value low ≤ x)
    (hHigh : x < format.value (low + 1))
    (hChoice : format.IsChosen low x magnitude)
    {other : Nat}
    (hOther : other ≠ magnitude) :
    |format.value magnitude - x| <
      |format.value other - x| ∨
      (|format.value magnitude - x| =
        |format.value other - x| ∧
        magnitude % 2 = 0) := by
  have hLowDistance :
      |format.value low - x| = x - format.value low := by
    rw [abs_sub_comm, abs_of_nonneg (by linarith)]
  have hHighDistance :
      |format.value (low + 1) - x| =
        format.value (low + 1) - x :=
    abs_of_nonneg (by linarith)
  have hBelow :
      ∀ n < low,
        x - format.value low < |format.value n - x| := by
    intro n hLess
    have hValue := format.value_strictMono hLess
    rw [abs_sub_comm, abs_of_nonneg (by linarith)]
    linarith
  have hAbove :
      ∀ n > low + 1,
        format.value (low + 1) - x <
          |format.value n - x| := by
    intro n hMore
    have hValue := format.value_strictMono hMore
    rw [abs_of_nonneg (by linarith)]
    linarith
  rcases Nat.lt_trichotomy other low with
    hLess | hSame | hMore
  · have hFar := hBelow other hLess
    left
    rcases hChoice with ⟨rfl, hNear⟩ | ⟨rfl, hNear⟩
    · rw [hLowDistance]
      exact hFar
    · rw [hHighDistance]
      rcases hNear with hNear | ⟨hNear, -⟩ <;> linarith
  · subst hSame
    rcases hChoice with ⟨rfl, hNear⟩ | ⟨rfl, hNear⟩
    · exact absurd rfl hOther
    · rw [hLowDistance, hHighDistance]
      exact hNear
  · rcases Nat.eq_or_lt_of_le hMore with hNext | hFarther
    · subst hNext
      rcases hChoice with
        ⟨rfl, hNear⟩ | ⟨rfl, hNear⟩
      · rw [hLowDistance, hHighDistance]
        exact hNear
      · exact absurd rfl hOther
    · have hFar := hAbove other hFarther
      left
      rcases hChoice with
        ⟨rfl, hNear⟩ | ⟨rfl, hNear⟩
      · rw [hLowDistance]
        rcases hNear with
          hNear | ⟨hNear, -⟩ <;> linarith
      · rw [hHighDistance]
        exact hFar

/- Infinity is nearest to what is past it. -/
theorem infinity_isNearest
    {x : ℚ}
    (hPast : format.value format.infinity ≤ x) :
    format.IsNearest x format.infinity := by
  refine ⟨le_rfl, ?_⟩
  intro other hOther hNe
  left
  have hLess :
      format.value other < format.value format.infinity :=
    format.value_strictMono (lt_of_le_of_ne hOther hNe)
  rw [abs_sub_comm, abs_of_nonneg (by linarith),
    abs_sub_comm, abs_of_nonneg (by linarith)]
  linarith

/-
  A number has only one nearest bits: those between two even
  ones would be nearer than both.
-/
theorem IsNearest.unique
    {x : ℚ} {first second : Nat}
    (hFirst : format.IsNearest x first)
    (hSecond : format.IsNearest x second) :
    first = second := by
  by_contra hNe
  wlog hLess : first < second generalizing first second
  · have hMore : second < first := by omega
    exact this hSecond hFirst (Ne.symm hNe) hMore
  have hForth := hFirst.2 second hSecond.1 (Ne.symm hNe)
  have hBack := hSecond.2 first hFirst.1 hNe
  have hTie :
      |format.value first - x| =
        |format.value second - x| ∧
        first % 2 = 0 ∧ second % 2 = 0 := by
    rcases hForth with hForth | ⟨hEqual, hEven⟩
    · rcases hBack with
        hBack | ⟨hEqual, -⟩ <;> linarith
    · rcases hBack with hBack | ⟨-, hEven'⟩
      · linarith
      · exact ⟨hEqual, hEven, hEven'⟩
  rcases hTie with ⟨hEqual, hEven, hEven'⟩
  have hBetween : first + 1 < second := by omega
  have hAfter :=
    format.value_strictMono (Nat.lt_succ_self first)
  have hBefore := format.value_strictMono hBetween
  have hNearer :
      |format.value (first + 1) - x| <
        |format.value first - x| := by
    rcases abs_cases (format.value first - x) with
      h₁ | h₁ <;>
    rcases abs_cases (format.value second - x) with
      h₂ | h₂ <;>
    rcases abs_cases (format.value (first + 1) - x)
      with h₃ | h₃ <;>
    linarith
  have hMiddle :=
    hFirst.2 (first + 1) (by have := hSecond.1; omega)
      (by omega)
  rcases hMiddle with
    hMiddle | ⟨hMiddle, -⟩ <;> linarith

end Format

------------------------------------------------------------
-- The Nearest Whole Number
------------------------------------------------------------

/-
  A quotient is its whole part and the part of the
  remainder.
-/
theorem quotient_eq
    (num : Nat) {den : Nat}
    (hDen : 0 < den) :
    (num : ℚ) / den =
      (num / den : Nat) +
        (num % den : Nat) / (den : ℚ) := by
  have hPositive : (0 : ℚ) < den := by exact_mod_cast hDen
  have hDivMod :
      ((den * (num / den) + num % den : Nat) : ℚ) =
        num := by
    rw [Nat.div_add_mod]
  push_cast at hDivMod
  field_simp
  linarith

/-
  Rounding to a whole number takes the nearer neighbour, and
  the even one where both are equally near.
-/
theorem roundHalfEven_nearest
    (num : Nat) {den : Nat}
    (hDen : 0 < den) :
    (roundHalfEven num den = num / den ∧
      ((num : ℚ) / den - (num / den : Nat) <
          (num / den : Nat) + 1 - (num : ℚ) / den ∨
        ((num : ℚ) / den - (num / den : Nat) =
            (num / den : Nat) + 1 - (num : ℚ) / den ∧
          num / den % 2 = 0))) ∨
    (roundHalfEven num den = num / den + 1 ∧
      ((num / den : Nat) + 1 - (num : ℚ) / den <
          (num : ℚ) / den - (num / den : Nat) ∨
        ((num / den : Nat) + 1 - (num : ℚ) / den =
            (num : ℚ) / den - (num / den : Nat) ∧
          (num / den + 1) % 2 = 0))) := by
  have hPositive : (0 : ℚ) < den := by exact_mod_cast hDen
  rw [quotient_eq num hDen]
  unfold roundHalfEven
  rcases Nat.lt_trichotomy (2 * (num % den)) den
    with hLess | hHalf | hMore
  · left
    have hPart :
        (num % den : Nat) / (den : ℚ) < 1 / 2 := by
      rw [div_lt_div_iff₀ hPositive (by norm_num)]
      exact_mod_cast (by omega : num % den * 2 < 1 * den)
    refine ⟨by simp [hLess], ?_⟩
    left
    linarith
  · have hPart :
        (num % den : Nat) / (den : ℚ) = 1 / 2 := by
      rw [div_eq_div_iff hPositive.ne' (by norm_num)]
      exact_mod_cast (by omega : num % den * 2 = 1 * den)
    rcases Nat.mod_two_eq_zero_or_one (num / den) with
      hEven | hOdd
    · left
      refine ⟨by simp [hHalf, hEven], ?_⟩
      right
      exact ⟨by linarith, hEven⟩
    · right
      refine ⟨by simp [hHalf, hOdd], ?_⟩
      right
      exact ⟨by linarith, by omega⟩
  · right
    have hPart :
        1 / 2 < (num % den : Nat) / (den : ℚ) := by
      rw [div_lt_div_iff₀ (by norm_num) hPositive]
      exact_mod_cast (by omega : 1 * den < num % den * 2)
    refine ⟨by simp [hMore, Nat.lt_asymm hMore], ?_⟩
    left
    linarith

------------------------------------------------------------
-- The Last Place of a Quotient
------------------------------------------------------------

/- Scaling divides by a power of two. -/
theorem scaleDown_spec
    (num : Nat) {den : Nat}
    (hDen : 0 < den)
    (exponent : Int) :
    0 < (scaleDown num den exponent).2 ∧
      ((scaleDown num den exponent).1 : ℚ) /
          (scaleDown num den exponent).2 =
        num / den / (2 : ℚ) ^ exponent := by
  have hPositive : (0 : ℚ) < den := by exact_mod_cast hDen
  cases exponent with
  | ofNat n =>
      refine
        ⟨Nat.mul_pos hDen (Nat.pow_pos Nat.two_pos), ?_⟩
      simp only [scaleDown, Nat.pow_eq,
        Int.ofNat_eq_natCast, zpow_natCast]
      push_cast
      rw [div_div]
  | negSucc n =>
      refine ⟨hDen, ?_⟩
      simp only [scaleDown, Nat.pow_eq, zpow_negSucc]
      push_cast
      rw [div_inv_eq_mul, mul_div_right_comm]

/- A positive number is between two powers of two. -/
theorem log2_bounds
    {n : Nat}
    (hPositive : 0 < n) :
    (2 : ℚ) ^ (n.log2 : Int) ≤ n ∧
      (n : ℚ) < (2 : ℚ) ^ ((n.log2 : Int) + 1) := by
  constructor
  · rw [zpow_natCast]
    exact_mod_cast Nat.log2_self_le hPositive.ne'
  · have hPower :
        ((n.log2 : Int) + 1) =
          ((n.log2 + 1 : Nat) : Int) :=
      rfl
    rw [hPower, zpow_natCast]
    exact_mod_cast Nat.lt_log2_self

/-
  The quotient of two positive numbers by their leading
  bits.
-/
theorem quotient_bounds
    {num den : Nat}
    (hNum : 0 < num)
    (hDen : 0 < den) :
    (2 : ℚ) ^ ((num.log2 : Int) - den.log2 - 1) <
      num / den ∧
      (num : ℚ) / den <
        (2 : ℚ) ^ ((num.log2 : Int) - den.log2 + 1) := by
  have hPositive : (0 : ℚ) < den := by exact_mod_cast hDen
  rcases log2_bounds hNum with ⟨hNumLow, hNumHigh⟩
  rcases log2_bounds hDen with ⟨hDenLow, hDenHigh⟩
  have hTwo : (2 : ℚ) ≠ 0 := by norm_num
  constructor
  · rw [lt_div_iff₀ hPositive]
    calc (2 : ℚ) ^ ((num.log2 : Int) - den.log2 - 1) * den
        < (2 : ℚ) ^ ((num.log2 : Int) - den.log2 - 1)
            * (2 : ℚ) ^ ((den.log2 : Int) + 1) :=
          mul_lt_mul_of_pos_left hDenHigh (by positivity)
      _ = (2 : ℚ) ^ (num.log2 : Int) := by
          rw [← zpow_add₀ hTwo]
          congr 1
          ring
      _ ≤ num := hNumLow
  · rw [div_lt_iff₀ hPositive]
    calc (num : ℚ)
        < (2 : ℚ) ^ ((num.log2 : Int) + 1) := hNumHigh
      _ = (2 : ℚ) ^ ((num.log2 : Int) - den.log2 + 1)
            * (2 : ℚ) ^ (den.log2 : Int) := by
          rw [← zpow_add₀ hTwo]
          congr 1
          ring
      _ ≤ (2 : ℚ) ^ ((num.log2 : Int) - den.log2 + 1) *
        den :=
          mul_le_mul_of_nonneg_left hDenLow (by positivity)

/- The unit of a format is a power of two. -/
theorem Format.cast_unit (format : Format) :
    ((format.unit : Nat) : ℚ) =
      (2 : ℚ) ^ ((format.precision - 1 : Nat) : Int) := by
  rw [zpow_natCast]
  unfold Format.unit
  exact Nat.cast_pow 2 (format.precision - 1)

/-
  The last place goes with the leading bit, unless that is
  below the least place.
-/
theorem exists_lastPlace_eq
    (format : Format)
    {num den : Nat}
    (hNum : 0 < num)
    (hDen : 0 < den) :
    ∃ exponent : Int,
      lastPlace format num den =
          max exponent format.leastExponent ∧
        (num : ℚ) / den <
          (2 * format.unit : Nat) * (2 : ℚ) ^ exponent ∧
        (format.unit : Nat) * (2 : ℚ) ^ exponent ≤
          num / den := by
  have hTwo : (2 : ℚ) ≠ 0 := by norm_num
  rcases quotient_bounds hNum hDen with ⟨hLow, hHigh⟩
  let guess : Int :=
    (num.log2 : Int) - (den.log2 : Int)
      - (format.precision - 1 : Nat)
  rcases scaleDown_spec num hDen guess with
    ⟨hScaled, hQuotient⟩
  have hPositive :
      (0 : ℚ) < ((scaleDown num den guess).2 : ℚ) := by
    exact_mod_cast hScaled
  have hBelow :
      (scaleDown num den guess).1 <
          (scaleDown num den guess).2 * format.unit ↔
        (num : ℚ) / den <
          (format.unit : Nat) * (2 : ℚ) ^ guess := by
    rw [← div_lt_iff₀ (by positivity), ← hQuotient,
      div_lt_iff₀ hPositive, mul_comm]
    exact_mod_cast Iff.rfl
  by_cases hGuess :
    (scaleDown num den guess).1 <
      (scaleDown num den guess).2 * format.unit
  · refine ⟨guess - 1, ?_, ?_, ?_⟩
    · unfold lastPlace
      exact congrArg₂ max (if_pos hGuess) rfl
    · refine (hBelow.1 hGuess).trans_eq ?_
      rw [zpow_sub_one₀ hTwo]
      push_cast
      ring
    · refine le_of_eq_of_le ?_ hLow.le
      rw [format.cast_unit, ← zpow_add₀ hTwo]
      congr 1
      simp only [guess]
      ring
  · refine ⟨guess, ?_, ?_, ?_⟩
    · unfold lastPlace
      exact congrArg₂ max (if_neg hGuess) rfl
    · refine hHigh.trans_eq ?_
      push_cast
      rw [format.cast_unit, ← zpow_one_add₀ hTwo,
        ← zpow_add₀ hTwo]
      congr 1
      simp only [guess]
      ring
    · exact not_lt.1 (mt hBelow.2 hGuess)

/-
  Counted in its last place, a quotient is below twice the
  unit of its format, and not below the unit unless the last
  place is the least one.
-/
theorem lastPlace_bounds
    (format : Format)
    {num den : Nat}
    (hNum : 0 < num)
    (hDen : 0 < den) :
    format.leastExponent ≤ lastPlace format num den ∧
      (num : ℚ) / den <
        (2 * format.unit : Nat)
          * (2 : ℚ) ^ lastPlace format num den ∧
      (lastPlace format num den = format.leastExponent ∨
        (format.unit : Nat)
          * (2 : ℚ) ^ lastPlace format num den ≤
            num / den) := by
  rcases exists_lastPlace_eq format hNum hDen with
    ⟨exponent, hExponent, hAbove, hBelow⟩
  rw [hExponent]
  refine ⟨le_max_right _ _, ?_, ?_⟩
  · refine hAbove.trans_le ?_
    apply mul_le_mul_of_nonneg_left _ (Nat.cast_nonneg _)
    exact zpow_le_zpow_right₀ (by norm_num)
      (le_max_left _ _)
  · rcases le_total exponent format.leastExponent with
      hLeast | hMore
    · left
      exact max_eq_right hLeast
    · right
      rw [max_eq_left hMore]
      exact hBelow

------------------------------------------------------------
-- The Nearest Bits
------------------------------------------------------------

/- The unit of a format with a fraction is even. -/
theorem Format.unit_even
    {format : Format}
    (hPrecision : 2 ≤ format.precision) :
    format.unit % 2 = 0 := by
  obtain ⟨k, hk⟩ : ∃ k,
    format.precision - 1 = k + 1 :=
    ⟨format.precision - 2, by omega⟩
  unfold Format.unit
  rw [hk, Nat.pow_eq, Nat.pow_succ]
  exact Nat.mul_mod_left _ _

/- The value zero is nearest to itself. -/
theorem zero_isNearest (format : Format) :
    format.IsNearest 0 0 := by
  have hZero := (format.value_eq_zero_iff 0).2 rfl
  refine ⟨Nat.zero_le _, ?_⟩
  intro other hOther hNe
  left
  have hValue : format.value other ≠ 0 :=
    mt (format.value_eq_zero_iff other).1 hNe
  rw [hZero, sub_zero, sub_zero, abs_zero]
  exact abs_pos.2 hValue

section Place

variable {format : Format}
variable {step num den : Nat}
variable (hDen : 0 < den)
variable (hHigh : num < 2 * format.unit * den)
variable (hLow : step = 0 ∨ format.unit * den ≤ num)

include hDen hHigh hLow

/-
  A quotient that is counted in a place is between the bits
  of its whole part and the next bits.
-/
theorem between_at_place :
    format.value (step * format.unit + num / den) =
        (num / den : Nat)
          * (2 : ℚ) ^
            ((step : Int) + format.leastExponent) ∧
      format.value (step * format.unit + num / den + 1) =
        ((num / den : Nat) + 1)
          * (2 : ℚ) ^
            ((step : Int) + format.leastExponent) := by
  have hWhole : num / den < 2 * format.unit :=
    Nat.div_lt_of_lt_mul (by rwa [Nat.mul_comm])
  have hLeading :
      step = 0 ∨ format.unit ≤ num / den :=
    hLow.imp_right (Nat.le_div_iff_mul_le hDen).2
  constructor
  · exact format.value_of_place hWhole.le hLeading
  · rw [Nat.add_assoc,
      format.value_of_place hWhole
        (hLeading.imp_right Nat.le_succ_of_le)]
    push_cast
    rfl

/- Rounding the significand chooses between these bits. -/
theorem isChosen_at_place
    (hPrecision : 2 ≤ format.precision) :
    format.IsChosen (step * format.unit + num / den)
      ((num : ℚ) / den
        * (2 : ℚ) ^ ((step : Int) + format.leastExponent))
      (step * format.unit + roundHalfEven num den) := by
  have hScale :
      (0 : ℚ) <
        (2 : ℚ) ^
          ((step : Int) + format.leastExponent) := by
    positivity
  have hEven : step * format.unit % 2 = 0 := by
    rw [Nat.mul_mod, Format.unit_even hPrecision]
    simp
  rcases between_at_place hDen hHigh hLow with
    ⟨hValue, hNext⟩
  unfold Format.IsChosen
  rw [hValue, hNext, ← sub_mul, ← sub_mul]
  rcases roundHalfEven_nearest num hDen
    with ⟨hDown, hNear⟩ | ⟨hUp, hNear⟩
  · left
    refine ⟨by rw [hDown], ?_⟩
    rcases hNear with hNear | ⟨hNear, hWhole⟩
    · left
      exact mul_lt_mul_of_pos_right hNear hScale
    · right
      exact ⟨by rw [hNear], by omega⟩
  · right
    refine ⟨by rw [hUp, Nat.add_assoc], ?_⟩
    rcases hNear with hNear | ⟨hNear, hWhole⟩
    · left
      exact mul_lt_mul_of_pos_right hNear hScale
    · right
      exact ⟨by rw [hNear], by omega⟩

/-
  What rounding the significand gives is the nearest of all
  bits, cut off at infinity.
-/
theorem isNearest_at_place
    (hPrecision : 2 ≤ format.precision) :
    format.IsNearest
      ((num : ℚ) / den
        * (2 : ℚ) ^ ((step : Int) + format.leastExponent))
      (min (step * format.unit + roundHalfEven num den)
        format.infinity) := by
  have hPositive : (0 : ℚ) < den := by exact_mod_cast hDen
  have hScale :
      (0 : ℚ) <
        (2 : ℚ) ^
          ((step : Int) + format.leastExponent) := by
    positivity
  rcases between_at_place hDen hHigh hLow with
    ⟨hValue, hNext⟩
  have hQuotient := quotient_eq num hDen
  have hPart :
      (0 : ℚ) ≤ (num % den : Nat) / (den : ℚ) := by
    positivity
  have hBelow : (num % den : Nat) / (den : ℚ) < 1 := by
    rw [div_lt_one hPositive]
    exact_mod_cast Nat.mod_lt num hDen
  have hAbove :
      format.value (step * format.unit + num / den) ≤
        (num : ℚ) / den
          * (2 : ℚ) ^
            ((step : Int) + format.leastExponent) := by
    rw [hValue]
    apply mul_le_mul_of_nonneg_right _ hScale.le
    linarith
  have hUnder :
      (num : ℚ) / den
          * (2 : ℚ) ^
            ((step : Int) + format.leastExponent) <
        format.value
          (step * format.unit + num / den + 1) := by
    rw [hNext]
    apply mul_lt_mul_of_pos_right _ hScale
    linarith
  have hChosen :=
    isChosen_at_place hDen hHigh hLow hPrecision
  rcases Nat.lt_or_ge format.infinity
      (step * format.unit + roundHalfEven num den) with
        hPast | hWithin
  · rw [min_eq_right hPast.le]
    apply Format.infinity_isNearest
    refine le_trans ?_ hAbove
    apply format.value_strictMono.monotone
    rcases hChosen with
      ⟨hMagnitude, -⟩ | ⟨hMagnitude, -⟩ <;> omega
  · rw [min_eq_left hWithin]
    exact ⟨hWithin, fun other _ hOther =>
      hChosen.nearest hAbove hUnder hOther⟩

end Place

/-
  Rounding a quotient into a format gives the bits nearest
  to it.
-/
theorem roundMagnitude_isNearest
    {format : Format}
    (hPrecision : 2 ≤ format.precision)
    (num : Nat) {den : Nat}
    (hDen : 0 < den) :
    format.IsNearest (num / den)
      (roundMagnitude format num den) := by
  rcases Nat.eq_zero_or_pos num with rfl | hNum
  · rw [Nat.cast_zero, zero_div]
    exact zero_isNearest format
  · rcases lastPlace_bounds format hNum hDen
      with ⟨hLeast, hBelow, hLeading⟩
    obtain ⟨step, hStep⟩ :
        ∃ step : Nat,
          lastPlace format num den =
            (step : Int) + format.leastExponent :=
      ⟨(lastPlace format num den -
        format.leastExponent).toNat,
        by omega⟩
    rw [hStep] at hBelow hLeading
    rcases scaleDown_spec num hDen
        ((step : Int) + format.leastExponent)
      with ⟨hScaled, hQuotient⟩
    generalize hPair :
      scaleDown num den
          ((step : Int) + format.leastExponent) =
        scaled at hScaled hQuotient
    have hScale :
        (0 : ℚ) <
          (2 : ℚ) ^
            ((step : Int) + format.leastExponent) := by
      positivity
    have hPositive : (0 : ℚ) < (scaled.2 : ℚ) := by
      exact_mod_cast hScaled
    have hHigh : scaled.1 < 2 * format.unit * scaled.2 := by
      rw [← div_lt_iff₀ hScale, ← hQuotient,
        div_lt_iff₀ hPositive]
        at hBelow
      exact_mod_cast hBelow
    have hLow :
        step = 0 ∨
          format.unit * scaled.2 ≤ scaled.1 := by
      apply hLeading.imp
      · intro hLeast
        omega
      · intro hUnit
        rw [← le_div_iff₀ hScale, ← hQuotient,
          le_div_iff₀ hPositive]
          at hUnit
        exact_mod_cast hUnit
    have hRound :
        roundMagnitude format num den =
          min (step * format.unit
              + roundHalfEven scaled.1 scaled.2)
            format.infinity := by
      have hToNat :
          ((step : Int) + format.leastExponent
            - format.leastExponent).toNat = step := by
        omega
      unfold roundMagnitude
      simp only [if_neg hNum.ne', hStep, hPair, hToNat]
      rfl
    have hWhole :
        (scaled.1 : ℚ) / scaled.2
            * (2 : ℚ) ^
              ((step : Int) + format.leastExponent) =
          num / den := by
      rw [hQuotient, div_mul_cancel₀ _ hScale.ne']
    rw [hRound, ← hWhole]
    exact isNearest_at_place hScaled hHigh hLow hPrecision

end Ieee

end SqlAccess
