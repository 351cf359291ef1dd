import SqlAccess.Proofs.Number.Conversion
import SqlAccess.Proofs.Value.Cast

/-
  This file shows which floats are cast to integers: those
  that are a whole number of 64 bits, and they become that
  number.  The least integer is left out, because its size
  is no 64-bit integer.

  Key definitions include:
    * `Binary64.FitsInt64`

  Key theorems include:
    * `Binary64.toInt?_eq_some_iff`
    * `Cast.intOf?_float_eq_some_iff`
    * `TypeTag.cast_float_exact`
-/

namespace SqlAccess

------------------------------------------------------------
-- Whole Numbers
------------------------------------------------------------

namespace Binary64

/- The number of a finite float, with its sign in front. -/
theorem number?_of_isFinite
    {x : Binary64}
    (hFinite : x.isFinite = true) :
    x.number? =
      some ((if x.isNegative then -1 else 1)
        * (x.significand * (2 : ℚ) ^ x.exponent)) :=
  if_pos hFinite

/-
  A quotient is a whole number exactly if nothing remains.
-/
theorem quotient_eq_intCast_iff
    {part unit : Nat} {sign i : Int}
    (hUnit : 0 < unit)
    (hSign : sign = 1 ∨ sign = -1) :
    (sign : ℚ) * (part / unit) = i ↔
      part % unit = 0 ∧
        sign * (part / unit : Nat) = i := by
  have hNonzero : (unit : ℚ) ≠ 0 := by
    exact_mod_cast hUnit.ne'
  by_cases hMod : part % unit = 0
  · rcases Nat.dvd_of_mod_eq_zero hMod with
      ⟨count, rfl⟩
    rw [and_iff_right hMod,
      Nat.mul_div_cancel_left count hUnit, Nat.cast_mul,
      mul_div_cancel_left₀ _ hNonzero]
    exact_mod_cast Iff.rfl
  · rw [iff_false_right (fun hWhole => hMod hWhole.1)]
    intro hValue
    have hProduct : (sign : ℚ) * part = i * unit := by
      rw [← hValue]
      field_simp
    have hWhole : sign * part = i * unit := by
      exact_mod_cast hProduct
    have hDivides : (unit : Int) ∣ part := by
      refine ⟨sign * i, ?_⟩
      rcases hSign with rfl | rfl <;> linarith
    exact hMod
      (Nat.mod_eq_zero_of_dvd (by exact_mod_cast hDivides))

/-
  A float is a whole number exactly if its value is one.  An
  exponent below zero stands for a division, which has to
  leave no rest.
-/
theorem toInt?_eq_some_iff
    {x : Binary64} {i : Int} :
    x.toInt? = some i ↔ x.number? = some (i : ℚ) := by
  unfold toInt?
  cases hFinite : x.isFinite with
  | false => simp [number?, hFinite]
  | true =>
      have hSign :
          ((if x.isNegative then -1 else 1 : Int) : ℚ) =
            if x.isNegative then -1 else 1 := by
        split <;> norm_num
      rw [number?_of_isFinite hFinite, ← hSign]
      generalize hSigned :
        (if x.isNegative then -1 else 1 : Int) = sign
      have hUnits : sign = 1 ∨ sign = -1 := by
        rw [← hSigned]
        split <;> simp
      cases x.exponent with
      | ofNat n =>
          simp only [Bool.not_true, Bool.false_eq_true,
            if_false, Option.some.injEq,
            Int.ofNat_eq_natCast, zpow_natCast]
          exact_mod_cast Iff.rfl
      | negSucc n =>
          have hUnit : 0 < Nat.pow 2 (n + 1) :=
            Nat.pow_pos Nat.two_pos
          have hValue :
              (x.significand : ℚ) *
                  (2 : ℚ) ^ Int.negSucc n =
                x.significand /
                  (Nat.pow 2 (n + 1) : Nat) := by
            rw [zpow_negSucc, ← div_eq_mul_inv,
              Nat.pow_eq]
            push_cast
            rfl
          rw [hValue, Option.some_inj,
            quotient_eq_intCast_iff hUnit hUnits]
          simp only [Bool.not_true, Bool.false_eq_true,
            if_false]
          split
          · next hMod =>
              rw [and_iff_right hMod, Option.some_inj]
          · next hMod =>
              rw [iff_false_right
                (fun hWhole => hMod hWhole.1)]
              exact Option.some_ne_none i ∘ Eq.symm

/-
  Whether a float is finite, and its value is whole and in
  the range of the integers of 64 bits.
-/
structure FitsInt64 (x : Binary64) (r : ℚ) : Prop where
  value : x.number? = some r
  whole : r.den = 1
  least : -2 ^ 63 ≤ r
  greatest : r ≤ 2 ^ 63 - 1

/- A whole number in this range fits. -/
theorem fitsInt64_of_number?
    {x : Binary64} {i : Int}
    (hNumber : x.number? = some (i : ℚ))
    (hLeast : -2 ^ 63 ≤ i)
    (hGreatest : i < 2 ^ 63) : x.FitsInt64 i where
  value := hNumber
  whole := Rat.den_intCast i
  least := by exact_mod_cast hLeast
  greatest := by
    have hBound : i ≤ 2 ^ 63 - 1 := by omega
    exact_mod_cast hBound

/- Such a float is one of the integers of 64 bits. -/
theorem fitsInt64_iff
    {x : Binary64} {r : ℚ} :
    x.FitsInt64 r ↔
      ∃ i : Int64,
        (i.toInt : ℚ) = r ∧ x.number? = some r := by
  constructor
  · intro hFits
    have hNum : (r.num : ℚ) = r := by
      exact (Rat.den_eq_one_iff r).1 hFits.whole
    have hLeast : -2 ^ 63 ≤ r.num := by
      have hBound := hFits.least
      rw [← hNum] at hBound
      exact_mod_cast hBound
    have hGreatest : r.num ≤ 2 ^ 63 - 1 := by
      have hBound := hFits.greatest
      rw [← hNum] at hBound
      exact_mod_cast hBound
    refine ⟨Int64.ofInt r.num, ?_, hFits.value⟩
    rw [Int64.toInt_ofInt_of_le hLeast (by omega), hNum]
  · intro hExact
    rcases hExact with ⟨i, rfl, hNumber⟩
    exact fitsInt64_of_number? hNumber (Int64.le_toInt i)
      (Int64.toInt_lt i)

end Binary64

------------------------------------------------------------
-- Casts of Floats
------------------------------------------------------------

namespace Cast

/-
  A float becomes an integer if it is that integer, and its
  size is below two to the 63rd.
-/
theorem intOf?_float_eq_some_iff
    {x : Binary64} {i : Int64} :
    intOf? (.float x) = some i ↔
      x.number? = some (i.toInt : ℚ) ∧
        i ≠ Int64.minValue := by
  have hLeast := Int64.le_toInt i
  have hGreatest := Int64.toInt_lt i
  have hMin :
      i = Int64.minValue ↔ i.toInt = -2 ^ 63 := by
    rw [← Int64.toInt_inj, Int64.toInt_minValue]
  have hCast :
      intOf? (.float x) =
        x.toInt?.bind fun j =>
          if j.natAbs < Nat.pow 2 63 then
            some (Int64.ofInt j)
          else none := by
    simp only [intOf?]
    cases x.toInt? <;> rfl
  rw [hCast, Option.bind_eq_some_iff,
    ← Binary64.toInt?_eq_some_iff, Nat.pow_eq]
  constructor
  · intro hFits
    rcases hFits with ⟨j, hWhole, hSize⟩
    split at hSize
    · next hSmall =>
        cases hSize
        have hSame : (Int64.ofInt j).toInt = j :=
          Int64.toInt_ofInt_of_le (by omega) (by omega)
        rw [Ne, hMin, hSame]
        exact ⟨hWhole, by omega⟩
    · cases hSize
  · intro hExact
    rcases hExact with ⟨hWhole, hNe⟩
    rw [Ne, hMin] at hNe
    refine ⟨i.toInt, hWhole, ?_⟩
    rw [if_pos (by omega), Int64.ofInt_toInt]

end Cast

namespace TypeTag

/- What a float is cast to where an integer is wanted. -/
theorem cast_integer_float_eq_ok_iff
    {x : Binary64} {w : Value} :
    integer.cast (.float x) = .ok w ↔
      ∃ i : Int64, w = .int i ∧
        x.number? = some (i.toInt : ℚ) ∧
          i ≠ Int64.minValue := by
  rw [cast_eq_ok_iff (by simp), converted?,
    Option.map_eq_some_iff]
  constructor
  · intro hCast
    rcases hCast with ⟨i, hInt, rfl⟩
    exact ⟨i, rfl, Cast.intOf?_float_eq_some_iff.1 hInt⟩
  · intro hExact
    rcases hExact with ⟨i, rfl, hExact⟩
    exact ⟨i, Cast.intOf?_float_eq_some_iff.2 hExact,
      rfl⟩

/- Where none below zero is wanted, these are left out. -/
theorem cast_unsigned_float_eq_ok_iff
    {x : Binary64} {w : Value} :
    unsigned.cast (.float x) = .ok w ↔
      ∃ i : Int64, w = .int i ∧
        x.number? = some (i.toInt : ℚ) ∧ 0 ≤ i := by
  rw [cast_unsigned_eq_ok_iff, cast_integer_float_eq_ok_iff]
  constructor
  · intro hCast
    rcases hCast with
      ⟨⟨i, rfl, hNumber, -⟩, hNull | hSigned⟩
    · cases hNull
    · rcases hSigned with ⟨j, hSame, hSign⟩
      cases hSame
      exact ⟨i, rfl, hNumber, hSign⟩
  · intro hFits
    rcases hFits with ⟨i, rfl, hNumber, hSign⟩
    refine ⟨⟨i, rfl, hNumber, ?_⟩,
      .inr ⟨i, rfl, hSign⟩⟩
    rintro rfl
    exact absurd hSign (by decide)

/-
  A float is cast to an integer if and only if it is finite,
  and its value is whole, in the range of 64 bits and not
  the least integer; for an integer without a sign, if and
  only if it is moreover not below zero.  A zero with a sign
  has the value zero.  Either cast gives the integer that
  the float is.
-/
theorem cast_float_exact (x : Binary64) :
    ((∃ w, integer.cast (.float x) = .ok w) ↔
        ∃ r, x.FitsInt64 r ∧ r ≠ -2 ^ 63) ∧
      ((∃ w, unsigned.cast (.float x) = .ok w) ↔
        ∃ r, x.FitsInt64 r ∧ 0 ≤ r) ∧
      (∀ w,
        integer.cast (.float x) = .ok w ∨
            unsigned.cast (.float x) = .ok w →
          ∃ i : Int64,
            w = .int i ∧
              x.number? = some (i.toInt : ℚ)) := by
  have hLeast :
      ∀ i : Int64,
        i ≠ Int64.minValue ↔
          (i.toInt : ℚ) ≠ -2 ^ 63 := by
    intro i
    rw [Ne, ← Int64.toInt_inj, Int64.toInt_minValue]
    exact_mod_cast Iff.rfl
  have hSign :
      ∀ i : Int64, 0 ≤ i ↔ (0 : ℚ) ≤ i.toInt := by
    intro i
    rw [Int64.le_iff_toInt_le, Int64.toInt_zero]
    exact_mod_cast Iff.rfl
  simp only [cast_integer_float_eq_ok_iff,
    cast_unsigned_float_eq_ok_iff, Binary64.fitsInt64_iff]
  refine ⟨⟨?_, ?_⟩, ⟨?_, ?_⟩, ?_⟩
  · intro hCast
    rcases hCast with ⟨_, i, -, hNumber, hNe⟩
    exact ⟨_, ⟨i, rfl, hNumber⟩, (hLeast i).1 hNe⟩
  · intro hFits
    rcases hFits with ⟨_, ⟨i, rfl, hNumber⟩, hNe⟩
    exact ⟨.int i, i, rfl, hNumber, (hLeast i).2 hNe⟩
  · intro hCast
    rcases hCast with ⟨_, i, -, hNumber, hNonneg⟩
    exact ⟨_, ⟨i, rfl, hNumber⟩,
      (hSign i).1 hNonneg⟩
  · intro hFits
    rcases hFits with
      ⟨_, ⟨i, rfl, hNumber⟩, hNonneg⟩
    exact ⟨.int i, i, rfl, hNumber, (hSign i).2 hNonneg⟩
  · intro w hCast
    rcases hCast with
      ⟨i, hValue, hNumber, -⟩ |
        ⟨i, hValue, hNumber, -⟩
    · exact ⟨i, hValue, hNumber⟩
    · exact ⟨i, hValue, hNumber⟩

/-
  The size of the least integer is out of range, so the
  float that is this integer is rejected.
-/
theorem least_integer_rejected :
    let x : Binary64 := ⟨0xc3e0000000000000⟩
    x.FitsInt64 (-2 ^ 63) ∧
      integer.cast (.float x) =
        .error (.rejected (.float x) "integer") := by
  intro x
  have hWhole : x.toInt? = some (-2 ^ 63) := by
    decide +kernel
  have hFits : x.FitsInt64 ((-2 ^ 63 : Int) : ℚ) :=
    Binary64.fitsInt64_of_number?
      (Binary64.toInt?_eq_some_iff.1 hWhole) (le_refl _)
      (by norm_num)
  have hNone : Cast.intOf? (.float x) = none := by
    simp only [Cast.intOf?, hWhole]
    rfl
  refine ⟨by exact_mod_cast hFits, ?_⟩
  simp [cast, Value.isNull, hNone, Cast.orRejected]

/-
  The next float above it is cast to an integer, and the
  zero below zero to the integer zero.
-/
theorem cast_float_exact_sample :
    let x : Binary64 := ⟨0xc3dfffffffffffff⟩
    let zero : Binary64 := ⟨0x8000000000000000⟩
    x.FitsInt64 (-9223372036854774784) ∧
      (∃ w, integer.cast (.float x) = .ok w) ∧
      ¬ (∃ w, unsigned.cast (.float x) = .ok w) ∧
      zero.FitsInt64 0 ∧
      ∃ w, unsigned.cast (.float zero) = .ok w := by
  intro x zero
  have hWhole : x.toInt? = some (-9223372036854774784) := by
    decide +kernel
  have hZero : zero.toInt? = some 0 := by
    decide +kernel
  have hFits :
      x.FitsInt64 ((-9223372036854774784 : Int) : ℚ) :=
    Binary64.fitsInt64_of_number?
      (Binary64.toInt?_eq_some_iff.1 hWhole) (by norm_num)
      (by norm_num)
  have hZeroFits : zero.FitsInt64 ((0 : Int) : ℚ) :=
    Binary64.fitsInt64_of_number?
      (Binary64.toInt?_eq_some_iff.1 hZero) (by norm_num)
      (by norm_num)
  push_cast at hFits hZeroFits
  refine ⟨hFits,
    (cast_float_exact x).1.2 ⟨_, hFits, by norm_num⟩,
      ?_, hZeroFits,
    (cast_float_exact zero).2.1.2
      ⟨0, hZeroFits, le_refl 0⟩⟩
  intro hCast
  rcases (cast_float_exact x).2.1.1 hCast with
    ⟨r, hOther, hSign⟩
  have hSame :=
    Option.some.inj (hOther.value.symm.trans hFits.value)
  rw [hSame] at hSign
  norm_num at hSign

end TypeTag

end SqlAccess
