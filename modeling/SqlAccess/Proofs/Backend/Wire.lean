import SqlAccess.Backend.Wire
import SqlAccess.Proofs.Number.Conversion

/-
  This file reads the bytes of numeric parameters as the
  server does, and says which numbers it finds there.  A
  whole number for a whole type and a float for a
  floating-point type arrive as they are, or are refused.  A
  number of the other sort is written in its own format, so
  that the server reads another number out of it, zero
  excepted.

  Key definitions include:
    * `Wire.fromBigEndian`
    * `Wire.signed`
    * `Wire.Kind.Holds`
    * `Value.number?`
    * `Wire.Faithful`

  Key theorems include:
    * `Wire.fromBigEndian_bigEndian`
    * `Wire.signed_signedBytes`
    * `Wire.reads_alike_iff`
    * `Wire.faithful_iff`
-/

namespace SqlAccess

namespace Wire

------------------------------------------------------------
-- Bytes as Numbers
------------------------------------------------------------

/- The number of bytes, the most significant one first. -/
def fromBigEndian (bytes : List UInt8) : Nat :=
  bytes.foldl (fun n byte => 256 * n + byte.toNat) 0

@[simp]
theorem length_bigEndian (width n : Nat) :
    (bigEndian width n).length = width := by
  induction width generalizing n with
  | zero => rfl
  | succ width ih => simp [bigEndian, ih]

/- The bytes of a number have that number. -/
theorem fromBigEndian_bigEndian
    {width n : Nat}
    (hBound : n < 2 ^ (8 * width)) :
    fromBigEndian (bigEndian width n) = n := by
  induction width generalizing n with
  | zero =>
      have hZero : n = 0 := by simpa using hBound
      rw [hZero]
      rfl
  | succ width ih =>
      have hRest : n / 256 < 2 ^ (8 * width) := by
        apply Nat.div_lt_of_lt_mul
        rwa [Nat.mul_succ, Nat.pow_add, Nat.mul_comm]
          at hBound
      have hLast :
          (UInt8.ofNat (n % 256)).toNat = n % 256 := by
        simp
      have hBytes := ih hRest
      unfold fromBigEndian at hBytes ⊢
      rw [bigEndian, List.foldl_append, hBytes,
        List.foldl_cons, List.foldl_nil, hLast]
      exact Nat.div_add_mod n 256

/- A number in two's complement of so many bytes. -/
def signed
    (width : Nat)
    (n : Nat) : Int :=
  if n < 2 ^ (8 * width - 1) then n
  else n - 2 ^ (8 * width)

/- The bytes of a whole number have it without its sign. -/
theorem fromBigEndian_signedBytes
    (width : Nat)
    (i : Int) :
    (fromBigEndian (signedBytes width i) : Int) =
      i % 2 ^ (8 * width) := by
  have hPower : (0 : Int) < 2 ^ (8 * width) := by positivity
  have hCast :
      ((2 ^ (8 * width) : Nat) : Int) =
        2 ^ (8 * width) := by
    push_cast
    rfl
  have hNonneg := Int.emod_nonneg i hPower.ne'
  have hLess := Int.emod_lt_of_pos i hPower
  have hRead :=
    fromBigEndian_bigEndian
      (by omega : (i % (2 : Int) ^ (8 * width)).toNat <
        2 ^ (8 * width))
  unfold signedBytes
  rw [Nat.pow_eq, hCast, hRead]
  exact Int.toNat_of_nonneg hNonneg

/- Whole numbers that fit are read back. -/
theorem signed_signedBytes
    {width : Nat} {i : Int}
    (hWidth : 0 < width)
    (hLow : -2 ^ (8 * width - 1) ≤ i)
    (hHigh : i < 2 ^ (8 * width - 1)) :
    signed width (fromBigEndian (signedBytes width i)) =
      i := by
  have hPower :
      (2 : Int) ^ (8 * width) =
        2 * 2 ^ (8 * width - 1) := by
    rw [← pow_succ']
    congr 1
    omega
  have hHalf :
      ((2 ^ (8 * width - 1) : Nat) : Int) =
        2 ^ (8 * width - 1) := by
    push_cast
    rfl
  have hBytes := fromBigEndian_signedBytes width i
  unfold signed
  rcases lt_or_ge i 0 with hNegative | hNonneg
  · have hMod :
        i % (2 : Int) ^ (8 * width) =
          i + 2 ^ (8 * width) := by
      rw [← Int.add_emod_right]
      exact Int.emod_eq_of_lt (by omega) (by omega)
    rw [if_neg (by omega), hBytes, hMod]
    omega
  · have hMod : i % (2 : Int) ^ (8 * width) = i :=
      Int.emod_eq_of_lt hNonneg (by omega)
    rw [if_pos (by omega), hBytes, hMod]

------------------------------------------------------------
-- Numbers of Parameters
------------------------------------------------------------

namespace Kind

/- The types of whole numbers. -/
def IsWhole (kind : Kind) : Prop :=
  kind = int2 ∨ kind = int4 ∨ kind = int8

/- The types of floating-point numbers. -/
def IsFloating (kind : Kind) : Prop :=
  kind = float4 ∨ kind = float8

/-
  The bytes of a type hold a number: they are as many as the
  type has, and the number read off them is that number, or
  what it is rounded to where the type has 32 bits for it.
-/
def Holds : Kind → List UInt8 → ℚ → Prop
  | int2, bytes, x =>
      bytes.length = 2 ∧
        (signed 2 (fromBigEndian bytes) : ℚ) = x
  | int4, bytes, x =>
      bytes.length = 4 ∧
        (signed 4 (fromBigEndian bytes) : ℚ) = x
  | int8, bytes, x =>
      bytes.length = 8 ∧
        (signed 8 (fromBigEndian bytes) : ℚ) = x
  | float4, bytes, x =>
      bytes.length = 4 ∧
        Ieee.single.Rounds (fromBigEndian bytes) x
  | float8, bytes, x =>
      bytes.length = 8 ∧
        Ieee.double.number? (fromBigEndian bytes) = some x
  | _, _, _ => False

end Kind

end Wire

/- The number of a whole number or of a finite float. -/
def Value.number? : Value → Option ℚ
  | .int i => some i.toInt
  | .float x => x.number?
  | _ => none

namespace Wire

/-
  A value with the given number is written for a type
  without a change of the number: what is written holds it,
  unless the value is refused.
-/
def Faithful
    (kindText : String)
    (kind : Kind)
    (value : Value)
    (x : ℚ) : Prop :=
  match encode kindText value with
  | .ok (some bytes) => kind.Holds bytes x
  | .ok none => False
  | .error _ => True

------------------------------------------------------------
-- Numbers for a Type of Their Own Sort
------------------------------------------------------------

/- Whole numbers of fewer bytes are refused or kept. -/
theorem fittingBytes_spec
    {width : Nat}
    (hWidth : 0 < width)
    (i : Int) :
    (∃ fault, fittingBytes width i = .error fault) ∨
      (fittingBytes width i = .ok (signedBytes width i) ∧
        (signedBytes width i).length = width ∧
        signed width (fromBigEndian (signedBytes width i)) =
          i) := by
  have hBound :
      ((Nat.pow 2 (8 * width - 1) : Nat) : Int) =
        2 ^ (8 * width - 1) := by
    rw [Nat.pow_eq]
    push_cast
    rfl
  unfold fittingBytes
  rw [hBound]
  by_cases hLarge : (2 : Int) ^ (8 * width - 1) ≤ i
  · left
    exact ⟨.tooLarge, if_pos hLarge⟩
  · by_cases hSmall : i < -(2 : Int) ^ (8 * width - 1)
    · left
      exact ⟨.tooSmall, by simp [hLarge, hSmall]⟩
    · right
      refine ⟨by simp [hLarge, hSmall],
        length_bigEndian _ _, ?_⟩
      exact signed_signedBytes hWidth (not_lt.1 hSmall)
        (not_le.1 hLarge)

/-
  A 64-bit whole number is read back from its eight bytes.
-/
theorem signed_int64 (i : Int64) :
    signed 8 (fromBigEndian (signedBytes 8 i.toInt)) =
      i.toInt := by
  apply signed_signedBytes (by decide)
  · exact Int64.le_toInt i
  · exact Int64.toInt_lt i

/-
  Its bits are those of the number zero only if it is zero.
-/
theorem fromBigEndian_int64
    (i : Int64) :
    fromBigEndian (signedBytes 8 i.toInt) < 2 ^ 64 ∧
      (fromBigEndian (signedBytes 8 i.toInt) = 0 ↔
        i = 0) := by
  have hBytes := fromBigEndian_signedBytes 8 i.toInt
  have hLow := Int64.le_toInt i
  have hHigh := Int64.toInt_lt i
  rw [← Int64.toInt_inj, Int64.toInt_zero]
  omega

/- Bytes of floats are those of their bits. -/
theorem fromBigEndian_bits (bits : UInt64) :
    fromBigEndian (bigEndian 8 bits.toNat) = bits.toNat :=
  fromBigEndian_bigEndian bits.toNat_lt

/- Four bytes are enough for a number of 32 bits. -/
theorem fromBigEndian_single (bits : UInt32) :
    fromBigEndian (bigEndian 4 bits.toNat) = bits.toNat :=
  fromBigEndian_bigEndian bits.toNat_lt

------------------------------------------------------------
-- Numbers for a Type of the Other Sort
------------------------------------------------------------

/-
  A place below that of the units halves the significand.
-/
theorem value_le_half
    {bits : Nat}
    (hPlace : Ieee.double.place bits < 1074) :
    Ieee.double.value bits ≤
      Ieee.double.wholePart bits / 2 := by
  have hLeast : Ieee.double.leastExponent = -1074 := rfl
  unfold Ieee.Format.value
  rw [hLeast, div_eq_mul_inv, ← zpow_neg_one]
  apply mul_le_mul_of_nonneg_left _ (Nat.cast_nonneg _)
  exact zpow_le_zpow_right₀ (by norm_num) (by omega)

/-
  From the place of the units on, values are whole numbers.
-/
theorem value_eq_shifted
    {bits k : Nat}
    (hPlace : Ieee.double.place bits = 1074 + k) :
    Ieee.double.value bits =
      (Ieee.double.wholePart bits * 2 ^ k : Nat) := by
  have hLeast : Ieee.double.leastExponent = -1074 := rfl
  have hExponent :
      ((1074 + k : Nat) : Int) + -1074 = (k : Nat) := by
    omega
  unfold Ieee.Format.value
  rw [hPlace, hLeast, hExponent, zpow_natCast]
  push_cast
  rfl

/-
  Bits do not stand for themselves: up to some place the
  value is too small, from the next but one on it is too
  large, and in the one between there is no significand for
  it.
-/
theorem value_ne_self
    {bits : Nat}
    (hPositive : 0 < bits)
    (hBound : bits < 2 ^ 63) :
    Ieee.double.value bits ≠ bits := by
  have hUnit : Ieee.double.unit = 2 ^ 52 := rfl
  have hSum := Ieee.double.place_mul_add_wholePart bits
  rcases Ieee.double.wholePart_bounds bits with
    ⟨hPart, hLeading⟩
  rw [hUnit] at hSum hPart hLeading
  generalize hWhole : Ieee.double.wholePart bits = part
    at hSum hPart hLeading
  intro hSame
  rcases Nat.lt_or_ge (Ieee.double.place bits) 1074
    with hBelow | hUnits
  · have hHalf := value_le_half hBelow
    rw [hWhole, hSame] at hHalf
    have hDouble : ((2 * bits : Nat) : ℚ) ≤ part := by
      push_cast
      linarith
    have hNat :
        2 * bits ≤ part := by exact_mod_cast hDouble
    omega
  · obtain ⟨k, hPlace⟩ :=
      Nat.exists_eq_add_of_le hUnits
    rw [value_eq_shifted hPlace, hWhole] at hSame
    have hNat :
        part * 2 ^ k = bits := by exact_mod_cast hSame
    rw [hPlace] at hSum hLeading
    rcases Nat.lt_trichotomy k 10 with hLess | hTen | hMore
    · have hPower : 2 ^ k ≤ 2 ^ 9 :=
        Nat.pow_le_pow_right Nat.two_pos (by omega)
      have hShifted : part * 2 ^ k ≤ part * 2 ^ 9 :=
        Nat.mul_le_mul_left part hPower
      omega
    · subst hTen
      omega
    · have hPower : 2 ^ 11 ≤ 2 ^ k :=
        Nat.pow_le_pow_right Nat.two_pos hMore
      have hShifted : part * 2 ^ 11 ≤ part * 2 ^ k :=
        Nat.mul_le_mul_left part hPower
      omega

/-
  Nor do they stand for what the bit of the sign has above
  them, which is their opposite in two's complement.
-/
theorem value_ne_complement
    {bits rest : Nat}
    (hRest : bits + rest = 2 ^ 63)
    (hPositive : 0 < rest) :
    Ieee.double.value bits ≠ rest := by
  have hUnit : Ieee.double.unit = 2 ^ 52 := rfl
  have hSum := Ieee.double.place_mul_add_wholePart bits
  rcases Ieee.double.wholePart_bounds bits with
    ⟨hPart, hLeading⟩
  rw [hUnit] at hSum hPart hLeading
  generalize hWhole : Ieee.double.wholePart bits = part
    at hSum hPart hLeading
  intro hSame
  rcases Nat.lt_or_ge (Ieee.double.place bits) 1074
    with hBelow | hUnits
  · have hHalf := value_le_half hBelow
    rw [hWhole, hSame] at hHalf
    have hDouble : ((2 * rest : Nat) : ℚ) ≤ part := by
      push_cast
      linarith
    have hNat :
        2 * rest ≤ part := by exact_mod_cast hDouble
    omega
  · obtain ⟨k, hPlace⟩ :=
      Nat.exists_eq_add_of_le hUnits
    rw [value_eq_shifted hPlace, hWhole] at hSame
    have hNat :
        part * 2 ^ k = rest := by exact_mod_cast hSame
    rw [hPlace] at hSum hLeading
    rcases Nat.lt_trichotomy k 9 with hLess | hNine | hMore
    · have hPower : 2 ^ k ≤ 2 ^ 8 :=
        Nat.pow_le_pow_right Nat.two_pos (by omega)
      have hShifted : part * 2 ^ k ≤ part * 2 ^ 8 :=
        Nat.mul_le_mul_left part hPower
      omega
    · subst hNine
      omega
    · have hPower : 2 ^ 10 ≤ 2 ^ k :=
        Nat.pow_le_pow_right Nat.two_pos hMore
      have hShifted : part * 2 ^ 10 ≤ part * 2 ^ k :=
        Nat.mul_le_mul_left part hPower
      omega

/-
  The same bits are the same number as a whole number and as
  a float only where all are zero.
-/
theorem reads_alike_iff
    {bits : Nat}
    (hBound : bits < 2 ^ 64) :
    Ieee.double.number? bits =
        some (signed 8 bits : ℚ) ↔
      bits = 0 := by
  have hSign : Ieee.double.signBit = 2 ^ 63 := rfl
  constructor
  · intro hSame
    by_contra hNonzero
    unfold Ieee.Format.number? at hSame
    rw [hSign] at hSame
    unfold signed at hSame
    rcases Nat.lt_or_ge bits (2 ^ 63) with
      hPositive | hNegative
    · rw [Nat.mod_eq_of_lt hPositive] at hSame
      split at hSame
      · refine value_ne_self (Nat.pos_of_ne_zero hNonzero)
          hPositive ?_
        simpa using hSame
      · cases hSame
    · have hMod : bits % 2 ^ 63 = bits - 2 ^ 63 := by omega
      have hNot : ¬ bits < 2 ^ 63 := Nat.not_lt.2 hNegative
      rw [hMod] at hSame
      split at hSame
      · rw [Option.some_inj] at hSame
        have hRest :
            (bits - 2 ^ 63) + (2 ^ 64 - bits) = 2 ^ 63 := by
          omega
        refine value_ne_complement hRest (by omega) ?_
        rw [Nat.cast_sub hBound.le]
        push_cast at hSame ⊢
        linarith
      · cases hSame
  · rintro rfl
    have hZero := (Ieee.double.value_eq_zero_iff 0).2 rfl
    have hFinite : 0 < Ieee.double.infinity := by decide
    simp [Ieee.Format.number?, hSign, hZero, hFinite,
      signed]

------------------------------------------------------------
-- Numbers as Parameters
------------------------------------------------------------

/-
  The types and values that go together, and what is the
  same number in both formats.
-/
def Suits (kind : Kind) : Value → Prop
  | .int i => kind.IsWhole ∨ kind = .float8 ∧ i = 0
  | .float x =>
      kind.IsFloating ∨ kind = .int8 ∧ x.bits = 0
  | _ => False

variable {kindText : String} {kind : Kind}
variable (hKind : Kind.ofName? kindText = some kind)

include hKind

/-
  A whole number is faithful if its bytes are, or refused.
-/
theorem faithful_int
    (i : Int64) (x : ℚ) :
    Faithful kindText kind (.int i) x ↔
      ∀ bytes, intBytes kind i = .ok bytes →
        kind.Holds bytes x := by
  have hEncode :
      encode kindText (.int i) =
        ((intBytes kind i).map some).mapError .range := by
    unfold encode
    rw [hKind]
    rfl
  unfold Faithful
  rw [hEncode]
  cases hBytes : intBytes kind i with
  | error fault => simp [Except.map, Except.mapError]
  | ok bytes => simp [Except.map, Except.mapError]

/- A float is faithful if its bytes are. -/
theorem faithful_float
    (number : Binary64) (x : ℚ) :
    Faithful kindText kind (.float number) x ↔
      kind.Holds (floatBytes kind number) x := by
  have hEncode :
      encode kindText (.float number) =
        .ok (some (floatBytes kind number)) := by
    unfold encode
    rw [hKind]
    rfl
  unfold Faithful
  rw [hEncode]

/- Whole numbers arrive for the types that suit them. -/
theorem faithful_int_iff
    (hNumeric : kind.IsWhole ∨ kind.IsFloating)
    (i : Int64) :
    Faithful kindText kind (.int i) i.toInt ↔
      Suits kind (.int i) := by
  have hFits :
      ∀ width, 0 < width → ∀ bytes,
        fittingBytes width i.toInt = .ok bytes →
        bytes.length = width ∧
          (signed width (fromBigEndian bytes) : ℚ) =
            i.toInt := by
    intro width hWidth bytes hBytes
    rcases fittingBytes_spec hWidth i.toInt
      with ⟨fault, hFault⟩ | ⟨hOk, hLength, hRead⟩
    · rw [hFault] at hBytes
      cases hBytes
    · rw [hOk] at hBytes
      cases hBytes
      exact ⟨hLength, by rw [hRead]⟩
  have hWide : (signedBytes 8 i.toInt).length = 8 :=
    length_bigEndian _ _
  rw [faithful_int hKind]
  cases kind with
  | int2 =>
      refine iff_of_true (hFits 2 (by decide)) ?_
      simp [Suits, Kind.IsWhole]
  | int4 =>
      refine iff_of_true (hFits 4 (by decide)) ?_
      simp [Suits, Kind.IsWhole]
  | int8 =>
      refine iff_of_true ?_ (by simp [Suits, Kind.IsWhole])
      intro bytes hBytes
      cases hBytes
      exact ⟨hWide, by rw [signed_int64]⟩
  | float4 =>
      refine iff_of_false ?_ (by simp [Suits, Kind.IsWhole])
      intro hHolds
      have hLength := (hHolds _ rfl).1
      rw [hWide] at hLength
      omega
  | float8 =>
      rcases fromBigEndian_int64 i with ⟨hBound, hZero⟩
      have hSame := reads_alike_iff hBound
      rw [signed_int64, hZero] at hSame
      constructor
      · intro hHolds
        right
        exact ⟨rfl, hSame.1 (hHolds _ rfl).2⟩
      · intro hSuits bytes hBytes
        cases hBytes
        refine ⟨hWide, hSame.2 ?_⟩
        simpa [Suits, Kind.IsWhole] using hSuits
  | _ => simp [Kind.IsWhole, Kind.IsFloating] at hNumeric

/- Floats arrive for the types that suit them. -/
theorem faithful_float_iff
    (hNumeric : kind.IsWhole ∨ kind.IsFloating)
    {number : Binary64} {x : ℚ}
    (hNumber : number.number? = some x) :
    Faithful kindText kind (.float number) x ↔
      Suits kind (.float number) := by
  have hWide : (bigEndian 8 number.bits.toNat).length = 8 :=
    length_bigEndian _ _
  have hBits :
      number.bits = 0 ↔ number.bits.toNat = 0 := by
    rw [← UInt64.toNat_inj]
    rfl
  have hRead :
      Ieee.double.number? number.bits.toNat = some x := by
    rw [← Binary64.number?_eq, hNumber]
  rw [faithful_float hKind]
  cases kind with
  | int2 =>
      refine iff_of_false ?_
        (by simp [Suits, Kind.IsFloating])
      intro hHolds
      have hLength := hWide.symm.trans hHolds.1
      omega
  | int4 =>
      refine iff_of_false ?_
        (by simp [Suits, Kind.IsFloating])
      intro hHolds
      have hLength := hWide.symm.trans hHolds.1
      omega
  | int8 =>
      have hSame := reads_alike_iff number.bits.toNat_lt
      rw [hRead, Option.some_inj] at hSame
      simp only [Suits, Kind.IsFloating, Kind.Holds,
        floatBytes, fromBigEndian_bits, hWide, hBits,
        ← hSame]
      simp [eq_comm]
  | float4 =>
      refine iff_of_true ?_
        (by simp [Suits, Kind.IsFloating])
      refine ⟨length_bigEndian _ _, ?_⟩
      have hBytes :
          floatBytes .float4 number =
            bigEndian 4 number.toSingleBits.toNat := rfl
      rw [hBytes, fromBigEndian_single]
      exact Binary64.toSingleBits_rounds hNumber
  | float8 =>
      refine iff_of_true ?_
        (by simp [Suits, Kind.IsFloating])
      refine ⟨hWide, ?_⟩
      have hBytes :
          floatBytes .float8 number =
            bigEndian 8 number.bits.toNat := rfl
      rw [hBytes, fromBigEndian_bits]
      exact hRead
  | _ => simp [Kind.IsWhole, Kind.IsFloating] at hNumeric

/-
  A number that is bound to a numeric type arrives as it is,
  or is refused, if and only if the type suits it.
-/
theorem faithful_iff
    (hNumeric : kind.IsWhole ∨ kind.IsFloating)
    {value : Value} {x : ℚ}
    (hNumber : value.number? = some x) :
    Faithful kindText kind value x ↔
      Suits kind value := by
  cases value with
  | int i =>
      cases hNumber
      exact faithful_int_iff hKind hNumeric i
  | float number =>
      exact faithful_float_iff hKind hNumeric hNumber
  | _ => cases hNumber

/-
  A whole number is faithful for a type of whole numbers,
  but not for one of floats, which takes floats.
-/
omit hKind in
theorem faithful_iff_sample :
    Faithful "int2" .int2 (.int 7) 7 ∧
      ¬ Faithful "float4" .float4 (.int 7) 7 ∧
      Faithful "float4" .float4
        (.float ⟨0x3ff8000000000000⟩) (3 / 2) := by
  have hSeven : (Value.int 7).number? = some 7 := rfl
  have hHalves :
      (Value.float ⟨0x3ff8000000000000⟩).number? =
        some (3 / 2) := by
    have hExponent :
        Binary64.exponent ⟨0x3ff8000000000000⟩ =
          -52 := by
      decide
    have hSignificand :
        Binary64.significand ⟨0x3ff8000000000000⟩ =
          3 * 2 ^ 51 := by
      decide
    have hFinite :
        Binary64.isFinite ⟨0x3ff8000000000000⟩ =
          true := by
      decide
    have hPositive :
        Binary64.isNegative ⟨0x3ff8000000000000⟩ =
          false := by
      decide
    simp only [Value.number?, Binary64.number?, hExponent,
      hSignificand, hFinite, hPositive]
    norm_num
  refine ⟨?_, ?_, ?_⟩
  · exact (faithful_iff rfl (by simp [Kind.IsWhole])
      hSeven).2 (by simp [Suits, Kind.IsWhole])
  · exact mt (faithful_iff rfl (by simp [Kind.IsFloating])
      hSeven).1 (by simp [Suits, Kind.IsWhole])
  · exact (faithful_iff rfl (by simp [Kind.IsFloating])
      hHalves).2 (by simp [Suits, Kind.IsFloating])

omit hKind in
/-
  A one that is bound to a float of eight bytes is written
  as a whole number, which the server reads as the smallest
  number above zero.
-/
theorem whole_number_as_float :
    encode "float8" (.int 1) =
      .ok (some [0, 0, 0, 0, 0, 0, 0, 1]) ∧
      ¬ Faithful "float8" .float8 (.int 1) 1 := by
  have hEncode :
      encode "float8" (.int 1) =
        .ok (some [0, 0, 0, 0, 0, 0, 0, 1]) := by
    decide
  refine ⟨hEncode, ?_⟩
  intro hFaithful
  have hHolds :=
    (faithful_int (by decide) 1 1).1 hFaithful _ rfl
  have hOne : (1 : Nat) = 0 :=
    (reads_alike_iff (by decide)).1 hHolds.2
  cases hOne

end Wire

end SqlAccess
