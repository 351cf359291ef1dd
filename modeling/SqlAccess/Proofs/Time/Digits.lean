import SqlAccess.Time.TimestampReader

/-
  This file shows that the numbers of a timestamp are read
  as they are written: with zeros in front of them, and the
  year with a sign where it has one.

  Key definitions include:
    * `Reading.Ends`
    * `Reading.Spells`

  Key theorems include:
    * `Timestamp.spells_padded`
    * `Timestamp.length_padded`
    * `TimestampReader.digits?_of_spells`
    * `TimestampReader.field?_padded`
    * `TimestampReader.year?_yearText`
    * `TimestampReader.fraction?_fractionText`
-/

namespace SqlAccess

------------------------------------------------------------
-- Runs of Digits
------------------------------------------------------------

namespace Reading

/- Whether no digit is where a text begins. -/
def Ends (text : List Char) : Prop :=
  ∀ c ∈ text.head?, c.isDigit = false

theorem ends_nil : Ends [] := by
  simp [Ends]

/- A number ends in front of what is no digit. -/
theorem ends_cons
    {c : Char}
    {text : List Char}
    (hChar : c.isDigit = false) : Ends (c :: text) := by
  simpa [Ends] using hChar

/- Whether digits, at least one of them, are a number. -/
structure Spells (digits : List Char) (n : Nat) : Prop where
  ne_nil : digits ≠ []
  isDigit : ∀ c ∈ digits, c.isDigit = true
  value : digitsValue digits = n

/- A text that begins with a number begins with a digit. -/
theorem Spells.isDigit_of_append_eq
    {digits rest tail : List Char}
    {n : Nat}
    {c : Char}
    (hSpells : Spells digits n)
    (hText : digits ++ rest = c :: tail) :
    c.isDigit = true := by
  cases digits with
  | nil => exact absurd rfl hSpells.ne_nil
  | cons d digits =>
      obtain rfl : d = c := List.head_eq_of_cons_eq hText
      exact hSpells.isDigit d List.mem_cons_self

/-
  The value of digits is that of the decimal that they
  write.
-/
theorem digitsValue_eq (digits : List Char) :
    digitsValue digits = Nat.ofDigitChars 10 digits 0 := by
  rw [Nat.ofDigitChars_eq_foldl]
  rfl

/- Digits are taken up to the end of the run. -/
theorem takeWhile_of_ends
    {digits rest : List Char}
    (hDigits : ∀ c ∈ digits, c.isDigit = true)
    (hRest : Ends rest) :
    (digits ++ rest).takeWhile Char.isDigit = digits := by
  rw [List.takeWhile_append_of_pos hDigits]
  cases rest with
  | nil => simp
  | cons c rest => simp [hRest c rfl]

/- No digit is white space. -/
theorem isBlank_of_isDigit
    {c : Char}
    (hDigit : c.isDigit = true) :
    Blank.isBlank c = false := by
  have hRange : 48 ≤ c.toNat ∧ c.toNat ≤ 57 :=
    Char.isDigit_iff_toNat.1 hDigit
  simp [Blank.isBlank, Blank.ranges]
  omega

end Reading

namespace Timestamp

/- A number is padded with zeros in front of its digits. -/
theorem toList_padded (width n : Nat) :
    (padded width n).toList =
      List.replicate (width - (Nat.toDigits 10 n).length)
        '0' ++
        Nat.toDigits 10 n := by
  rw [padded, String.toList_ofList]

/- Zeros in front of a number do not change it. -/
theorem spells_padded (width n : Nat) :
    Reading.Spells (padded width n).toList n where
  ne_nil := by
    rw [toList_padded]
    exact List.append_ne_nil_of_right_ne_nil _
      Nat.toDigits_ne_nil
  isDigit := by
    intro c hMem
    rw [toList_padded, List.mem_append] at hMem
    rcases hMem with hZero | hDigit
    · rw [List.eq_of_mem_replicate hZero]
      decide
    · exact Nat.isDigit_of_mem_toDigits (by decide)
        (by decide) hDigit
  value := by
    rw [Reading.digitsValue_eq, toList_padded,
      Nat.ofDigitChars_append,
      Nat.ofDigitChars_replicate_zero, Nat.mul_zero,
      Nat.ofDigitChars_ten_toDigits]

/- A padded number has its width, if it fits. -/
theorem length_padded
    {width n : Nat}
    (hWidth : 0 < width)
    (hSize : n < Nat.pow 10 width) :
    (padded width n).toList.length = width := by
  have hDigits : (Nat.toDigits 10 n).length ≤ width :=
    (Nat.length_toDigits_le_iff (by decide) hWidth).2 hSize
  rw [toList_padded, List.length_append,
    List.length_replicate]
  omega

end Timestamp

------------------------------------------------------------
-- Numbers
------------------------------------------------------------

namespace TimestampReader

open Reading

section Spelled

variable {digits rest : List Char}
variable {n : Nat}

/- Digits begin with no white space. -/
theorem trimStart_of_spells
    (hSpells : Spells digits n)
    (rest : List Char) :
    Blank.trimStart (digits ++ rest) = digits ++ rest := by
  rw [Blank.trimStart]
  cases hText : digits ++ rest with
  | nil => rfl
  | cons c tail =>
      have hBlank :=
        isBlank_of_isDigit
          (hSpells.isDigit_of_append_eq hText)
      rw [List.dropWhile_cons_of_neg (by simp [hBlank])]

/-
  Digits are read as their number, if they are not too many.
-/
theorem digits?_of_spells
    {most : Option Nat}
    (hSpells : Spells digits n)
    (hMost : ∀ m ∈ most, digits.length ≤ m)
    (hRest : Ends rest) :
    digits? most (digits ++ rest) = some (n, rest) := by
  have hRun := takeWhile_of_ends hSpells.isDigit hRest
  cases most with
  | none =>
      simp [digits?, hRun, hSpells.ne_nil, hSpells.value]
  | some m =>
      have hTaken := List.take_of_length_le (hMost m rfl)
      simp [digits?, hRun, hTaken, hSpells.ne_nil,
        hSpells.value]

end Spelled

/- A number of two digits is read back. -/
theorem field?_padded
    {n : Nat}
    {rest : List Char}
    (hSize : n < 100)
    (hRest : Ends rest) :
    field? ((Timestamp.padded 2 n).toList ++ rest) =
      some (n, rest) := by
  have hSpells := Timestamp.spells_padded 2 n
  have hLength : (Timestamp.padded 2 n).toList.length = 2 :=
    Timestamp.length_padded (by decide) hSize
  rw [field?, trimStart_of_spells hSpells]
  refine digits?_of_spells hSpells ?_ hRest
  rintro m ⟨⟩
  exact Nat.le_of_eq hLength

------------------------------------------------------------
-- Years
------------------------------------------------------------

/- A sign is read apart from the digits it stands before. -/
theorem year?_of_sign
    {digits rest : List Char}
    {n : Nat}
    (hSpells : Spells digits n)
    (hRest : Ends rest) :
    year? ('-' :: (digits ++ rest)) =
      some (-(n : Int), rest) ∧
    year? ('+' :: (digits ++ rest)) =
      some ((n : Int), rest) := by
  have hDigits :
      digits? none (digits ++ rest) = some (n, rest) :=
    digits?_of_spells hSpells (by simp) hRest
  have hMinus : Blank.isBlank '-' = false := by decide
  have hPlus : Blank.isBlank '+' = false := by decide
  constructor
  · simp [year?, Blank.trimStart, hMinus, hDigits]
  · simp [year?, Blank.trimStart, hPlus, hDigits]

/- No sign is seen where a digit is. -/
theorem year?_of_spells
    {digits rest : List Char}
    {n : Nat}
    (hSpells : Spells digits n)
    (hLength : digits.length ≤ 4)
    (hRest : Ends rest) :
    year? (digits ++ rest) = some ((n : Int), rest) := by
  have hDigits :
      digits? (some 4) (digits ++ rest) =
        some (n, rest) := by
    refine digits?_of_spells hSpells ?_ hRest
    rintro m ⟨⟩
    exact hLength
  rw [year?, trimStart_of_spells hSpells]
  split
  · rename_i hText
    exact absurd (hSpells.isDigit_of_append_eq hText)
      (by decide)
  · rename_i hText
    exact absurd (hSpells.isDigit_of_append_eq hText)
      (by decide)
  · rw [hDigits]
    rfl

/- A year is read back, whatever its sign and length. -/
theorem year?_yearText
    {year : Int}
    {rest : List Char}
    (hRest : Ends rest) :
    year? ((Timestamp.yearText year).toList ++ rest) =
      some (year, rest) := by
  have hSpells := Timestamp.spells_padded 4 year.natAbs
  by_cases hPlain : 0 ≤ year ∧ year ≤ 9999
  · have hSize : year.toNat < 10000 := by omega
    have hLength :
        (Timestamp.padded 4 year.toNat).toList.length = 4 :=
      Timestamp.length_padded (by decide) hSize
    have hText :
        Timestamp.yearText year =
          Timestamp.padded 4 year.toNat := by
      simp [Timestamp.yearText, hPlain]
    rw [hText, year?_of_spells (Timestamp.spells_padded 4 _)
      (Nat.le_of_eq hLength) hRest,
        Int.toNat_of_nonneg hPlain.1]
  · have hText :
        Timestamp.yearText year =
          (if year < 0 then "-" else "+") ++
            Timestamp.padded 4 year.natAbs := by
      simp [Timestamp.yearText, hPlain]
    rw [hText]
    rcases year?_of_sign hSpells hRest with
      ⟨hMinus, hPlus⟩
    by_cases hNegative : year < 0
    · have hAbs : -(year.natAbs : Int) = year := by omega
      rw [hAbs] at hMinus
      rw [if_pos hNegative]
      simpa using hMinus
    · have hAbs : (year.natAbs : Int) = year := by omega
      rw [hAbs] at hPlus
      rw [if_neg hNegative]
      simpa using hPlus

------------------------------------------------------------
-- Fractions of a Second
------------------------------------------------------------

/-
  Digits after a point are read as so many decimal places.
-/
theorem fraction?_of_spells
    {digits rest : List Char}
    {n : Nat}
    (hSpells : Spells digits n)
    (hLength : digits.length ≤ 9)
    (hRest : Ends rest) :
    fraction? ('.' :: (digits ++ rest)) =
      some (n * Nat.pow 10 (9 - digits.length), rest) := by
  have hRun := takeWhile_of_ends hSpells.isDigit hRest
  have hTaken := List.take_of_length_le hLength
  simp [fraction?, hRun, hTaken, hSpells.ne_nil,
    hSpells.value]

/- No fraction is seen where no point is. -/
theorem fraction?_of_no_point
    {rest : List Char}
    (hPoint : rest.head? ≠ some '.') :
    fraction? rest = some (0, rest) := by
  unfold fraction?
  split
  · exact absurd rfl hPoint
  · rfl

/- A padded fraction is read back in nanoseconds. -/
theorem fraction?_padded
    {width n : Nat}
    {rest : List Char}
    (hWidth : 0 < width ∧ width ≤ 9)
    (hSize : n < Nat.pow 10 width)
    (hRest : Ends rest) :
    fraction?
        (("." ++ Timestamp.padded width n).toList ++ rest) =
      some (n * Nat.pow 10 (9 - width), rest) := by
  have hLength := Timestamp.length_padded hWidth.1 hSize
  have hRead :=
    fraction?_of_spells (Timestamp.spells_padded width n)
      (by omega) hRest
  rw [hLength] at hRead
  simpa using hRead

/-
  A fraction is read back.  The places that are not written
  are zeros, so multiplying by their power of ten undoes the
  division.
-/
theorem fraction?_fractionText
    {n : Nat}
    {rest : List Char}
    (hSize : n < Nat.pow 10 9)
    (hRest : Ends rest)
    (hPoint : rest.head? ≠ some '.') :
    fraction? ((Timestamp.fractionText n).toList ++ rest) =
      some (n, rest) := by
  unfold Timestamp.fractionText
  split
  case isTrue hZero =>
    rw [hZero]
    exact fraction?_of_no_point hPoint
  split
  case isTrue hMillis =>
    have hPlaces : n / Nat.pow 10 6 < Nat.pow 10 3 :=
      Nat.div_lt_of_lt_mul hSize
    rw [fraction?_padded (by decide) hPlaces hRest,
      Nat.div_mul_cancel (Nat.dvd_of_mod_eq_zero hMillis)]
  split
  case isTrue hMicros =>
    have hPlaces : n / Nat.pow 10 3 < Nat.pow 10 6 :=
      Nat.div_lt_of_lt_mul hSize
    rw [fraction?_padded (by decide) hPlaces hRest,
      Nat.div_mul_cancel (Nat.dvd_of_mod_eq_zero hMicros)]
  case isFalse =>
    rw [fraction?_padded (by decide) hSize hRest,
      Nat.sub_self]
    simp

end TimestampReader
end SqlAccess
