import SqlAccess.Proofs.FirstFault
import SqlAccess.Proofs.Text.Blank
import SqlAccess.Proofs.Time.Digits
import SqlAccess.Value.Cast

/-
  This file says what the casts to single values have in
  common.  A cast value is of the type that its tag asks
  for, and casting it once more changes nothing; the two
  casts to integers differ in nothing but the sign; and
  integers and truth values come back from their texts.

  Key definitions include:
    * `TypeTag.converted?`
    * `TypeTag.Describes`

  Key theorems include:
    * `TypeTag.cast_eq_ok_iff`
    * `TypeTag.describes_of_converted?`
    * `TypeTag.converted?_of_describes`
    * `Reading.int64?_trim_toString`
    * `TypeTag.cast_stable`
-/

namespace SqlAccess

------------------------------------------------------------
-- Values That Are Cast
------------------------------------------------------------

namespace Cast

/- What is not rejected is the result. -/
theorem orRejected_eq_ok_iff
    {v w : Value}
    {target : String}
    {result : Option Value} :
    orRejected v target result = .ok w ↔
      result = some w := by
  cases result <;> simp [orRejected]

/-
  An integer without a sign is one that is not below zero.
-/
theorem unsignedOf_eq_ok_iff
    {v : Value} {i : Int64} :
    unsignedOf v = .ok i ↔
      (intOf? v).filter (fun j => 0 ≤ j) = some i := by
  unfold unsignedOf
  cases intOf? v with
  | none => simp
  | some j =>
      rw [Option.filter_some]
      by_cases hNegative : j < 0
      · have hSign : ¬ 0 ≤ j := Int64.not_le.2 hNegative
        simp [hNegative, hSign]
      · have hSign : 0 ≤ j := Int64.not_lt.1 hNegative
        simp [hNegative, hSign]

end Cast

namespace TypeTag

/-
  What a value that is not null is cast to, if to anything.
-/
def converted? (tag : TypeTag) (v : Value) : Option Value :=
  match tag with
  | string => (Cast.textOf? v).map .text
  | integer => (Cast.intOf? v).map .int
  | unsigned =>
      ((Cast.intOf? v).filter fun i => 0 ≤ i).map .int
  | float => (Cast.floatOf? v).map .float
  | boolean => (Cast.boolOf? v).map .bool
  | list => some v

/- Null passes every cast. -/
theorem cast_null (tag : TypeTag) :
    tag.cast .null = .ok .null :=
  rfl

/- A value is cast to what it is converted to. -/
theorem cast_eq_ok_iff
    {tag : TypeTag}
    {v w : Value}
    (hValue : v ≠ .null) :
    tag.cast v = .ok w ↔ tag.converted? v = some w := by
  have hNull : v.isNull = false := by
    cases v with
    | null => exact absurd rfl hValue
    | _ => rfl
  unfold cast
  rw [hNull, if_neg Bool.false_ne_true]
  cases tag with
  | unsigned =>
      simp only [converted?, Option.map_eq_some_iff,
        ← Cast.unsignedOf_eq_ok_iff]
      exact Except.map_eq_ok_iff
  | list => simp [converted?]
  | _ => exact Cast.orRejected_eq_ok_iff

/- Whether a value is of the type that a tag asks for. -/
inductive Describes : TypeTag → Value → Prop
  | text {s} : Describes string (.text s)
  | integer {i} : Describes integer (.int i)
  | unsigned {i} (hSign : 0 ≤ i) :
      Describes unsigned (.int i)
  | float {x} : Describes float (.float x)
  | boolean {b} : Describes boolean (.bool b)

/- No type is that of a null. -/
theorem Describes.ne_null
    {tag : TypeTag} {w : Value}
    (hType : tag.Describes w) : w ≠ .null := by
  rintro rfl
  cases hType

/- A cast value is of the type of the tag. -/
theorem describes_of_converted?
    {tag : TypeTag} {v w : Value}
    (hTag : tag ≠ .list)
    (hCast : tag.converted? v = some w) :
    tag.Describes w := by
  cases tag with
  | list => exact absurd rfl hTag
  | string =>
      rcases Option.map_eq_some_iff.1 hCast with
        ⟨s, -, rfl⟩
      exact .text
  | integer =>
      rcases Option.map_eq_some_iff.1 hCast with
        ⟨i, -, rfl⟩
      exact .integer
  | unsigned =>
      rcases Option.map_eq_some_iff.1 hCast with
        ⟨i, hSigned, rfl⟩
      have hSign := (Option.filter_eq_some_iff.1 hSigned).2
      exact .unsigned (of_decide_eq_true hSign)
  | float =>
      rcases Option.map_eq_some_iff.1 hCast with
        ⟨x, -, rfl⟩
      exact .float
  | boolean =>
      rcases Option.map_eq_some_iff.1 hCast with
        ⟨b, -, rfl⟩
      exact .boolean

/- A value of the type of the tag is left as it is. -/
theorem converted?_of_describes
    {tag : TypeTag} {w : Value}
    (hType : tag.Describes w) :
    tag.converted? w = some w := by
  cases hType with
  | unsigned hSign => simp [converted?, Cast.intOf?, hSign]
  | _ => rfl

end TypeTag

------------------------------------------------------------
-- Numbers and Their Texts
------------------------------------------------------------

namespace Reading

/- The digits of a number spell it. -/
theorem spells_toDigits (n : Nat) :
    Spells (Nat.toDigits 10 n) n where
  ne_nil := Nat.toDigits_ne_nil
  isDigit c hMem :=
    Nat.isDigit_of_mem_toDigits (by decide) (by decide) hMem
  value := by
    rw [digitsValue_eq, Nat.ofDigitChars_ten_toDigits]

section Spelled

variable {digits : List Char} {n : Nat}
variable (hSpells : Spells digits n)
include hSpells

/- Digits that spell a number are read as it. -/
theorem digits?_of_spells :
    digits? digits = some n := by
  have hDigits : digits.all Char.isDigit = true :=
    List.all_eq_true.2 hSpells.isDigit
  simp [digits?, hSpells.ne_nil, hDigits, hSpells.value]

/- A number without a sign, and its opposite, are read. -/
theorem wholeNumber?_of_spells :
    wholeNumber? digits = some (n : Int) ∧
      wholeNumber? ('-' :: digits) = some (-(n : Int)) := by
  have hRead := digits?_of_spells hSpells
  constructor
  · have hSign : splitSign digits = (false, digits) := by
      unfold splitSign
      split
      · next rest =>
          exact absurd
            (hSpells.isDigit _ List.mem_cons_self)
            (by decide)
      · next rest =>
          exact absurd
            (hSpells.isDigit _ List.mem_cons_self)
            (by decide)
      · rfl
    simp [wholeNumber?, hSign, hRead]
  · simp [wholeNumber?, splitSign, hRead]

/- No digit is white space, and neither is a sign. -/
theorem bare_of_spells :
    Blank.Bare digits ∧ Blank.Bare ('-' :: digits) := by
  have hDigit :
      ∀ c ∈ digits, Blank.isBlank c = false :=
        fun c hMem =>
    isBlank_of_isDigit (hSpells.isDigit c hMem)
  have hSign : Blank.isBlank '-' = false := by decide
  refine ⟨⟨?_, ?_⟩, ⟨?_, ?_⟩⟩
  · exact fun c hHead =>
      hDigit c (List.mem_of_mem_head? hHead)
  · exact fun c hLast =>
      hDigit c (List.mem_of_mem_getLast? hLast)
  · rintro c ⟨⟩
    exact hSign
  · intro c hLast
    rcases List.mem_cons.1 (List.mem_of_mem_getLast? hLast)
      with rfl | hMem
    · exact hSign
    · exact hDigit c hMem

end Spelled

/- A whole number is read back from its text. -/
theorem wholeNumber?_trim_toString (i : Int) :
    wholeNumber? (Blank.trim (toString i).toList) =
      some i := by
  have hTrim :
      ∀ text : List Char,
        Blank.Bare text → Blank.trim text = text := by
    intro text hBare
    exact Blank.trim_eq_iff.2
      ⟨hBare, [], [], by simp, by simp [Blank.IsSpace],
        by simp [Blank.IsSpace]⟩
  have hDigits :
      ∀ n : Nat, n.repr.toList = Nat.toDigits 10 n := by
    intro n
    rw [Nat.repr_eq_ofList_toDigits, String.toList_ofList]
  cases i with
  | ofNat n =>
      have hSpells := spells_toDigits n
      have hText :
          (toString (Int.ofNat n)).toList =
            Nat.toDigits 10 n :=
        hDigits n
      rw [hText, hTrim _ (bare_of_spells hSpells).1]
      exact (wholeNumber?_of_spells hSpells).1
  | negSucc n =>
      have hSpells := spells_toDigits (n + 1)
      have hText :
          (toString (Int.negSucc n)).toList =
            '-' :: Nat.toDigits 10 (n + 1) := by
        change ("-" ++ (n + 1).repr).toList = _
        rw [String.toList_append, hDigits]
        rfl
      rw [hText, hTrim _ (bare_of_spells hSpells).2]
      exact (wholeNumber?_of_spells hSpells).2

/- An integer of 64 bits is read back from its text. -/
theorem int64?_trim_toString (i : Int64) :
    int64? (Blank.trim (toString i.toInt).toList) =
      some i := by
  have hLeast := Int64.le_toInt i
  have hGreatest := Int64.toInt_lt i
  have hRange :
      (-Int.pow 2 63 ≤ i.toInt &&
        i.toInt < Int.pow 2 63) =
        true := by
    rw [Bool.and_eq_true]
    exact ⟨decide_eq_true hLeast,
      decide_eq_true hGreatest⟩
  simp only [int64?, wholeNumber?_trim_toString]
  rw [if_pos hRange, Int64.ofInt_toInt]

end Reading

------------------------------------------------------------
-- The Laws of the Casts
------------------------------------------------------------

namespace TypeTag

/-
  The cast without a sign is the cast of integers,
  restricted.
-/
theorem cast_unsigned_eq_ok_iff {v w : Value} :
    unsigned.cast v = .ok w ↔
      integer.cast v = .ok w ∧
        (w = .null ∨
          ∃ i : Int64, w = .int i ∧ 0 ≤ i) := by
  by_cases hValue : v = .null
  · subst hValue
    rw [cast_null, cast_null]
    constructor
    · rintro ⟨⟩
      exact ⟨rfl, .inl rfl⟩
    · exact fun hNull => hNull.1
  · rw [cast_eq_ok_iff hValue, cast_eq_ok_iff hValue]
    simp only [converted?, Option.map_eq_some_iff,
      Option.filter_eq_some_iff, decide_eq_true_eq]
    constructor
    · intro hCast
      rcases hCast with ⟨i, ⟨hInt, hSign⟩, rfl⟩
      exact ⟨⟨i, hInt, rfl⟩,
        .inr ⟨i, rfl, hSign⟩⟩
    · intro hCast
      rcases hCast with
        ⟨⟨i, hInt, rfl⟩, hNull | hSigned⟩
      · cases hNull
      · rcases hSigned with ⟨j, hSame, hSign⟩
        cases hSame
        exact ⟨i, ⟨hInt, hSign⟩, rfl⟩

/- The text of an integer is cast back to it. -/
theorem cast_integer_string (i : Int64) :
    (do integer.cast (← string.cast (.int i))) =
      .ok (.int i) := by
  have hText :
      string.cast (.int i) =
        .ok (.text (toString i.toInt)) :=
    rfl
  have hBack :
      integer.converted? (.text (toString i.toInt)) =
        some (.int i) := by
    simp only [converted?, Cast.intOf?,
      Reading.int64?_trim_toString, Option.map_some]
  rw [hText]
  exact (cast_eq_ok_iff (by simp)).2 hBack

/-
  For every tag but that of lists, a cast that succeeds
  gives null exactly for null, and else a value of the type
  that the tag asks for; and the same cast leaves what it
  has given as it is.  The cast to an integer without a sign
  succeeds where the cast to an integer does and gives null
  or an integer that is not below zero, and both give the
  same.  Integers and truth values that are cast to text are
  cast back to what they were.
-/
theorem cast_stable :
    (∀ (tag : TypeTag) (v w : Value),
        tag ≠ .list → tag.cast v = .ok w →
          (w = .null ↔ v = .null) ∧
            (v ≠ .null → tag.Describes w) ∧
            tag.cast w = .ok w) ∧
      (∀ v w : Value,
        unsigned.cast v = .ok w ↔
          integer.cast v = .ok w ∧
            (w = .null ∨
              ∃ i : Int64, w = .int i ∧ 0 ≤ i)) ∧
      (∀ i : Int64,
        (do integer.cast (← string.cast (.int i))) =
          .ok (.int i)) ∧
      (∀ b : Bool,
        (do boolean.cast (← string.cast (.bool b))) =
          .ok (.bool b)) := by
  refine ⟨?_, fun _ _ => cast_unsigned_eq_ok_iff,
    cast_integer_string, ?_⟩
  · intro tag v w hTag hCast
    by_cases hValue : v = .null
    · subst hValue
      cases hCast
      exact ⟨Iff.rfl, fun hNe => absurd rfl hNe, rfl⟩
    · have hType :=
        describes_of_converted? hTag
          ((cast_eq_ok_iff hValue).1 hCast)
      refine ⟨?_, fun _ => hType, ?_⟩
      · exact iff_of_false hType.ne_null hValue
      · exact (cast_eq_ok_iff hType.ne_null).2
          (converted?_of_describes hType)
  · intro b
    cases b with
    | false => rfl
    | true => rfl

/-
  A number with a sign and white space around it is cast.
-/
theorem cast_stable_sample :
    let v : Value := .text "\t+7\u3000"
    unsigned ≠ list ∧ unsigned.cast v = .ok (.int 7) ∧
      unsigned.Describes (.int 7) ∧
      unsigned.cast (.int 7) = .ok (.int 7) ∧
      integer.cast v = .ok (.int 7) := by
  intro v
  have hTag : unsigned ≠ list := by decide
  have hCast : unsigned.cast v = .ok (.int 7) := by rfl
  rcases cast_stable with ⟨hStable, hUnsigned, -⟩
  rcases hStable unsigned v (.int 7) hTag hCast with
    ⟨-, hType, hAgain⟩
  exact ⟨hTag, hCast, hType (by simp [v]), hAgain,
    ((hUnsigned v (.int 7)).1 hCast).1⟩

end TypeTag

end SqlAccess
