import SqlAccess.Text.Blank

/-
  This file says what trimming does: it takes white space
  away in front and behind, and leaves a text that has none
  at its ends.

  Key definitions include:
    * `Blank.IsSpace`
    * `Blank.Bare`

  Key theorems include:
    * `Blank.trimStart_append`
    * `Blank.trim_eq_iff`
-/

namespace SqlAccess

namespace Blank

/- Whether a text has nothing but white space. -/
def IsSpace (text : List Char) : Prop :=
  ∀ c ∈ text, isBlank c = true

/- Whether a text has no white space at its ends. -/
structure Bare (text : List Char) : Prop where
  first : ∀ c ∈ text.head?, isBlank c = false
  last : ∀ c ∈ text.getLast?, isBlank c = false

section Trimming

variable {front word back text : List Char}

/- White space read backwards is white space. -/
theorem IsSpace.reverse (hText : IsSpace text) :
    IsSpace text.reverse := by
  intro c hMem
  exact hText c (List.mem_reverse.1 hMem)

/-
  A text without white space at its ends has none there when
  it is read backwards.
-/
theorem Bare.reverse
    (hText : Bare text) :
    Bare text.reverse := by
  constructor
  · rw [List.head?_reverse]
    exact hText.last
  · rw [List.getLast?_reverse]
    exact hText.first

/- White space in front of a text without any is dropped. -/
theorem trimStart_append
    (hFront : IsSpace front)
    (hText : ∀ c ∈ text.head?, isBlank c = false) :
    trimStart (front ++ text) = text := by
  rw [trimStart, List.dropWhile_append_of_pos hFront]
  cases text with
  | nil => rfl
  | cons c rest => simp [hText c rfl]

/- What is dropped in front is white space. -/
theorem exists_trimStart (text : List Char) :
    ∃ front,
      text = front ++ trimStart text ∧ IsSpace front ∧
        ∀ c ∈ (trimStart text).head?,
          isBlank c = false := by
  refine ⟨text.takeWhile isBlank,
    List.takeWhile_append_dropWhile.symm, ?_, ?_⟩
  · exact List.all_eq_true.1 List.all_takeWhile
  · intro c hHead
    have hStop := List.head?_dropWhile_not isBlank text
    rw [← trimStart, hHead] at hStop
    exact hStop

/-
  A trimmed text is what is left of it without white space
  around it.
-/
theorem trim_eq_iff :
    trim text = word ↔
      Bare word ∧
        ∃ front back,
          text = front ++ word ++ back ∧
            IsSpace front ∧ IsSpace back := by
  constructor
  · rintro rfl
    rcases exists_trimStart text with
      ⟨front, hFront, hSpace, hFirst⟩
    rcases exists_trimStart (trimStart text).reverse with
      ⟨back, hBack, hBehind, hLast⟩
    have hRest :
        trimStart text = trim text ++ back.reverse := by
      rw [trim, ← List.reverse_append, ← hBack,
        List.reverse_reverse]
    refine ⟨⟨?_, ?_⟩, front, back.reverse, ?_, hSpace,
      hBehind.reverse⟩
    · intro c hHead
      apply hFirst
      rw [hRest, List.head?_append, Option.mem_def.1 hHead]
      rfl
    · rw [trim, List.getLast?_reverse]
      exact hLast
    · rw [List.append_assoc, ← hRest]
      exact hFront
  · intro hTrimmed
    rcases hTrimmed with
      ⟨hBare, front, back, rfl, hFront, hBack⟩
    cases word with
    | nil =>
        have hSpace : IsSpace (front ++ back) := by
          intro c hMem
          rcases List.mem_append.1 hMem with hMem | hMem
          · exact hFront c hMem
          · exact hBack c hMem
        have hNothing :
            trimStart (front ++ back ++ []) = [] :=
          trimStart_append hSpace (by simp)
        rw [List.append_nil] at hNothing ⊢
        rw [trim, hNothing]
        rfl
    | cons c rest =>
        have hRest :
            trimStart (front ++ (c :: rest ++ back)) =
              c :: rest ++ back :=
          trimStart_append hFront hBare.first
        rw [trim, List.append_assoc, hRest,
          List.reverse_append, trimStart_append
            hBack.reverse hBare.reverse.first,
          List.reverse_reverse]

end Trimming

end Blank

end SqlAccess
