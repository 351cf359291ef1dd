import Mathlib.Data.List.Induction

/-
  This file defines which of the members of a list that have
  a form in common comes last, and says what is looked up in
  a list of pairs.

  Key definitions include:
    * `Latest`

  Key theorems include:
    * `snoc_eq_append_cons_iff`
    * `latest_snoc_iff`
    * `exists_latest_iff`
    * `latest_iff_getElem?`
    * `Latest.unique`
    * `lookup_cons_eq_ite`
-/

namespace SqlAccess

variable {α β : Type} {form : β → α}

/-
  A list with one more member at its end is split at that
  member or before it.
-/
theorem snoc_eq_append_cons_iff
    {items before after : List α} {item first : α} :
    items ++ [item] = before ++ first :: after ↔
      (items = before ∧ item = first ∧ after = []) ∨
        ∃ rest, items = before ++ first :: rest ∧
          after = rest ++ [item] := by
  constructor
  · intro hItems
    rcases List.eq_nil_or_concat after with
      rfl | ⟨rest, last, rfl⟩
    · rcases List.append_inj' hItems rfl with
        ⟨hFront, hLast⟩
      exact .inl
        ⟨hFront, List.head_eq_of_cons_eq hLast, rfl⟩
    · rw [List.concat_eq_append, ← List.cons_append,
        ← List.append_assoc] at hItems
      rcases List.append_inj' hItems rfl with
        ⟨hFront, hLast⟩
      cases hLast
      exact .inr ⟨rest, hFront, List.concat_eq_append⟩
  · intro hSplit
    rcases hSplit with
      ⟨rfl, rfl, rfl⟩ | ⟨rest, rfl, rfl⟩
    · rfl
    · rw [List.append_assoc, List.cons_append]

/-
  Whether the last member of a form in a list is the one
  with the given content.
-/
def Latest
    (form : β → α)
    (items : List α)
    (content : β) : Prop :=
  ∃ before after,
    items = before ++ form content :: after ∧
      ∀ other, form other ∉ after

theorem not_latest_nil {content : β} :
    ¬ Latest form [] content := by
  intro hLatest
  rcases hLatest with ⟨before, after, hNil, -⟩
  exact List.append_ne_nil_of_right_ne_nil before
    (List.cons_ne_nil _ after) hNil.symm

/-
  One more member is the last one of the form if it has it,
  and else leaves the last one as it is.
-/
theorem latest_snoc_iff
    {items : List α} {item : α} {content : β} :
    Latest form (items ++ [item]) content ↔
      item = form content ∨
        (∀ other, item ≠ form other) ∧
          Latest form items content := by
  constructor
  · intro hLatest
    rcases hLatest with ⟨before, after, hItems, hAfter⟩
    rcases snoc_eq_append_cons_iff.1 hItems with
      ⟨-, hItem, -⟩ | ⟨rest, hFront, rfl⟩
    · exact .inl hItem
    · refine .inr ⟨?_, before, rest, hFront, ?_⟩
      · rintro other rfl
        exact hAfter other (by simp)
      · intro other hMem
        exact hAfter other (List.mem_append_left _ hMem)
  · intro hLast
    rcases hLast with rfl | ⟨hOther, hLatest⟩
    · exact ⟨items, [], rfl, by simp⟩
    · rcases hLatest with ⟨before, after, rfl, hAfter⟩
      refine ⟨before, after ++ [item], by simp, ?_⟩
      intro other hMem
      rcases List.mem_append.1 hMem with hMem | hMem
      · exact hAfter other hMem
      · exact hOther other (List.mem_singleton.1 hMem).symm

/- There is a last member of a form if there is any. -/
theorem exists_latest_iff {items : List α} :
    (∃ content, Latest form items content) ↔
      ∃ content, form content ∈ items := by
  induction items using List.reverseRecOn with
  | nil => simp [not_latest_nil]
  | append_singleton items item ih =>
      simp only [latest_snoc_iff, List.mem_append,
        List.mem_singleton]
      by_cases hHere : ∃ content, item = form content
      · rcases hHere with ⟨content, rfl⟩
        exact iff_of_true ⟨content, .inl rfl⟩
          ⟨content, .inr rfl⟩
      · have hOther : ∀ content, item ≠ form content :=
          fun content hItem => hHere ⟨content, hItem⟩
        simpa [hOther, Ne.symm (hOther _)] using ih

/-
  The last member of a form is that of the largest index.
-/
theorem latest_iff_getElem?
    {items : List α}
    {content : β} :
    Latest form items content ↔
      ∃ index : Nat,
        items[index]? = some (form content) ∧
        ∀ later other, index < later →
          items[later]? ≠ some (form other) := by
  constructor
  · intro hLatest
    rcases hLatest with ⟨before, after, rfl, hAfter⟩
    refine ⟨before.length, by simp, ?_⟩
    intro later other hLater hOther
    rw [List.getElem?_append_right (Nat.le_of_lt hLater),
      List.getElem?_cons, if_neg (by omega)] at hOther
    exact hAfter other (List.mem_of_getElem? hOther)
  · intro hLast
    rcases hLast with ⟨index, hItem, hLater⟩
    rcases List.getElem?_eq_some_iff.1 hItem with
      ⟨hLength, hGet⟩
    refine ⟨items.take index, items.drop (index + 1),
      ?_, ?_⟩
    · rw [← hGet, ← List.drop_eq_getElem_cons hLength,
        List.take_append_drop]
    · intro other hOther
      rcases List.getElem?_of_mem hOther with
        ⟨place, hPlace⟩
      rw [List.getElem?_drop] at hPlace
      exact hLater _ other (by omega) hPlace

/- There is only one last member of a form. -/
theorem Latest.unique
    (hForm : Function.Injective form)
    {items : List α} {first second : β}
    (hFirst : Latest form items first)
    (hSecond : Latest form items second) :
    first = second := by
  induction items using List.reverseRecOn with
  | nil => exact absurd hFirst not_latest_nil
  | append_singleton items item ih =>
      rcases latest_snoc_iff.1 hFirst with
        hHere | ⟨hNone, hFirst⟩
      · rcases latest_snoc_iff.1 hSecond with
          hAlso | ⟨hOther, -⟩
        · exact hForm (hHere.symm.trans hAlso)
        · exact absurd hHere (hOther first)
      · rcases latest_snoc_iff.1 hSecond with
          hAlso | ⟨-, hSecond⟩
        · exact absurd hAlso (hNone second)
        · exact ih hFirst hSecond

/- The first pair is found if it has the key. -/
theorem lookup_cons_eq_ite
    [DecidableEq α]
    (key first : α)
    (content : β)
    (rest : List (α × β)) :
    ((first, content) :: rest).lookup key =
      if key = first then some content
      else rest.lookup key := by
  rw [List.lookup_cons]
  by_cases hKey : key = first
  · simp [hKey]
  · rw [beq_eq_false_iff_ne.2 hKey, if_neg hKey]

end SqlAccess
