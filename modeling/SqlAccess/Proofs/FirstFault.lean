import Mathlib.Data.List.Forall2

/-
  This file says how steps come out that may fail.  Many of
  them in a row succeed if each of them does, and of those
  that fail the first one is reported.

  Key definitions include:
    * `FirstFault`

  Key theorems include:
    * `exists_firstFault_iff`
    * `Except.exists_of_bind`
    * `Except.bind_eq_error_iff`
    * `Except.mapM_eq_ok_iff`
    * `Except.mapM_eq_error_iff`
-/

namespace SqlAccess

------------------------------------------------------------
-- First Faults
------------------------------------------------------------

/-
  Whether a fault is one of the first item that has any.
-/
def FirstFault
    {α ε : Type}
    (fails : α → ε → Prop)
    (items : List α)
    (e : ε) : Prop :=
  ∃ before item after,
    items = before ++ item :: after ∧
      (∀ other ∈ before, ∀ fault,
        ¬ fails other fault) ∧
      fails item e

section FirstFault

variable {α ε : Type} {fails : α → ε → Prop}
variable {first : α} {rest : List α} {e : ε}

theorem not_firstFault_nil : ¬ FirstFault fails [] e := by
  intro hFault
  rcases hFault with ⟨before, item, after, hNil, -⟩
  exact List.append_ne_nil_of_right_ne_nil before
    (List.cons_ne_nil item after) hNil.symm

/- What is at fault first leaves nothing to the rest. -/
theorem firstFault_cons_of_fails
    (hFirst : ∃ fault, fails first fault) :
    FirstFault fails (first :: rest) e ↔
      fails first e := by
  constructor
  · intro hFault
    rcases hFault with
      ⟨before, item, after, hItems, hBefore, hItem⟩
    cases before with
    | nil =>
        cases hItems
        exact hItem
    | cons other before =>
        cases hItems
        rcases hFirst with ⟨fault, hFails⟩
        exact absurd hFails
          (hBefore first List.mem_cons_self fault)
  · intro hFails
    exact ⟨[], first, rest, rfl, by simp, hFails⟩

/- What is not at fault leaves it to the rest. -/
theorem firstFault_cons_of_not_fails
    (hFirst : ∀ fault, ¬ fails first fault) :
    FirstFault fails (first :: rest) e ↔
      FirstFault fails rest e := by
  constructor
  · intro hFault
    rcases hFault with
      ⟨before, item, after, hItems, hBefore, hItem⟩
    cases before with
    | nil =>
        cases hItems
        exact absurd hItem (hFirst e)
    | cons other before =>
        cases hItems
        refine ⟨before, item, after, rfl, ?_, hItem⟩
        intro another hAnother
        exact hBefore another
          (List.mem_cons_of_mem _ hAnother)
  · intro hFault
    rcases hFault with
      ⟨before, item, after, rfl, hBefore, hItem⟩
    refine ⟨first :: before, item, after, rfl, ?_,
      hItem⟩
    intro other hOther
    rcases List.mem_cons.1 hOther with rfl | hOther
    · exact hFirst
    · exact hBefore other hOther

/- There is a first fault if there is a fault. -/
theorem exists_firstFault_iff {items : List α} :
    (∃ e, FirstFault fails items e) ↔
      ∃ item ∈ items, ∃ e, fails item e := by
  constructor
  · intro hFault
    rcases hFault with
      ⟨e, before, item, after, rfl, -, hItem⟩
    exact ⟨item, by simp, e, hItem⟩
  · intro hFails
    induction items with
    | nil => simp at hFails
    | cons first rest ih =>
        by_cases hFirst : ∃ fault, fails first fault
        · rcases hFirst with ⟨fault, hFault⟩
          have hHere : ∃ other, fails first other :=
            ⟨fault, hFault⟩
          exact ⟨fault,
            (firstFault_cons_of_fails hHere).2 hFault⟩
        · have hNone :
              ∀ fault, ¬ fails first fault := by
            intro fault hFault
            exact hFirst ⟨fault, hFault⟩
          rcases hFails with
            ⟨item, hItem, fault, hFault⟩
          have hRest : ∃ e, FirstFault fails rest e := by
            apply ih
            rcases List.mem_cons.1 hItem with rfl | hItem
            · exact absurd hFault (hNone fault)
            · exact ⟨item, hItem, fault, hFault⟩
          rcases hRest with ⟨e, hRest⟩
          exact ⟨e,
            (firstFault_cons_of_not_fails hNone).2 hRest⟩

/- A change of the faults changes the first one. -/
theorem firstFault_map
    {δ : Type}
    {change : ε → δ}
    {failsAs : α → δ → Prop}
    {items : List α}
    {fault : δ}
    (hFails :
      ∀ item fault,
        failsAs item fault ↔
          ∃ e, fails item e ∧ change e = fault) :
    FirstFault failsAs items fault ↔
      ∃ e, FirstFault fails items e ∧
        change e = fault := by
  constructor
  · intro hFault
    rcases hFault with
      ⟨before, item, after, hItems, hBefore, hItem⟩
    rcases (hFails item fault).1 hItem with
      ⟨e, hE, hChange⟩
    refine ⟨e, ⟨before, item, after, hItems, ?_, hE⟩,
      hChange⟩
    intro other hOther d hOtherFails
    exact hBefore other hOther (change d)
      ((hFails other (change d)).2
        ⟨d, hOtherFails, rfl⟩)
  · intro hFault
    rcases hFault with
      ⟨e, ⟨before, item, after, hItems, hBefore, hE⟩,
        hChange⟩
    refine ⟨before, item, after, hItems, ?_, ?_⟩
    · intro other hOther d hOtherFails
      rcases (hFails other d).1 hOtherFails with
        ⟨f, hF, -⟩
      exact hBefore other hOther f hF
    · exact (hFails item fault).2 ⟨e, hE, hChange⟩

end FirstFault

------------------------------------------------------------
-- Steps
------------------------------------------------------------

namespace Except

variable {ε δ α β : Type}

/- There is a result if and only if there is no error. -/
theorem exists_ok_iff {result : Except ε α} :
    (∃ a, result = .ok a) ↔ ∀ e,
      result ≠ .error e := by
  cases result with
  | error e => simp
  | ok a => simp

/- A result that is changed comes from one before. -/
theorem map_eq_ok_iff
    {f : α → β}
    {result : Except ε α}
    {b : β} :
    result.map f = .ok b ↔ ∃ a,
      result = .ok a ∧ f a = b := by
  cases result <;> simp [Except.map]

/- Changing results leaves errors alone. -/
theorem map_eq_error_iff
    {f : α → β}
    {result : Except ε α}
    {e : ε} :
    result.map f = .error e ↔ result = .error e := by
  cases result <;> simp [Except.map]

/- A change of the failure is no change of the success. -/
theorem eq_ok_of_mapError
    {result : Except ε α}
    {change : ε → δ}
    {a : α}
    (hMap : result.mapError change = .ok a) :
    result = .ok a := by
  cases result with
  | error e => cases hMap
  | ok b =>
      cases hMap
      rfl

/- An error that is changed comes from one before. -/
theorem mapError_eq_error_iff
    {result : Except ε α}
    {change : ε → δ}
    {e : δ} :
    result.mapError change = .error e ↔
      ∃ fault, result = .error fault ∧
        change fault = e := by
  cases result with
  | error fault =>
      constructor
      · intro hError
        cases hError
        exact ⟨fault, rfl, rfl⟩
      · intro hFault
        rcases hFault with ⟨other, hOther, rfl⟩
        cases hOther
        rfl
  | ok a =>
      constructor
      · intro hError
        cases hError
      · intro hFault
        rcases hFault with ⟨other, hOther, -⟩
        cases hOther

/- What succeeds in two steps succeeds in both of them. -/
theorem exists_of_bind
    {first : Except ε α}
    {next : α → Except ε β}
    {b : β}
    (hBind : (do next (← first)) = .ok b) :
    ∃ a, first = .ok a ∧ next a = .ok b := by
  cases first with
  | error e => cases hBind
  | ok a => exact ⟨a, rfl, hBind⟩

/-
  Two steps fail as the first one, or else as the second.
-/
theorem bind_eq_error_iff
    {first : Except ε α}
    {next : α → Except ε β}
    {e : ε} :
    (do next (← first)) = .error e ↔
      first = .error e ∨
        ∃ a, first = .ok a ∧ next a = .error e := by
  cases first with
  | error fault => simp [bind, Except.bind]
  | ok a => simp [bind, Except.bind]

/- Many steps succeed with what each of them gives. -/
theorem mapM_eq_ok_iff
    {f : α → Except ε β}
    {items : List α}
    {results : List β} :
    items.mapM f = .ok results ↔
      List.Forall₂
        (fun item result => f item = .ok result)
        items results := by
  induction items generalizing results with
  | nil =>
      rw [List.mapM_nil, List.forall₂_nil_left_iff]
      constructor
      · rintro ⟨⟩
        rfl
      · rintro rfl
        rfl
  | cons first rest ih =>
      rw [List.mapM_cons, List.forall₂_cons_left_iff]
      cases hFirst : f first with
      | error e => simp [bind, Except.bind]
      | ok b =>
          cases hRest : rest.mapM f with
          | error e =>
              simp [bind, Except.bind, ← ih, hRest]
          | ok bs =>
              simp [bind, Except.bind, pure, Except.pure,
                ← ih, hRest, eq_comm]

/- Many steps fail as the first one of them that fails. -/
theorem mapM_eq_error_iff
    {f : α → Except ε β}
    {items : List α}
    {e : ε} :
    items.mapM f = .error e ↔
      FirstFault (fun item fault => f item = .error fault)
        items e := by
  induction items with
  | nil =>
      rw [List.mapM_nil]
      constructor
      · intro hError
        cases hError
      · intro hFault
        exact absurd hFault not_firstFault_nil
  | cons first rest ih =>
      rw [List.mapM_cons, bind_eq_error_iff]
      cases hFirst : f first with
      | error fault =>
          rw [firstFault_cons_of_fails ⟨fault, hFirst⟩]
          simp [hFirst]
      | ok b =>
          rw [firstFault_cons_of_not_fails
            (by simp [hFirst]), ← ih]
          simp [bind_eq_error_iff, pure, Except.pure]

end Except

end SqlAccess
