import SqlAccess.Binding.Bind
import SqlAccess.Proofs.FirstFault

/-
  This file says which parameters a placeholder takes, and
  why it refuses the others.

  Key definitions include:
    * `Param.Fits`
    * `Param.Refused`

  Key theorems include:
    * `Param.accepted_eq_error_iff`
    * `Param.fits_of_not_refused`
-/

namespace SqlAccess

------------------------------------------------------------
-- Parameters
------------------------------------------------------------

/- A list tag does not judge single values. -/
theorem TypeTag.cast_list (v : Value) :
    TypeTag.list.cast v = .ok v := by
  unfold cast
  split
  · rfl
  · rfl

namespace Param

/-
  Whether a placeholder with a tag takes a parameter.  A
  part of a statement takes no tag; a list has values in it,
  or may be without, and each of them passes the cast of a
  tag for single values; a single value passes that cast as
  well, and is no list.
-/
inductive Fits
    (policy : EmptyList)
    (tag : Option TypeTag) : Param → Prop
  | fragment {f}
      (hTag : tag = none) :
      Fits policy tag (.fragment f)
  | list {items}
      (hItems : items ≠ [] ∨ policy = .alwaysFalse)
      (hCasts :
        ∀ scalar, tag = some scalar →
          scalar ≠ .list →
          ∀ item ∈ items, ∃ v,
            scalar.cast item = .ok v) :
      Fits policy tag (.list items)
  | value {v}
      (hCast :
        ∀ scalar, tag = some scalar →
          scalar ≠ .list ∧ ∃ w,
            scalar.cast v = .ok w) :
      Fits policy tag (.value v)

/-
  Why a placeholder with a tag does not take a parameter.
-/
inductive Refused
    (policy : EmptyList)
    (tag : Option TypeTag) : Param → SlotFault → Prop
  | fragment {f given}
      (hTag : tag = some given) :
      Refused policy tag (.fragment f)
        (.taggedFragment given)
  | empty
      (hPolicy : policy = .reject) :
      Refused policy tag (.list []) .emptyList
  | item {items given fault}
      (hTag : tag = some given)
      (hFault :
        FirstFault
          (fun item e => given.cast item = .error e) items
          fault) :
      Refused policy tag (.list items) (.cast fault)
  | notAList {v}
      (hTag : tag = some .list) :
      Refused policy tag (.value v) (.cast (.notAList v))
  | value {v given fault}
      (hTag : tag = some given)
      (hScalar : given ≠ .list)
      (hFault : given.cast v = .error fault) :
      Refused policy tag (.value v) (.cast fault)

section Accepted

variable {policy : EmptyList} {tag : Option TypeTag}

/- The members of a list are accepted one by one. -/
theorem accepted_list
    {items : List Value}
    (hItems : items ≠ []) :
    (list items).accepted policy tag =
      items.mapM (acceptedItem tag) := by
  cases items with
  | nil => exact absurd rfl hItems
  | cons item items => rfl

/- A member is refused only by the cast of a tag. -/
theorem acceptedItem_eq_error_iff
    {item : Value}
    {fault : SlotFault} :
    acceptedItem tag item = .error fault ↔
      ∃ given castFault, tag = some given ∧
        given.cast item = .error castFault ∧
        fault = .cast castFault := by
  cases tag with
  | none => simp [acceptedItem]
  | some given =>
      rw [acceptedItem, Except.mapError_eq_error_iff]
      simp [eq_comm]

/- The first member that a cast fails for decides. -/
theorem acceptedItems_eq_error_iff
    {items : List Value}
    {fault : SlotFault} :
    items.mapM (acceptedItem tag) = .error fault ↔
      ∃ given castFault, tag = some given ∧
        FirstFault
          (fun item e => given.cast item = .error e)
          items castFault ∧
        fault = .cast castFault := by
  rw [Except.mapM_eq_error_iff]
  cases tag with
  | none =>
      constructor
      · intro hFault
        rcases hFault with ⟨_, item, _, -, -, hItem⟩
        cases hItem
      · intro hFault
        rcases hFault with ⟨given, _, hTag, -⟩
        cases hTag
  | some given =>
      have hItems :
          ∀ (item : Value) (fault : SlotFault),
            acceptedItem (some given) item =
                .error fault ↔
              ∃ e, given.cast item = .error e ∧
                SlotFault.cast e = fault := by
        intro item fault
        exact Except.mapError_eq_error_iff
      rw [firstFault_map hItems]
      simp [eq_comm]

/-
  A single value is refused for the reasons that its place
  gives.
-/
theorem acceptedValue_eq_error_iff
    {v : Value}
    {fault : SlotFault} :
    acceptedValue tag v = .error fault ↔
      Refused policy tag (.value v) fault := by
  unfold acceptedValue
  by_cases hList : tag = some .list
  · rw [if_pos hList]
    constructor
    · intro hError
      cases hError
      exact .notAList hList
    · intro hRefused
      cases hRefused with
      | notAList => rfl
      | value hTag hScalar =>
          rw [hList] at hTag
          exact absurd (Option.some.inj hTag).symm hScalar
  · rw [if_neg hList, acceptedItem_eq_error_iff]
    constructor
    · intro hError
      rcases hError with
        ⟨given, castFault, hTag, hCast, rfl⟩
      have hScalar : given ≠ .list := by
        intro hGiven
        exact hList (hGiven ▸ hTag)
      exact .value hTag hScalar hCast
    · intro hRefused
      cases hRefused with
      | notAList hTag => exact absurd hTag hList
      | value hTag _ hFault =>
          exact ⟨_, _, hTag, hFault, rfl⟩

/- A parameter is refused for one of the reasons. -/
theorem accepted_eq_error_iff
    {param : Param}
    {fault : SlotFault} :
    param.accepted policy tag = .error fault ↔
      Refused policy tag param fault := by
  cases param with
  | value v =>
      rw [accepted, Except.bind_eq_error_iff,
        ← acceptedValue_eq_error_iff]
      simp [pure, Except.pure]
  | list items =>
      by_cases hItems : items = []
      · subst hItems
        cases policy with
        | reject =>
            constructor
            · intro hError
              cases hError
              exact .empty rfl
            · intro hRefused
              cases hRefused with
              | empty => rfl
              | item hTag hFault =>
                  exact absurd hFault not_firstFault_nil
        | alwaysFalse =>
            constructor
            · intro hError
              cases hError
            · intro hRefused
              cases hRefused with
              | empty hPolicy => cases hPolicy
              | item hTag hFault =>
                  exact absurd hFault not_firstFault_nil
      · rw [accepted_list hItems,
          acceptedItems_eq_error_iff]
        constructor
        · intro hError
          rcases hError with
            ⟨given, castFault, hTag, hFault, rfl⟩
          exact .item hTag hFault
        · intro hRefused
          cases hRefused with
          | empty => exact absurd rfl hItems
          | item hTag hFault =>
              exact ⟨_, _, hTag, hFault, rfl⟩
  | fragment f =>
      cases tag with
      | none =>
          constructor
          · intro hError
            cases hError
          · intro hRefused
            cases hRefused with
            | fragment hTag => cases hTag
      | some given =>
          constructor
          · intro hError
            cases hError
            exact .fragment rfl
          · intro hRefused
            cases hRefused with
            | fragment hTag =>
                cases hTag
                rfl

/- No placeholder refuses a parameter that it takes. -/
theorem Fits.not_refused
    {param : Param}
    {fault : SlotFault}
    (hFits : param.Fits policy tag) :
    ¬ Refused policy tag param fault := by
  intro hRefused
  cases hRefused with
  | fragment hTag =>
      cases hFits with
      | fragment hNone =>
          rw [hNone] at hTag
          cases hTag
  | empty hPolicy =>
      cases hFits with
      | list hItems =>
          rcases hItems with hItems | hAlways
          · exact hItems rfl
          · rw [hPolicy] at hAlways
            cases hAlways
  | @item items given fault hTag hFault =>
      cases hFits with
      | list hItems hCasts =>
          rcases exists_firstFault_iff.1
            ⟨fault, hFault⟩ with
            ⟨item, hItem, e, hCast⟩
          by_cases hScalar : given = .list
          · subst hScalar
            rw [TypeTag.cast_list] at hCast
            cases hCast
          · rcases hCasts given hTag hScalar item
              hItem with
              ⟨v, hOk⟩
            rw [hOk] at hCast
            cases hCast
  | notAList hTag =>
      cases hFits with
      | value hCast => exact (hCast .list hTag).1 rfl
  | value hTag hScalar hFault =>
      cases hFits with
      | value hCast =>
          rcases (hCast _ hTag).2 with ⟨w, hOk⟩
          rw [hOk] at hFault
          cases hFault

/-
  A placeholder takes a parameter that it does not refuse.
-/
theorem fits_of_not_refused
    {param : Param}
    (hTaken :
      ∀ fault, ¬ Refused policy tag param fault) :
    param.Fits policy tag := by
  cases param with
  | value v =>
      refine .value ?_
      intro scalar hTag
      have hScalar : scalar ≠ .list := by
        intro hList
        exact hTaken _ (.notAList (hList ▸ hTag))
      refine ⟨hScalar, Except.exists_ok_iff.2 ?_⟩
      intro fault hFault
      exact hTaken _ (.value hTag hScalar hFault)
  | list items =>
      refine .list ?_ ?_
      · by_cases hItems : items = []
        · subst hItems
          cases policy with
          | reject => exact absurd (.empty rfl) (hTaken _)
          | alwaysFalse => exact .inr rfl
        · exact .inl hItems
      · intro scalar hTag hScalar item hItem
        refine Except.exists_ok_iff.2 ?_
        intro fault hFault
        have hFirst :
            ∃ e,
              FirstFault
                (fun item e => scalar.cast item = .error e)
                items e :=
          exists_firstFault_iff.2
            ⟨item, hItem, fault, hFault⟩
        rcases hFirst with ⟨e, hFirst⟩
        exact hTaken _ (.item hTag hFirst)
  | fragment f =>
      refine .fragment ?_
      cases tag with
      | none => rfl
      | some given =>
          exact absurd (.fragment rfl) (hTaken _)

end Accepted

end Param

end SqlAccess
