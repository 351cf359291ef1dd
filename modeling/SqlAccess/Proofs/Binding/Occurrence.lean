import SqlAccess.Binding.Retain

/-
  This file says where the pieces of a template stand, and
  which of them stay: a piece stays if and only if all names
  are bound that stand directly in one of the blocks around
  it, at whatever level.

  Key definitions include:
    * `Forest.directNames`
    * `Occurrence`
    * `Occurrence.isRetained`
    * `Forest.occurrences`

  Key theorems include:
    * `Forest.isBound_eq_all`
    * `Forest.segments_eq_retained`
    * `Forest.name_mem_around`
-/

namespace SqlAccess

namespace Forest

/- A placeholder has a name if that is its key. -/
theorem nameOf?_eq_some_iff
    {placeholder : Placeholder}
    {name : String} :
    nameOf? placeholder = some name ↔
      placeholder.key = .named name := by
  rcases placeholder with ⟨key, tag⟩
  cases key <;> simp [nameOf?]

/- The names in a forest that are not in a block of it. -/
def directNames : Forest → List String
  | done => []
  | literal _ next => directNames next
  | slot placeholder next =>
      (nameOf? placeholder).toList ++ directNames next
  | block _ next => directNames next

/- A forest is bound if all names directly in it are. -/
theorem isBound_eq_all
    (bound : String → Bool)
    (forest : Forest) :
    forest.isBound bound =
      forest.directNames.all bound := by
  induction forest with
  | done => rfl
  | literal text next ih => exact ih
  | slot placeholder next ih =>
      rw [isBound, directNames, List.all_append, ih, allows]
      cases nameOf? placeholder with
      | none => rfl
      | some name => simp
  | block inner next ihInner ihNext => exact ihNext

end Forest

------------------------------------------------------------
-- Occurrences
------------------------------------------------------------

/-
  A piece of a template at its place: for each of the blocks
  around it, from the inside out, the names that stand
  directly in that block.
-/
structure Occurrence where
  segment : Segment
  around : List (List String)

namespace Occurrence

/- Whether all names directly in some blocks are bound. -/
def areBound
    (bound : String → Bool)
    (around : List (List String)) : Bool :=
  around.all fun names => names.all bound

/- Whether a piece stays. -/
def isRetained
    (bound : String → Bool)
    (occurrence : Occurrence) : Bool :=
  areBound bound occurrence.around

end Occurrence

namespace Forest

/- The pieces of a forest that stands in some blocks. -/
def occurrencesIn
    (around : List (List String)) :
    Forest → List Occurrence
  | done => []
  | literal text next =>
      ⟨.literal text, around⟩ ::
        occurrencesIn around next
  | slot placeholder next =>
      ⟨.slot placeholder, around⟩ ::
        occurrencesIn around next
  | block inner next =>
      occurrencesIn (inner.directNames :: around) inner ++
        occurrencesIn around next

/- The pieces of a whole template, from left to right. -/
def occurrences (forest : Forest) : List Occurrence :=
  forest.occurrencesIn []

------------------------------------------------------------
-- What Stays
------------------------------------------------------------

section Retained

variable {bound : String → Bool}

/- Nothing stays in blocks of which one goes. -/
theorem retained_of_unbound
    {around : List (List String)}
    (forest : Forest)
    (hAround : Occurrence.areBound bound around = false) :
    (forest.occurrencesIn around).filter
        (Occurrence.isRetained bound) = [] := by
  induction forest generalizing around with
  | done => rfl
  | literal text next ih =>
      rw [occurrencesIn, List.filter_cons_of_neg,
        ih hAround]
      simp [Occurrence.isRetained, hAround]
  | slot placeholder next ih =>
      rw [occurrencesIn, List.filter_cons_of_neg,
        ih hAround]
      simp [Occurrence.isRetained, hAround]
  | block inner next ihInner ihNext =>
      have hInner :
          Occurrence.areBound bound
            (inner.directNames :: around) = false := by
        rw [Occurrence.areBound] at hAround
        rw [Occurrence.areBound, List.all_cons, hAround,
          Bool.and_false]
      rw [occurrencesIn, List.filter_append, ihInner hInner,
        ihNext hAround, List.append_nil]

/- In blocks that stay, a forest is pruned by itself. -/
theorem retained_of_bound
    {around : List (List String)}
    (forest : Forest)
    (hAround : Occurrence.areBound bound around = true) :
    ((forest.occurrencesIn around).filter
        (Occurrence.isRetained bound)).map
        Occurrence.segment =
      forest.segments bound := by
  induction forest generalizing around with
  | done => rfl
  | literal text next ih =>
      have hHere :
          Occurrence.isRetained bound
              ⟨.literal text, around⟩ =
            true :=
        hAround
      rw [occurrencesIn, List.filter_cons_of_pos hHere,
        List.map_cons, ih hAround, segments]
  | slot placeholder next ih =>
      have hHere :
          Occurrence.isRetained bound
              ⟨.slot placeholder, around⟩ = true :=
        hAround
      rw [occurrencesIn, List.filter_cons_of_pos hHere,
        List.map_cons, ih hAround, segments]
  | block inner next ihInner ihNext =>
      have hBlock :
          Occurrence.areBound bound
              (inner.directNames :: around) =
            inner.isBound bound := by
        rw [Occurrence.areBound] at hAround
        rw [Occurrence.areBound, List.all_cons, hAround,
          Bool.and_true, isBound_eq_all]
      rw [occurrencesIn, List.filter_append,
        List.map_append, ihNext hAround, segments]
      cases hInner : inner.isBound bound with
      | true =>
          rw [ihInner (hBlock.trans hInner)]
          simp
      | false =>
          rw [retained_of_unbound inner
            (hBlock.trans hInner)]
          simp

/-
  The pieces that stay are those of which all blocks around
  them have their names bound, in the order of the text.
-/
theorem segments_eq_retained (forest : Forest) :
    forest.segments bound =
      (forest.occurrences.filter
        (Occurrence.isRetained bound)).map
        Occurrence.segment :=
  (retained_of_bound forest rfl).symm

end Retained

------------------------------------------------------------
-- Names
------------------------------------------------------------

/-
  A name stands directly in the forest itself, or in the
  innermost block around it.
-/
theorem name_mem_around_or_direct
    {around : List (List String)}
    {forest : Forest}
    {occurrence : Occurrence}
    {placeholder : Placeholder}
    {name : String}
    (hMem : occurrence ∈ forest.occurrencesIn around)
    (hSlot : occurrence.segment = .slot placeholder)
    (hName : nameOf? placeholder = some name) :
    (occurrence.around = around ∧
      name ∈ forest.directNames) ∨
      ∃ names outer,
        occurrence.around = names :: outer ∧
          name ∈ names := by
  induction forest generalizing around with
  | done => exact absurd hMem List.not_mem_nil
  | literal text next ih =>
      rcases List.mem_cons.1 hMem with hHere | hMem
      · rw [hHere] at hSlot
        cases hSlot
      · exact ih hMem
  | slot other next ih =>
      rcases List.mem_cons.1 hMem with hHere | hMem
      · rw [hHere] at hSlot
        cases hSlot
        left
        refine ⟨congrArg Occurrence.around hHere, ?_⟩
        rw [directNames, hName]
        exact List.mem_cons_self
      · rcases ih hMem with
          ⟨hAround, hDirect⟩ | hInside
        · left
          exact ⟨hAround,
            List.mem_append_right _ hDirect⟩
        · exact .inr hInside
  | block inner next ihInner ihNext =>
      rcases List.mem_append.1 hMem with hMem | hMem
      · rcases ihInner hMem with
          ⟨hAround, hDirect⟩ | hInside
        · exact .inr ⟨_, _, hAround, hDirect⟩
        · exact .inr hInside
      · exact ihNext hMem

/- In a template, a name is outside of blocks or in one. -/
theorem name_mem_around
    {forest : Forest}
    {occurrence : Occurrence}
    {placeholder : Placeholder}
    {name : String}
    (hMem : occurrence ∈ forest.occurrences)
    (hSlot : occurrence.segment = .slot placeholder)
    (hName : nameOf? placeholder = some name) :
    occurrence.around = [] ∨
      ∃ names ∈ occurrence.around, name ∈ names := by
  rcases name_mem_around_or_direct hMem hSlot hName with
    ⟨hAround, -⟩ | ⟨names, outer, hAround, hNames⟩
  · exact .inl hAround
  · right
    rw [hAround]
    exact ⟨names, List.mem_cons_self, hNames⟩

/- A name in a block that stays is bound. -/
theorem bound_of_retained
    {bound : String → Bool}
    {forest : Forest}
    {occurrence : Occurrence}
    {placeholder : Placeholder}
    {name : String}
    (hMem : occurrence ∈ forest.occurrences)
    (hRetained : occurrence.isRetained bound = true)
    (hSlot : occurrence.segment = .slot placeholder)
    (hName : nameOf? placeholder = some name) :
    occurrence.around = [] ∨ bound name = true := by
  rcases name_mem_around hMem hSlot hName with
    hOutside | ⟨names, hNames, hMemName⟩
  · exact .inl hOutside
  · right
    have hBlock := List.all_eq_true.1 hRetained names hNames
    exact List.all_eq_true.1 hBlock name hMemName

end Forest

end SqlAccess
