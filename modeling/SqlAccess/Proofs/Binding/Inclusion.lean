import SqlAccess.Binding.Param
import SqlAccess.Proofs.Binding.Occurrence

/-
  This file says which blocks of a template stay, by where
  they stand: a block is included if its own names and those
  of all blocks around it are bound, and it is elided if
  only its own are not.  A block in an elided one is
  neither.

  Key definitions include:
    * `Enclosure`
    * `Enclosure.isIncluded`
    * `Enclosure.isElided`
    * `Forest.enclosures`

  Key theorems include:
    * `Forest.mem_directNames_iff`
    * `Forest.included_eq_countP`
    * `Forest.elided_eq_countP`
    * `Forest.hidden_eq_zero_iff`
    * `Forest.retained_by_path`
-/

namespace SqlAccess

------------------------------------------------------------
-- Blocks at Their Places
------------------------------------------------------------

/-
  A block of a template at its place: what is in it, and for
  each of the blocks around it, from the inside out, the
  names that stand directly in that block.
-/
structure Enclosure where
  inner : Forest
  around : List (List String)

namespace Enclosure

variable (bound : String → Bool)

/- A block that stays, as all blocks around it do. -/
def isIncluded (block : Enclosure) : Bool :=
  Occurrence.areBound bound
    (block.inner.directNames :: block.around)

/- A block that goes though all blocks around it stay. -/
def isElided (block : Enclosure) : Bool :=
  Occurrence.areBound bound block.around &&
    !block.inner.directNames.all bound

end Enclosure

namespace Forest

/- The blocks of a forest that stands in some blocks. -/
def enclosuresIn
    (around : List (List String)) :
    Forest → List Enclosure
  | done => []
  | literal _ next => enclosuresIn around next
  | slot _ next => enclosuresIn around next
  | block inner next =>
      ⟨inner, around⟩ ::
        (enclosuresIn (inner.directNames :: around) inner ++
          enclosuresIn around next)

/- The blocks of a whole template, from left to right. -/
def enclosures (forest : Forest) : List Enclosure :=
  forest.enclosuresIn []

/- All blocks are counted, each of them once. -/
theorem length_enclosuresIn
    (around : List (List String))
    (forest : Forest) :
    (forest.enclosuresIn around).length =
      forest.blockCount := by
  induction forest generalizing around with
  | done => rfl
  | literal text next ih => exact ih around
  | slot placeholder next ih => exact ih around
  | block inner next ihInner ihNext =>
      rw [enclosuresIn, List.length_cons,
        List.length_append, ihInner, ihNext, blockCount]
      omega

/-
  A piece of a template in one line that is no delimiter.
-/
def Piece.segment? : Piece → Option Segment
  | literal text => some (.literal text)
  | slot placeholder => some (.slot placeholder)
  | opening => none
  | closing => none

/-
  The pieces at their places are all pieces, in their order.
-/
theorem map_segment_occurrencesIn
    (around : List (List String))
    (forest : Forest) :
    (forest.occurrencesIn around).map Occurrence.segment =
      forest.flatten.filterMap Piece.segment? := by
  induction forest generalizing around with
  | done => rfl
  | literal text next ih =>
      rw [occurrencesIn, List.map_cons, ih]
      rfl
  | slot placeholder next ih =>
      rw [occurrencesIn, List.map_cons, ih]
      rfl
  | block inner next ihInner ihNext =>
      rw [occurrencesIn, List.map_append, ihInner, ihNext,
        flatten, List.cons_append,
        List.filterMap_cons_none rfl, List.filterMap_append,
        List.filterMap_cons_none rfl]

------------------------------------------------------------
-- Names
------------------------------------------------------------

/-
  Where a piece stands ends with where its forest stands.
-/
theorem around_suffix
    {around : List (List String)}
    {forest : Forest}
    {occurrence : Occurrence}
    (hMem : occurrence ∈ forest.occurrencesIn around) :
    around <:+ occurrence.around := by
  induction forest generalizing around with
  | done => exact absurd hMem List.not_mem_nil
  | literal text next ih =>
      rcases List.mem_cons.1 hMem with rfl | hLater
      · exact List.suffix_rfl
      · exact ih hLater
  | slot placeholder next ih =>
      rcases List.mem_cons.1 hMem with rfl | hLater
      · exact List.suffix_rfl
      · exact ih hLater
  | block inner next ihInner ihNext =>
      rcases List.mem_append.1 hMem with hInside | hLater
      · exact (List.suffix_cons _ _).trans
          (ihInner hInside)
      · exact ihNext hLater

/- A piece in a block of a forest stands deeper than it. -/
theorem around_ne_of_inner
    {around : List (List String)}
    {inner : Forest}
    {occurrence : Occurrence}
    (hMem :
      occurrence ∈
        inner.occurrencesIn (inner.directNames :: around)) :
    occurrence.around ≠ around := by
  intro hSame
  have hLength := (around_suffix hMem).length_le
  rw [hSame, List.length_cons] at hLength
  omega

/-
  The names directly in a forest are those of the
  placeholders that stand in no block of it.
-/
theorem mem_directNames_iff
    (around : List (List String))
    (forest : Forest)
    (name : String) :
    name ∈ forest.directNames ↔
      ∃ placeholder,
        ⟨.slot placeholder, around⟩ ∈
            forest.occurrencesIn around ∧
          nameOf? placeholder = some name := by
  induction forest with
  | done => simp [directNames, occurrencesIn]
  | literal text next ih =>
      simp [directNames, occurrencesIn, ih]
  | slot placeholder next ih =>
      simp only [directNames, List.mem_append,
        Option.mem_toList, ih, occurrencesIn, List.mem_cons,
        Occurrence.mk.injEq, Segment.slot.injEq, and_true]
      constructor
      · rintro (hHere | ⟨other, hOther, hName⟩)
        · exact ⟨placeholder, .inl rfl, hHere⟩
        · exact ⟨other, .inr hOther, hName⟩
      · rintro ⟨other, rfl | hOther, hName⟩
        · exact .inl hName
        · exact .inr ⟨other, hOther, hName⟩
  | block inner next ihInner ihNext =>
      rw [directNames, ihNext]
      constructor
      · rintro ⟨placeholder, hMem, hName⟩
        exact ⟨placeholder, List.mem_append_right _ hMem,
          hName⟩
      · rintro ⟨placeholder, hMem, hName⟩
        rcases List.mem_append.1 hMem with hInside | hNext
        · exact absurd rfl (around_ne_of_inner hInside)
        · exact ⟨placeholder, hNext, hName⟩

------------------------------------------------------------
-- Counts
------------------------------------------------------------

section Counts

variable {bound : String → Bool}
variable {around : List (List String)}

/-
  Where all blocks around it stay, a block decides itself.
-/
theorem areBound_block
    (inner : Forest)
    (hAround : Occurrence.areBound bound around = true) :
    Occurrence.areBound bound
        (inner.directNames :: around) =
      inner.isBound bound := by
  rw [Occurrence.areBound] at hAround
  rw [Occurrence.areBound, List.all_cons, hAround,
    Bool.and_true, isBound_eq_all]

/-
  Inside of bound blocks, a block is elided unless it is
  bound.
-/
theorem isElided_of_bound
    (inner : Forest)
    (hAround : Occurrence.areBound bound around = true) :
    Enclosure.isElided bound ⟨inner, around⟩ =
      !inner.isBound bound := by
  rw [Enclosure.isElided, hAround, Bool.true_and,
    isBound_eq_all]

/-
  The number of blocks that stand in an elided block, at
  whatever level.
-/
def hidden (bound : String → Bool) : Forest → Nat
  | done => 0
  | literal _ next => hidden bound next
  | slot _ next => hidden bound next
  | block inner next =>
      if isBound bound inner then
        hidden bound inner + hidden bound next
      else
        inner.blockCount + hidden bound next

/- A block is included, or elided, or in an elided one. -/
theorem included_add_elided_add_hidden (forest : Forest) :
    forest.included bound + forest.elided bound +
        forest.hidden bound = forest.blockCount := by
  induction forest with
  | done => rfl
  | literal text next ih => exact ih
  | slot placeholder next ih => exact ih
  | block inner next ihInner ihNext =>
      simp only [included, elided, hidden, blockCount]
      split <;> omega

/- In a block that goes, no block is included or elided. -/
theorem counts_of_unbound
    (forest : Forest)
    (hAround : Occurrence.areBound bound around = false) :
    ∀ block ∈ forest.enclosuresIn around,
      block.isIncluded bound = false ∧
        block.isElided bound = false := by
  induction forest generalizing around with
  | done => exact List.forall_mem_nil _
  | literal text next ih => exact ih hAround
  | slot placeholder next ih => exact ih hAround
  | block inner next ihInner ihNext =>
      rw [Occurrence.areBound] at hAround
      have hInner :
          Occurrence.areBound bound
            (inner.directNames :: around) = false := by
        rw [Occurrence.areBound, List.all_cons, hAround,
          Bool.and_false]
      intro block hBlock
      rcases List.mem_cons.1 hBlock with rfl | hOther
      · refine ⟨hInner, ?_⟩
        rw [Enclosure.isElided, Occurrence.areBound,
          hAround, Bool.false_and]
      · rcases List.mem_append.1 hOther with
          hInside | hNext
        · exact ihInner hInner block hInside
        · exact ihNext hAround block hNext

/-
  In blocks that stay, the blocks of a forest are counted.
-/
theorem counts_of_bound
    (forest : Forest)
    (hAround : Occurrence.areBound bound around = true) :
    (forest.enclosuresIn around).countP
          (Enclosure.isIncluded bound) =
        forest.included bound ∧
      (forest.enclosuresIn around).countP
          (Enclosure.isElided bound) =
        forest.elided bound := by
  induction forest generalizing around with
  | done => exact ⟨rfl, rfl⟩
  | literal text next ih => exact ih hAround
  | slot placeholder next ih => exact ih hAround
  | block inner next ihInner ihNext =>
      rcases ihNext hAround with ⟨hIncluded, hElided⟩
      have hBlock := areBound_block inner hAround
      have hHere :
          Enclosure.isIncluded bound ⟨inner, around⟩ =
            inner.isBound bound :=
        hBlock
      rw [enclosuresIn, List.countP_cons,
        List.countP_append, List.countP_cons,
        List.countP_append, hIncluded, hElided, hHere,
        isElided_of_bound inner hAround, included, elided]
      cases hInner : inner.isBound bound with
      | true =>
          rcases ihInner (hBlock.trans hInner) with
            ⟨hIn, hOut⟩
          rw [hIn, hOut]
          simp
          omega
      | false =>
          have hNone :=
            counts_of_unbound inner (hBlock.trans hInner)
          have hNoneIncluded :
              (inner.enclosuresIn
                (inner.directNames :: around)).countP
                  (Enclosure.isIncluded bound) = 0 := by
            rw [List.countP_eq_zero]
            intro block hMem
            simp [(hNone block hMem).1]
          have hNoneElided :
              (inner.enclosuresIn
                (inner.directNames :: around)).countP
                  (Enclosure.isElided bound) = 0 := by
            rw [List.countP_eq_zero]
            intro block hMem
            simp [(hNone block hMem).2]
          rw [hNoneIncluded, hNoneElided]
          simp
          omega

/-
  The blocks that are included are counted from the list of
  all blocks.
-/
theorem included_eq_countP (forest : Forest) :
    forest.included bound =
      forest.enclosures.countP
        (Enclosure.isIncluded bound) :=
  (counts_of_bound forest rfl).1.symm

/-
  The blocks that are elided are counted from the list of
  all blocks.
-/
theorem elided_eq_countP (forest : Forest) :
    forest.elided bound =
      forest.enclosures.countP (Enclosure.isElided bound) :=
  (counts_of_bound forest rfl).2.symm

/-
  No block is hidden if and only if elided ones have none.
-/
theorem hidden_eq_zero_iff
    (forest : Forest)
    (hAround : Occurrence.areBound bound around = true) :
    forest.hidden bound = 0 ↔
      ∀ block ∈ forest.enclosuresIn around,
        block.isElided bound = true →
          block.inner.blockCount = 0 := by
  induction forest generalizing around with
  | done => exact iff_of_true rfl (List.forall_mem_nil _)
  | literal text next ih => exact ih hAround
  | slot placeholder next ih => exact ih hAround
  | block inner next ihInner ihNext =>
      have hBlock := areBound_block inner hAround
      rw [enclosuresIn, List.forall_mem_cons,
        List.forall_mem_append,
        isElided_of_bound inner hAround, hidden,
        ← ihNext hAround]
      cases hInner : inner.isBound bound with
      | true =>
          rw [← ihInner (hBlock.trans hInner)]
          simp
      | false =>
          have hNone :
              ∀ block ∈ inner.enclosuresIn
                  (inner.directNames :: around),
                block.isElided bound = true →
                  block.inner.blockCount = 0 := by
            intro block hMem hElided
            have hNot :=
              (counts_of_unbound inner (hBlock.trans hInner)
                block hMem).2
            rw [hNot] at hElided
            cases hElided
          rw [iff_true_intro hNone]
          simp

end Counts

------------------------------------------------------------
-- Templates with Parameters
------------------------------------------------------------

end Forest

/- Whether names are bound, to whatever it may be. -/
theorem Params.areBound_iff
    (params : Params)
    (around : List (List String)) :
    Occurrence.areBound params.contains around = true ↔
      ∀ names ∈ around, ∀ name ∈ names,
        ∃ param, params.get? name = some param := by
  simp only [Occurrence.areBound, List.all_eq_true,
    Params.contains, Option.isSome_iff_exists]

namespace Forest

/-
  What stays of a template is decided by the paths to it.  A
  piece stays if every name that stands directly in a block
  around it is bound, be it to a null; the pieces that stay
  keep their order.  A block is included if it and all
  blocks around it are bound so, and it is elided if only
  those around it are.  Together they are all blocks unless
  an elided block contains one.
-/
theorem retained_by_path
    (forest : Forest)
    (params : Params) :
    let bound := params.contains
    let areBound := fun around : List (List String) =>
      ∀ names ∈ around, ∀ name ∈ names,
        ∃ param, params.get? name = some param
    (forest.occurrences.map Occurrence.segment =
      forest.flatten.filterMap Piece.segment?) ∧
      (∀ (inner : Forest) (name : String),
        name ∈ inner.directNames ↔
          ∃ placeholder,
            ⟨.slot placeholder, []⟩ ∈
              inner.occurrences ∧
              nameOf? placeholder = some name) ∧
      (∀ occurrence : Occurrence,
        occurrence.isRetained bound = true ↔
          areBound occurrence.around) ∧
      (∀ block : Enclosure,
        (block.isIncluded bound = true ↔
          areBound [block.inner.directNames] ∧
            areBound block.around) ∧
        (block.isElided bound = true ↔
          ¬ areBound [block.inner.directNames] ∧
            areBound block.around)) ∧
      forest.segments bound =
        (forest.occurrences.filter
          (Occurrence.isRetained bound)).map
          Occurrence.segment ∧
      forest.included bound =
        forest.enclosures.countP
          (Enclosure.isIncluded bound) ∧
      forest.elided bound =
        forest.enclosures.countP
          (Enclosure.isElided bound) ∧
      forest.enclosures.length = forest.blockCount ∧
      forest.included bound + forest.elided bound ≤
        forest.blockCount ∧
      (forest.included bound + forest.elided bound =
          forest.blockCount ↔
        ∀ block ∈ forest.enclosures,
          block.isElided bound = true →
            block.inner.enclosures = []) := by
  intro bound areBound
  have hTotal :
      forest.included bound + forest.elided bound +
          forest.hidden bound = forest.blockCount :=
    included_add_elided_add_hidden forest
  have hHidden :
      forest.hidden bound = 0 ↔
        ∀ block ∈ forest.enclosures,
          block.isElided bound = true →
            block.inner.blockCount = 0 :=
    hidden_eq_zero_iff forest rfl
  have hEmpty :
      ∀ inner : Forest,
        inner.enclosures = [] ↔ inner.blockCount = 0 := by
    intro inner
    rw [← length_enclosuresIn [], List.length_eq_zero_iff]
    rfl
  refine ⟨map_segment_occurrencesIn [] forest,
    mem_directNames_iff [], ?_, ?_,
    segments_eq_retained forest, included_eq_countP forest,
    elided_eq_countP forest, length_enclosuresIn [] forest,
    by omega, ?_⟩
  · intro occurrence
    exact params.areBound_iff occurrence.around
  · intro block
    have hOwn :=
      params.areBound_iff [block.inner.directNames]
    have hAround := params.areBound_iff block.around
    rw [Occurrence.areBound, List.all_cons, List.all_nil,
      Bool.and_true] at hOwn
    constructor
    · rw [Enclosure.isIncluded, Occurrence.areBound,
        List.all_cons, Bool.and_eq_true,
        ← Occurrence.areBound, hAround]
      exact and_congr_left' hOwn
    · rw [Enclosure.isElided, Bool.and_eq_true, hAround,
        Bool.not_eq_true', ← Bool.not_eq_true, hOwn]
      exact and_comm
  · simp only [hEmpty]
    rw [← hHidden]
    omega

end Forest

end SqlAccess
