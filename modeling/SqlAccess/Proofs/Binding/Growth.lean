import SqlAccess.Proofs.Binding.Inclusion
import SqlAccess.Proofs.Template.Tree

/-
  This file shows that binding more names only adds to what
  stays of a template: pieces that stay are kept, at the
  same places, and so are the blocks that are included.
  Once all names of a template are bound, all of it stays.

  Key definitions include:
    * `Occurrence.Among`

  Key theorems include:
    * `Forest.mem_names_of_direct`
    * `Forest.among_of_occurrence`
    * `Forest.among_of_enclosure`
    * `Forest.retained_grows`
-/

namespace SqlAccess

------------------------------------------------------------
-- Names of a Template
------------------------------------------------------------

namespace Forest

variable {name : String}

/- The names of a forest are those of its placeholders. -/
theorem mem_names_iff {forest : Forest} :
    name ∈ forest.names ↔
      ∃ placeholder ∈ forest.placeholders,
        nameOf? placeholder = some name := by
  rw [names, (firsts_eraseDups _).mem_iff,
    List.mem_filterMap]

@[simp] theorem mem_names_literal
    {text : String}
    {next : Forest} :
    name ∈ (literal text next).names ↔
      name ∈ next.names := by
  simp only [mem_names_iff, placeholders]

@[simp] theorem mem_names_slot
    {placeholder : Placeholder}
    {next : Forest} :
    name ∈ (slot placeholder next).names ↔
      nameOf? placeholder = some name ∨
        name ∈ next.names := by
  simp only [mem_names_iff, placeholders,
    List.exists_mem_cons_iff]

@[simp] theorem mem_names_block {inner next : Forest} :
    name ∈ (block inner next).names ↔
      name ∈ inner.names ∨ name ∈ next.names := by
  simp only [mem_names_iff, placeholders, List.mem_append,
    or_and_right, exists_or]

/-
  The names that stand directly in a part are names of it.
-/
theorem mem_names_of_direct
    {forest : Forest}
    (hName : name ∈ forest.directNames) :
    name ∈ forest.names := by
  induction forest with
  | done => cases hName
  | literal text next ih =>
      exact mem_names_literal.2 (ih hName)
  | slot placeholder next ih =>
      rw [directNames, List.mem_append,
        Option.mem_toList] at hName
      exact mem_names_slot.2 (hName.imp_right ih)
  | block inner next ihInner ihNext =>
      exact mem_names_block.2 (.inr (ihNext hName))

end Forest

------------------------------------------------------------
-- Names of the Blocks Around
------------------------------------------------------------

namespace Occurrence

/- Whether all names directly in some blocks are known. -/
def Among
    (known : String → Prop)
    (around : List (List String)) : Prop :=
  ∀ names ∈ around, ∀ name ∈ names, known name

/-
  The blocks around a place are bound if all names that
  stand directly in them are.
-/
theorem areBound_iff
    {bound : String → Bool}
    {around : List (List String)} :
    areBound bound around = true ↔
      Among (fun name => bound name = true) around := by
  simp only [areBound, List.all_eq_true, Among]

/- Blocks that stay do so where more names are bound. -/
theorem Among.areBound_mono
    {before after : String → Bool}
    {around : List (List String)}
    (hMore :
      Among (fun name => before name = true →
        after name = true) around)
    (hBefore : areBound before around = true) :
    areBound after around = true := by
  rw [areBound_iff] at hBefore ⊢
  intro names hNames name hName
  exact hMore names hNames name hName
    (hBefore names hNames name hName)

/- Nothing but the names of blocks decides about them. -/
theorem Among.areBound_congr
    {before after : String → Bool}
    {around : List (List String)}
    (hSame :
      Among (fun name => before name = after name) around) :
    areBound before around = areBound after around := by
  rw [Bool.eq_iff_iff, areBound_iff, areBound_iff]
  refine forall₂_congr fun names hNames => ?_
  refine forall₂_congr fun name hName => ?_
  exact Bool.eq_iff_iff.1 (hSame names hNames name hName)

end Occurrence

/-
  A block is elided if those around it stay and it does not.
-/
theorem Enclosure.isElided_eq
    (bound : String → Bool)
    (block : Enclosure) :
    block.isElided bound =
      (Occurrence.areBound bound block.around &&
        !block.isIncluded bound) := by
  rw [isElided, isIncluded, Occurrence.areBound,
    Occurrence.areBound, List.all_cons]
  cases block.inner.directNames.all bound <;> simp

namespace Forest

variable {known : String → Prop}
variable {around : List (List String)}

/-
  The names around the inside of a block are those of the
  block as well.
-/
theorem among_cons_directNames
    {inner : Forest}
    (hNames : ∀ name ∈ inner.names, known name)
    (hAround : Occurrence.Among known around) :
    Occurrence.Among known
      (inner.directNames :: around) := by
  refine List.forall_mem_cons.2 ⟨?_, hAround⟩
  intro name hName
  exact hNames name (mem_names_of_direct hName)

/-
  The blocks around a piece have no names but the forest's.
-/
theorem among_of_occurrence
    {forest : Forest}
    (hNames : ∀ name ∈ forest.names, known name)
    (hAround : Occurrence.Among known around) :
    ∀ occurrence ∈ forest.occurrencesIn around,
      Occurrence.Among known occurrence.around := by
  induction forest generalizing around with
  | done => exact List.forall_mem_nil _
  | literal text next ih =>
      simp only [mem_names_literal] at hNames
      exact List.forall_mem_cons.2
        ⟨hAround, ih hNames hAround⟩
  | slot placeholder next ih =>
      simp only [mem_names_slot, or_imp, forall_and]
        at hNames
      exact List.forall_mem_cons.2
        ⟨hAround, ih hNames.2 hAround⟩
  | block inner next ihInner ihNext =>
      simp only [mem_names_block, or_imp, forall_and]
        at hNames
      rcases hNames with ⟨hInner, hNext⟩
      exact List.forall_mem_append.2
        ⟨ihInner hInner
          (among_cons_directNames hInner hAround),
            ihNext hNext hAround⟩

/- Nor do a block and those around it. -/
theorem among_of_enclosure
    {forest : Forest}
    (hNames : ∀ name ∈ forest.names, known name)
    (hAround : Occurrence.Among known around) :
    ∀ block ∈ forest.enclosuresIn around,
      Occurrence.Among known
        (block.inner.directNames :: block.around) := by
  induction forest generalizing around with
  | done => exact List.forall_mem_nil _
  | literal text next ih =>
      simp only [mem_names_literal] at hNames
      exact ih hNames hAround
  | slot placeholder next ih =>
      simp only [mem_names_slot, or_imp, forall_and]
        at hNames
      exact ih hNames.2 hAround
  | block inner next ihInner ihNext =>
      simp only [mem_names_block, or_imp, forall_and]
        at hNames
      rcases hNames with ⟨hInner, hNext⟩
      have hBlock :
          Occurrence.Among known
            (inner.directNames :: around) :=
        among_cons_directNames hInner hAround
      refine List.forall_mem_cons.2 ⟨hBlock, ?_⟩
      exact List.forall_mem_append.2
        ⟨ihInner hInner hBlock, ihNext hNext hAround⟩

------------------------------------------------------------
-- More Names
------------------------------------------------------------

section More

variable {before after : String → Bool}
variable {forest : Forest}
variable
  (hMore :
    ∀ name ∈ forest.names,
      before name = true → after name = true)
include hMore

/- What stays, stays with more names. -/
theorem isRetained_mono
    {occurrence : Occurrence}
    (hMem : occurrence ∈ forest.occurrences)
    (hBefore : occurrence.isRetained before = true) :
    occurrence.isRetained after = true :=
  (among_of_occurrence hMore (List.forall_mem_nil _)
    occurrence hMem).areBound_mono hBefore

/-
  With more names, the segments that stay are among those
  that stay then.
-/
theorem sublist_segments :
    (forest.segments before).Sublist
      (forest.segments after) := by
  rw [segments_eq_retained, segments_eq_retained]
  refine List.Sublist.map _ ?_
  have hAgain :
      forest.occurrences.filter
          (Occurrence.isRetained before) =
        (forest.occurrences.filter
          (Occurrence.isRetained after)).filter
          (Occurrence.isRetained before) := by
    rw [List.filter_filter]
    refine List.filter_congr fun occurrence hMem => ?_
    cases hBefore : occurrence.isRetained before with
    | false => rfl
    | true => rw [isRetained_mono hMore hMem hBefore]; rfl
  rw [hAgain]
  exact List.filter_sublist

/- With more names, at least as many blocks are included. -/
theorem included_mono :
    forest.included before ≤ forest.included after := by
  rw [included_eq_countP, included_eq_countP]
  refine List.countP_mono_left fun block hMem hBefore => ?_
  exact (among_of_enclosure hMore (List.forall_mem_nil _)
    block hMem).areBound_mono hBefore

end More

section All

variable {bound : String → Bool}
variable {forest : Forest}
variable
  (hAll : ∀ name ∈ forest.names, bound name = true)
include hAll

/- Where all names are bound, every block is included. -/
theorem included_of_all :
    forest.included bound = forest.blockCount := by
  rw [included_eq_countP, ← length_enclosuresIn [] forest]
  refine List.countP_eq_length.2 fun block hMem => ?_
  exact Occurrence.areBound_iff.2
    (among_of_enclosure hAll (List.forall_mem_nil _)
      block hMem)

/- Where all names are bound, no block is elided. -/
theorem elided_of_all : forest.elided bound = 0 := by
  have hTotal :
      forest.included bound + forest.elided bound +
          forest.hidden bound = forest.blockCount :=
    included_add_elided_add_hidden forest
  rw [included_of_all hAll] at hTotal
  omega

/- Where all names are bound, every piece stays. -/
theorem segments_of_all :
    forest.segments bound =
      forest.flatten.filterMap Piece.segment? := by
  rw [segments_eq_retained,
    ← map_segment_occurrencesIn [] forest]
  refine congrArg _ (List.filter_eq_self.2 ?_)
  intro occurrence hMem
  exact Occurrence.areBound_iff.2
    (among_of_occurrence hAll (List.forall_mem_nil _)
      occurrence hMem)

end All

------------------------------------------------------------
-- The Same Names
------------------------------------------------------------

section Same

variable {before after : String → Bool}
variable {forest : Forest}
variable (hSame : ∀ name ∈ forest.names,
  before name = after name)
include hSame

/-
  Whether a part stays hangs on the names of the text only.
-/
theorem isRetained_congr
    {occurrence : Occurrence}
    (hMem : occurrence ∈ forest.occurrences) :
    occurrence.isRetained before =
      occurrence.isRetained after :=
  (among_of_occurrence hSame (List.forall_mem_nil _)
    occurrence hMem).areBound_congr

/- The same segments stay for the same names. -/
theorem segments_congr :
    forest.segments before = forest.segments after := by
  rw [segments_eq_retained, segments_eq_retained]
  refine congrArg _ (List.filter_congr ?_)
  intro occurrence hMem
  exact isRetained_congr hSame hMem

/-
  Whether a block is included hangs on the names of the text
  only.
-/
theorem isIncluded_congr
    {block : Enclosure}
    (hMem : block ∈ forest.enclosures) :
    block.isIncluded before = block.isIncluded after :=
  (among_of_enclosure hSame (List.forall_mem_nil _)
    block hMem).areBound_congr

/-
  Whether a block is elided hangs on the names of the text
  only.
-/
theorem isElided_congr
    {block : Enclosure}
    (hMem : block ∈ forest.enclosures) :
    block.isElided before = block.isElided after := by
  have hAmong :=
    among_of_enclosure hSame (List.forall_mem_nil _)
      block hMem
  have hAround :
      Occurrence.areBound before block.around =
        Occurrence.areBound after block.around :=
    Occurrence.Among.areBound_congr
      (List.forall_mem_cons.1 hAmong).2
  rw [Enclosure.isElided_eq, Enclosure.isElided_eq, hAround,
    isIncluded_congr hSame hMem]

/- The same number of blocks is included. -/
theorem included_congr :
    forest.included before = forest.included after := by
  rw [included_eq_countP, included_eq_countP]
  refine List.countP_congr fun block hMem => ?_
  rw [isIncluded_congr hSame hMem]

/- The same number of blocks is elided. -/
theorem elided_congr :
    forest.elided before = forest.elided after := by
  rw [elided_eq_countP, elided_eq_countP]
  refine List.countP_congr fun block hMem => ?_
  rw [isElided_congr hSame hMem]

end Same

------------------------------------------------------------
-- Growth
------------------------------------------------------------

/-
  Where every name of a template that is bound at first is
  bound later too, what stays grows: each piece that stayed
  does so still, so that the pieces at first are a part of
  the later ones in their order, and no fewer blocks are
  included.  If all names are bound later, no block is
  elided and all pieces stay.  If no name of the template is
  new, nothing changes.
-/
theorem retained_grows
    (forest : Forest)
    (params more : Params)
    (hMore :
      ∀ name ∈ forest.names,
        params.contains name = true →
          more.contains name = true) :
    let first := params.contains
    let later := more.contains
    (∀ bound : String → Bool,
      forest.segments bound =
        (forest.occurrences.filter
          (Occurrence.isRetained bound)).map
          Occurrence.segment) ∧
      (∀ occurrence ∈ forest.occurrences,
        occurrence.isRetained first = true →
          occurrence.isRetained later = true) ∧
      (forest.segments first).Sublist
        (forest.segments later) ∧
      forest.included first ≤ forest.included later ∧
      ((∀ name ∈ forest.names, later name = true) →
        forest.elided later = 0 ∧
          forest.included later = forest.blockCount ∧
          forest.segments later =
            forest.flatten.filterMap Piece.segment?) ∧
      ((∀ name ∈ forest.names,
          later name = true → first name = true) →
        (∀ occurrence ∈ forest.occurrences,
          occurrence.isRetained first =
            occurrence.isRetained later) ∧
          forest.segments first = forest.segments later ∧
          forest.included first = forest.included later ∧
          forest.elided first = forest.elided later) := by
  intro first later
  refine ⟨fun bound => segments_eq_retained forest,
    fun occurrence hMem => isRetained_mono hMore hMem,
    sublist_segments hMore, included_mono hMore, ?_, ?_⟩
  · intro hAll
    exact ⟨elided_of_all hAll, included_of_all hAll,
      segments_of_all hAll⟩
  · intro hNoMore
    have hSame :
        ∀ name ∈ forest.names,
          first name = later name := by
      intro name hName
      exact Bool.eq_iff_iff.2
        ⟨hMore name hName, hNoMore name hName⟩
    exact
      ⟨fun occurrence hMem => isRetained_congr hSame hMem,
      segments_congr hSame, included_congr hSame,
      elided_congr hSame⟩

/-
  One more name, bound to a null, brings in a block, and the
  decision on a block inside of it is made that was not made
  before; the name of the last block stays unbound.
-/
theorem retained_grows_sample :
    let x : Placeholder := ⟨.named "x", none⟩
    let y : Placeholder := ⟨.named "y", none⟩
    let z : Placeholder := ⟨.named "z", none⟩
    let deep : Forest :=
      .slot y (.literal " c" (.block (.slot x .done) .done))
    let inner : Forest :=
      .slot x (.literal " b" (.block deep .done))
    let forest : Forest :=
      .literal "a"
        (.block inner (.block (.slot z .done) .done))
    let params := Params.ofList [("y", .value .null)]
    let more := params.insert "x" (.value .null)
    Template.compile
        "a\x7b:x b\x7b:y c\x7b:x\x7d\x7d\x7d\x7b:z\x7d" =
        .ok
          ⟨"a\x7b:x b\x7b:y c\x7b:x\x7d\x7d\x7d\x7b:z\x7d",
          forest⟩ ∧
      forest.segments params.contains = [.literal "a"] ∧
      forest.segments more.contains =
        [.literal "a", .slot x, .literal " b", .slot y,
          .literal " c", .slot x] ∧
      (forest.segments params.contains).Sublist
        (forest.segments more.contains) ∧
      forest.included params.contains ≤
        forest.included more.contains := by
  intro x y z deep inner forest params more
  have hMore :
      ∀ name ∈ forest.names,
        params.contains name = true →
          more.contains name = true := by
    decide +kernel
  rcases retained_grows forest params more hMore with
    ⟨-, -, hSublist, hIncluded, -⟩
  exact ⟨by decide +kernel, by decide +kernel,
    by decide +kernel, hSublist, hIncluded⟩

end Forest

end SqlAccess
