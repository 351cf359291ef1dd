import SqlAccess.Proofs.Binding.Shape

/-
  This file says what a bound statement is: the pieces of
  the template that stay, in their order, with markers in
  place of values, and the values of the markers in the
  order of the markers.

  Key definitions include:
    * `Atom`
    * `Atom.write`
    * `Atom.casts`
    * `Param.atoms`
    * `Filling`
    * `Filling.Allowed`
    * `Template.Filled`

  Key theorems include:
    * `Atom.write_append`
    * `Param.written_eq_write`
    * `Param.casts_atoms`
    * `Segment.bindAll_writes`
    * `Template.bind_filled`
-/

namespace SqlAccess

------------------------------------------------------------
-- Atoms
------------------------------------------------------------

/-
  What a statement is made of: text, and markers that stand
  for values, each cast as a tag asks.
-/
inductive Atom
  | text (s : String)
  | marker (tag : Option TypeTag) (v : Value)

namespace Atom

/-
  The text of atoms, where the markers are numbered one
  after the other from a number on.
-/
def write
    (style : MarkerStyle)
    (number : Nat) : List Atom → String
  | [] => ""
  | text s :: rest => s ++ write style number rest
  | marker _ _ :: rest =>
      style.marker number ++ write style (number + 1) rest

/-
  What the value of a marker is cast to, if there is a tag.
-/
def cast
    (tag : Option TypeTag)
    (v : Value) : Except CastFault Value :=
  match tag with
  | none => .ok v
  | some tag => tag.cast v

/- What the values of the markers are cast to, in order. -/
def casts : List Atom → List (Except CastFault Value)
  | [] => []
  | text _ :: rest => casts rest
  | marker tag v :: rest => cast tag v :: casts rest

/- Values are cast from left to right. -/
theorem casts_append (front back : List Atom) :
    casts (front ++ back) = casts front ++ casts back := by
  induction front with
  | nil => rfl
  | cons atom front ih =>
      cases atom with
      | text s => exact ih
      | marker tag v => exact congrArg (cast tag v :: ·) ih

/- The markers of later atoms are numbered from there on. -/
theorem write_append
    (style : MarkerStyle)
    (number : Nat)
    (front back : List Atom) :
    write style number (front ++ back) =
      write style number front ++
        write style (number + (casts front).length)
          back := by
  induction front generalizing number with
  | nil => simp [write, casts]
  | cons atom front ih =>
      cases atom with
      | text s =>
          rw [List.cons_append, write, write, ih,
            String.append_assoc]
          rfl
      | marker tag v =>
          rw [List.cons_append, write, write, ih,
            String.append_assoc, casts, List.length_cons,
            Nat.add_right_comm, Nat.add_assoc]

end Atom

------------------------------------------------------------
-- Parameters
------------------------------------------------------------

namespace Param

/-
  What is written for a parameter: a marker for a value, and
  markers with commas between them for several values.  A
  list without values is a null, and a part of a statement
  is itself.
-/
def atoms (tag : Option TypeTag) : Param → List Atom
  | value v => [.marker tag v]
  | list [] => [.text "NULL"]
  | list items =>
      (items.map (.marker tag)).intersperse (.text ", ")
  | fragment f => [.text f.sql]

/-
  Markers with commas between them are written with growing
  numbers.
-/
theorem write_intersperse
    (style : MarkerStyle)
    (number : Nat)
    (tag : Option TypeTag)
    (items : List Value) :
    Atom.write style number
        ((items.map (.marker tag)).intersperse
          (.text ", ")) =
      markers style number items.length := by
  induction items generalizing number with
  | nil => simp [Atom.write, markers]
  | cons item items ih =>
      cases items with
      | nil => simp [Atom.write, markers]
      | cons other items =>
          have hLater := ih (number + 1)
          simp only [List.map_cons] at hLater
          rw [List.map_cons, List.map_cons,
            List.intersperse_cons_cons, Atom.write,
            Atom.write, hLater]
          simp [markers, List.range'_succ,
            String.intercalate_cons_cons,
            String.append_assoc]

/- Commas have no values. -/
theorem casts_intersperse
    (tag : Option TypeTag)
    (items : List Value) :
    Atom.casts
        ((items.map (.marker tag)).intersperse
          (.text ", ")) =
      items.map (Atom.cast tag) := by
  induction items with
  | nil => rfl
  | cons item items ih =>
      cases items with
      | nil => rfl
      | cons other items =>
          rw [List.map_cons, List.map_cons,
            List.intersperse_cons_cons, Atom.casts,
            Atom.casts]
          exact congrArg (Atom.cast tag item :: ·) ih

/-
  What a parameter becomes is what its atoms are written as.
-/
theorem written_eq_write
    (style : MarkerStyle)
    (number : Nat)
    (tag : Option TypeTag)
    (param : Param) :
    param.written style number =
      Atom.write style number (param.atoms tag) := by
  cases param with
  | value v => simp [written, atoms, Atom.write]
  | list items =>
      cases items with
      | nil => rfl
      | cons item items =>
          exact (write_intersperse style number tag _).symm
  | fragment f => simp [written, atoms, Atom.write]

/- Items that are accepted are cast as the tag asks. -/
theorem acceptedItem_eq_ok
    {tag : Option TypeTag}
    {item v : Value}
    (hItem : acceptedItem tag item = .ok v) :
    Atom.cast tag item = .ok v := by
  cases tag with
  | none =>
      cases hItem
      rfl
  | some tag => exact Except.eq_ok_of_mapError hItem

/- The members of a list are the casts of its markers. -/
theorem acceptedItems_eq_ok
    {tag : Option TypeTag}
    {items values : List Value}
    (hItems : items.mapM (acceptedItem tag) = .ok values) :
    items.map (Atom.cast tag) = values.map .ok := by
  have hEach := Except.mapM_eq_ok_iff.1 hItems
  clear hItems
  induction hEach with
  | nil => rfl
  | cons hFirst _ ih =>
      rw [List.map_cons, List.map_cons,
        acceptedItem_eq_ok hFirst, ih]

/-
  The values of a parameter are those of its markers, cast.
-/
theorem casts_atoms
    {policy : EmptyList}
    {tag : Option TypeTag}
    {param : Param}
    {values : List Value}
    (hAccepted : param.accepted policy tag = .ok values) :
    Atom.casts (param.atoms tag) = values.map .ok := by
  cases param with
  | value v =>
      rcases Except.exists_of_bind hAccepted with
        ⟨w, hValue, hValues⟩
      cases hValues
      rw [acceptedValue] at hValue
      split at hValue
      · cases hValue
      · exact congrArg
          (· :: []) (acceptedItem_eq_ok hValue)
  | list items =>
      cases items with
      | nil =>
          cases policy with
          | reject => cases hAccepted
          | alwaysFalse =>
              cases hAccepted
              rfl
      | cons item items =>
          rw [atoms, casts_intersperse]
          · exact acceptedItems_eq_ok hAccepted
          · simp
  | fragment f =>
      cases tag with
      | some tag => cases hAccepted
      | none =>
          cases hAccepted
          rfl

end Param

------------------------------------------------------------
-- Fillings
------------------------------------------------------------

/-
  A piece of a template that stays, and for a placeholder
  the parameter that takes its place.
-/
inductive Filling
  | literal (text : String)
  | slot (placeholder : Placeholder) (param : Param)

namespace Filling

/- The piece of the template. -/
def segment : Filling → Segment
  | literal text => .literal text
  | slot placeholder _ => .slot placeholder

/- The parameter of a positional placeholder. -/
def positional? : Filling → Option Param
  | slot ⟨.positional _, _⟩ param => some param
  | _ => none

/- What is written for the piece. -/
def atoms : Filling → List Atom
  | literal text => [.text text]
  | slot placeholder param => param.atoms placeholder.tag

/-
  Whether a parameter may take the place of a placeholder: a
  named one takes what its name is bound to, a list without
  values needs a policy that makes it a null, and a part of
  a statement takes no tag.
-/
structure Allowed
    (params : Params)
    (policy : EmptyList)
    (placeholder : Placeholder)
    (param : Param) : Prop where
  named :
    ∀ name, placeholder.key = .named name →
      params.get? name = some param
  list : param = .list [] → policy = .alwaysFalse
  fragment :
    ∀ f, param = .fragment f → placeholder.tag = none

end Filling

section Writing

variable {dialect : Dialect} {source : String}
variable {params : Params}

/-
  A placeholder is given the next parameter, or a named one.
-/
theorem Placeholder.choose_allowed
    {placeholder : Placeholder}
    {state : BindState}
    {chosen : Chosen}
    (hChosen :
      placeholder.choose source params state = .ok chosen) :
    (∀ name, placeholder.key = .named name →
        params.get? name = some chosen.param) ∧
      state.queue =
        (Filling.slot placeholder
          chosen.param).positional?.toList ++
          chosen.state.queue := by
  rcases placeholder with ⟨key, tag⟩
  cases key with
  | named name =>
      cases hParam : params.get? name with
      | none => simp [choose, hParam] at hChosen
      | some param =>
          simp only [choose, hParam] at hChosen
          cases hChosen
          refine ⟨?_, rfl⟩
          rintro _ ⟨⟩
          exact hParam
  | positional index =>
      rcases state with ⟨marker, slot, queue⟩
      cases queue with
      | nil => cases hChosen
      | cons param queue =>
          cases hChosen
          exact ⟨by simp, rfl⟩

/-
  An empty list is accepted only as a null, and a part of a
  statement only without a tag.
-/
theorem Param.allowed_of_accepted
    {policy : EmptyList}
    {tag : Option TypeTag}
    {param : Param}
    {values : List Value}
    (hAccepted : param.accepted policy tag = .ok values) :
    (param = .list [] → policy = .alwaysFalse) ∧
      (∀ f, param = .fragment f → tag = none) := by
  constructor
  · rintro rfl
    cases policy with
    | reject => cases hAccepted
    | alwaysFalse => rfl
  · rintro f rfl
    cases tag with
    | some tag => cases hAccepted
    | none => rfl

/-
  Segments that are bound from a state on use up the queue,
  and write their markers from the number of the state on.
-/
theorem Segment.bindAll_writes
    {segments : List Segment}
    {state : BindState}
    {bound : Bound}
    (hBound :
      bindAll dialect source params state segments =
        .ok bound) :
    ∃ fillings : List Filling,
      fillings.map Filling.segment = segments ∧
        (∀ placeholder param,
          .slot placeholder param ∈ fillings →
            Filling.Allowed params dialect.emptyList
              placeholder param) ∧
        fillings.filterMap Filling.positional? =
          state.queue ∧
        bound.query =
          Atom.write dialect.style state.marker
            (fillings.flatMap Filling.atoms) ∧
        Atom.casts (fillings.flatMap Filling.atoms) =
          bound.params.map .ok := by
  induction segments generalizing state bound with
  | nil =>
      rw [bindAll] at hBound
      split at hBound
      · next hQueue =>
          cases hBound
          have hEmpty := List.isEmpty_iff.1 hQueue
          exact ⟨[], rfl, by simp, hEmpty.symm, rfl,
            rfl⟩
      · cases hBound
  | cons segment rest ih =>
      cases segment with
      | literal text =>
          rcases Except.exists_of_bind hBound with
            ⟨later, hLater, hCons⟩
          cases hCons
          rcases ih hLater with
            ⟨fillings, hSegments, hAllowed, hQueue,
              hQuery, hParams⟩
          refine ⟨.literal text :: fillings, ?_, ?_,
            hQueue, ?_, hParams⟩
          · simp [hSegments, Filling.segment]
          · simpa using hAllowed
          · simp [Bound.cons, hQuery, Filling.atoms,
              Atom.write]
      | slot placeholder =>
          rcases Except.exists_of_bind hBound with
            ⟨chosen, hChosen, hBound⟩
          rcases Except.exists_of_bind hBound with
            ⟨values, hValues, hBound⟩
          rcases Except.exists_of_bind hBound with
            ⟨later, hLater, hCons⟩
          cases hCons
          have hAccepted := Except.eq_ok_of_mapError hValues
          have hCasts := Param.casts_atoms hAccepted
          have hCount :=
            congrArg List.length hCasts
          rw [List.length_map] at hCount
          rcases placeholder.choose_allowed hChosen with
            ⟨hNamed, hTaken⟩
          rcases Param.allowed_of_accepted hAccepted with
            ⟨hList, hFragment⟩
          rcases ih hLater with
            ⟨fillings, hSegments, hAllowed, hQueue,
              hQuery, hParams⟩
          refine
            ⟨.slot placeholder chosen.param :: fillings,
            ?_, ?_, ?_, ?_, ?_⟩
          · simp [hSegments, Filling.segment]
          · intro other param hMem
            rcases List.mem_cons.1 hMem with hHere | hMem
            · cases hHere
              exact ⟨hNamed, hList, hFragment⟩
            · exact hAllowed other param hMem
          · rw [List.filterMap_cons, hTaken, ← hQueue]
            cases Filling.positional? _ <;> rfl
          · rw [List.flatMap_cons, Atom.write_append]
            simp only [Filling.atoms, hCount, Bound.cons,
              hQuery, ← Param.written_eq_write]
          · rw [List.flatMap_cons, Atom.casts_append,
              hParams]
            simp [Filling.atoms, hCasts, Bound.cons]

end Writing

------------------------------------------------------------
-- Templates
------------------------------------------------------------

namespace Forest

/- The piece of a forest that a segment was. -/
def Piece.ofSegment : Segment → Piece
  | .literal text => .literal text
  | .slot placeholder => .slot placeholder

/- The pieces that stay are in the order of the text. -/
theorem segments_sublist
    (bound : String → Bool)
    (forest : Forest) :
    ((forest.segments bound).map Piece.ofSegment).Sublist
      forest.flatten := by
  induction forest with
  | done => exact .slnil
  | literal text next ih => exact ih.cons_cons _
  | slot placeholder next ih => exact ih.cons_cons _
  | block inner next ihInner ihNext =>
      rw [segments, flatten]
      split
      · rw [List.map_append]
        exact (ihInner.append (ihNext.cons _)).cons _
      · exact (ihNext.cons _).trans
          (List.sublist_append_right _ _)

end Forest

/-
  What a statement that was bound to a template consists of.
  Each segment that stays is filled, in the order of the
  text; the positional parameters fill the positional
  placeholders among them from left to right, each once; the
  statement is what the segments are written as, with
  markers numbered from one; and the value of a marker is
  cast as its tag asks.
-/
structure Template.Filled
    (template : Template)
    (params : Params)
    (dialect : Dialect)
    (fillings : List Filling)
    (bound : Bound) : Prop where
  segments :
    fillings.map Filling.segment =
      template.forest.segments params.contains
  sourceOrder :
    ((fillings.map Filling.segment).map
      Forest.Piece.ofSegment).Sublist
      template.forest.flatten
  allowed :
    ∀ placeholder param,
      .slot placeholder param ∈ fillings →
      Filling.Allowed params dialect.emptyList
        placeholder param
  positional :
    fillings.filterMap Filling.positional? =
      params.positional
  query :
    bound.query =
      Atom.write dialect.style 1
        (fillings.flatMap Filling.atoms)
  values :
    Atom.casts (fillings.flatMap Filling.atoms) =
      bound.params.map .ok

/-
  Whenever parameters can be bound to a template, the bound
  statement is the filled template.
-/
theorem Template.bind_filled
    {template : Template}
    {params : Params}
    {dialect : Dialect}
    {bound : Bound}
    (hBound : template.bind params dialect = .ok bound) :
    ∃ fillings,
      template.Filled params dialect fillings bound := by
  rcases Segment.bindAll_writes hBound with
    ⟨fillings, hSegments, hAllowed, hQueue, hQuery,
      hValues⟩
  have hOrder :=
    template.forest.segments_sublist params.contains
  rw [← hSegments] at hOrder
  exact ⟨fillings, hSegments, hOrder, hAllowed, hQueue,
    hQuery, hValues⟩

section Sample

/- A template in which a block with a value in it goes. -/
def fillingSource : String :=
  "a = ? {or :gone = ?} (:ids!i) (:none) ? :x!s = :x"

def fillingParams : Params :=
  ⟨[("ids", .list [.text "7", .bool true]),
      ("none", .list []), ("x", .value (.int 5))],
    [.value (.text "first"), .value .null]⟩

/-
  Markers are numbered from left to right, through a list
  and behind an empty one.
-/
theorem Template.bind_filled_sample :
    ∃ template bound,
      Template.compile fillingSource = .ok template ∧
        template.bind fillingParams
            ⟨.numbered, .alwaysFalse⟩ =
          .ok bound ∧
        bound.query =
          "a = ?1  (?2, ?3) (NULL) ?4 ?5 = ?6" ∧
        ∃ fillings,
          template.Filled fillingParams
            ⟨.numbered, .alwaysFalse⟩ fillings
              bound := by
  have hBound :
      bindText fillingSource fillingParams
          ⟨.numbered, .alwaysFalse⟩ =
        .ok ⟨"a = ?1  (?2, ?3) (NULL) ?4 ?5 = ?6",
          [.text "first", .int 7, .int 1, .null, .text "5",
            .int 5]⟩ := by
    with_unfolding_all rfl
  rcases Except.exists_of_bind hBound with
    ⟨template, hTemplate, hBind⟩
  exact ⟨template, _, hTemplate, hBind, rfl,
    Template.bind_filled hBind⟩

end Sample

end SqlAccess
