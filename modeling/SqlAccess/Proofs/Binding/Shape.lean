import Mathlib.Data.List.Forall2
import SqlAccess.Binding.Bind
import SqlAccess.Proofs.FirstFault

/-
  This file shows that values never reach the text of a
  statement: the text and the number of markers depend on
  the parameters only by their shapes.

  Key definitions include:
    * `Param.Shape`
    * `Params.SameShape`
    * `BindState.SameShape`

  Key theorems include:
    * `Param.written_congr`
    * `Param.length_of_accepted`
    * `Segment.bindAll_sameShape`
    * `bindText_sameShape`
-/

namespace SqlAccess

------------------------------------------------------------
-- Shapes of Parameters
------------------------------------------------------------

namespace Param

/-
  The shape of a parameter: all but the values in it.  A
  fragment is a part of the statement and has none.
-/
inductive Shape
  | value
  | list (length : Nat)
  | fragment (f : Fragment)

def shape : Param → Shape
  | .value _ => .value
  | .list items => .list items.length
  | .fragment f => .fragment f

/- The number of markers of a parameter of a shape. -/
def Shape.markers : Shape → Nat
  | .value => 1
  | .list length => length
  | .fragment _ => 0

/- What is written for a parameter depends on its shape. -/
theorem written_congr
    {first second : Param}
    (hShape : first.shape = second.shape)
    (style : MarkerStyle)
    (number : Nat) :
    first.written style number =
      second.written style number := by
  cases first with
  | value v =>
      cases second with
      | value w => rfl
      | list items => cases hShape
      | fragment f => cases hShape
  | list items =>
      cases second with
      | value w => cases hShape
      | list others =>
          have hLength : items.length = others.length := by
            simpa [shape] using hShape
          cases items with
          | nil =>
              cases others with
              | nil => rfl
              | cons other others => cases hLength
          | cons item items =>
              cases others with
              | nil => cases hLength
              | cons other others =>
                  simp only [written, hLength]
      | fragment f => cases hShape
  | fragment f =>
      cases second with
      | value w => cases hShape
      | list items => cases hShape
      | fragment g =>
          cases hShape
          rfl

/- So does the number of values that are handed over. -/
theorem length_of_accepted
    {param : Param}
    {policy : EmptyList}
    {tag : Option TypeTag}
    {values : List Value}
    (hAccepted : param.accepted policy tag = .ok values) :
    values.length = param.shape.markers := by
  cases param with
  | value v =>
      rcases Except.exists_of_bind hAccepted with
        ⟨w, -, hValues⟩
      cases hValues
      rfl
  | list items =>
      cases items with
      | nil =>
          cases policy with
          | reject => cases hAccepted
          | alwaysFalse =>
              cases hAccepted
              rfl
      | cons item items =>
          have hEach := Except.mapM_eq_ok_iff.1 hAccepted
          exact hEach.length_eq.symm
  | fragment f =>
      cases tag with
      | some tag => cases hAccepted
      | none =>
          cases hAccepted
          rfl

end Param

------------------------------------------------------------
-- Shapes of All Parameters
------------------------------------------------------------

/-
  Parameters with the same names, and with the same shapes
  in the same places.
-/
structure Params.SameShape
    (first second : Params) :
    Prop where
  named :
    ∀ name,
      (first.get? name).map Param.shape =
        (second.get? name).map Param.shape
  positional :
    first.positional.map Param.shape =
      second.positional.map Param.shape

/- The same names are bound. -/
theorem Params.SameShape.contains_eq
    {first second : Params}
    (hShape : first.SameShape second) :
    first.contains = second.contains := by
  funext name
  have hName := congrArg Option.isSome (hShape.named name)
  simpa [Params.contains] using hName

/- Bindings that have come equally far. -/
structure BindState.SameShape
    (first second : BindState) : Prop where
  marker : first.marker = second.marker
  slot : first.slot = second.slot
  queue :
    first.queue.map Param.shape =
      second.queue.map Param.shape

section TwoBindings

variable {source : String} {dialect : Dialect}
variable {first second : Params}

/- Parameters of the same shape are chosen. -/
theorem Placeholder.choose_sameShape
    {placeholder : Placeholder}
    {state other : BindState}
    {chosen taken : Chosen}
    (hParams : first.SameShape second)
    (hState : state.SameShape other)
    (hChosen :
      placeholder.choose source first state = .ok chosen)
    (hTaken :
      placeholder.choose source second other = .ok taken) :
    chosen.param.shape = taken.param.shape ∧
      chosen.state.SameShape taken.state := by
  rcases placeholder with ⟨key, tag⟩
  cases key with
  | named name =>
      have hName := hParams.named name
      cases hFirst : first.get? name with
      | none => simp [choose, hFirst] at hChosen
      | some param =>
          cases hSecond : second.get? name with
          | none => simp [choose, hSecond] at hTaken
          | some value =>
              simp only [choose, hFirst] at hChosen
              simp only [choose, hSecond] at hTaken
              cases hChosen
              cases hTaken
              rw [hFirst, hSecond] at hName
              exact ⟨Option.some.inj hName, hState⟩
  | positional sigil =>
      rcases state with ⟨marker, slot, queue⟩
      rcases other with
        ⟨otherMarker, otherSlot, otherQueue⟩
      have hQueue := hState.queue
      cases queue with
      | nil => cases hChosen
      | cons param queue =>
          cases otherQueue with
          | nil => cases hTaken
          | cons value otherQueue =>
              cases hChosen
              cases hTaken
              rw [List.map_cons, List.map_cons,
                List.cons.injEq] at hQueue
              have hSlot : slot = otherSlot := hState.slot
              exact ⟨hQueue.1, hState.marker,
                congrArg (· + 1) hSlot, hQueue.2⟩

/-
  Two bindings of the same segments that succeed write the
  same text and hand over the same number of values.
-/
theorem Segment.bindAll_sameShape
    {segments : List Segment}
    {state other : BindState}
    {bound result : Bound}
    (hParams : first.SameShape second)
    (hState : state.SameShape other)
    (hBound :
      bindAll dialect source first state segments =
        .ok bound)
    (hResult :
      bindAll dialect source second other segments =
        .ok result) :
    bound.query = result.query ∧
      bound.params.length = result.params.length := by
  induction segments
    generalizing state other bound result with
  | nil =>
      rw [bindAll] at hBound hResult
      split at hBound
      · split at hResult
        · cases hBound
          cases hResult
          exact ⟨rfl, rfl⟩
        · cases hResult
      · cases hBound
  | cons segment rest ih =>
      cases segment with
      | literal text =>
          rcases Except.exists_of_bind hBound with
            ⟨later, hLater, hCons⟩
          rcases Except.exists_of_bind hResult with
            ⟨last, hLast, hConsLast⟩
          cases hCons
          cases hConsLast
          rcases ih hState hLater hLast with
            ⟨hQuery, hLength⟩
          exact ⟨congrArg (text ++ ·) hQuery, by
            simpa [Bound.cons] using hLength⟩
      | slot placeholder =>
          rcases Except.exists_of_bind hBound with
            ⟨chosen, hChosen, hBound⟩
          rcases Except.exists_of_bind hResult with
            ⟨taken, hTaken, hResult⟩
          rcases Except.exists_of_bind hBound with
            ⟨values, hValues, hBound⟩
          rcases Except.exists_of_bind hResult with
            ⟨others, hOthers, hResult⟩
          rcases Except.exists_of_bind hBound with
            ⟨later, hLater, hCons⟩
          rcases Except.exists_of_bind hResult with
            ⟨last, hLast, hConsLast⟩
          rcases placeholder.choose_sameShape hParams hState
              hChosen hTaken with ⟨hShape, hNext⟩
          have hCount : values.length = others.length := by
            rw [Param.length_of_accepted
                (Except.eq_ok_of_mapError hValues),
              Param.length_of_accepted
                (Except.eq_ok_of_mapError hOthers),
              hShape]
          have hWritten :
              chosen.param.written dialect.style
                  state.marker =
                taken.param.written dialect.style
                  other.marker :=
            by
              rw [hState.marker]
              exact Param.written_congr hShape _ _
          have hLaterState :
              BindState.SameShape
                { chosen.state with
                  marker := state.marker + values.length }
                { taken.state with
                  marker :=
                    other.marker + others.length } :=
            ⟨by rw [hState.marker, hCount], hNext.slot,
              hNext.queue⟩
          rcases ih hLaterState hLater hLast with
            ⟨hQuery, hLength⟩
          cases hCons
          cases hConsLast
          simp [Bound.cons, hWritten, hQuery, hCount,
            hLength]

end TwoBindings

/-
  Values never reach the text of a statement: parameters of
  the same shapes that can both be bound give the same text
  and the same number of values.
-/
theorem bindText_sameShape
    {source : String}
    {dialect : Dialect}
    {first second : Params}
    {bound result : Bound}
    (hParams : first.SameShape second)
    (hBound : bindText source first dialect = .ok bound)
    (hResult :
      bindText source second dialect = .ok result) :
    bound.query = result.query ∧
      bound.params.length = result.params.length := by
  rcases Except.exists_of_bind hBound with
    ⟨template, hTemplate, hBound⟩
  rcases Except.exists_of_bind hResult with
    ⟨same, hSame, hResult⟩
  rw [hTemplate] at hSame
  cases hSame
  rw [Template.bind] at hBound hResult
  rw [← hParams.contains_eq] at hResult
  have hStart :
      BindState.SameShape ⟨1, 0, first.positional⟩
        ⟨1, 0, second.positional⟩ :=
    ⟨rfl, rfl, hParams.positional⟩
  exact Segment.bindAll_sameShape hParams hStart hBound
    hResult

section Sample

/- A template with a block, and with a list in it. -/
def sampleSource : String :=
  "a = :name and b in (:ids) {and c = :other}"

/- Parameters with a text in two places. -/
def sampleParams (text : String) : Params :=
  ⟨[("name", .value (.text text)),
      ("ids", .list [.text text, .null])],
    []⟩

/- The text in two places does not matter for the shape. -/
theorem sampleParams_sameShape (first second : String) :
    (sampleParams first).SameShape
      (sampleParams second) := by
  refine ⟨fun name => ?_, rfl⟩
  simp only [sampleParams, Params.get?, List.lookup_cons,
    List.lookup_nil]
  cases name == "name" with
  | true => rfl
  | false =>
      cases name == "ids" with
      | true => rfl
      | false => rfl

/-
  A text that looks like a statement changes nothing of the
  statement that it is bound to.
-/
theorem bindText_sameShape_sample :
    ∃ bound result,
      bindText sampleSource (sampleParams "x")
          ⟨.dollar, .reject⟩ = .ok bound ∧
        bindText sampleSource
          (sampleParams "x'; drop t; --")
            ⟨.dollar, .reject⟩ = .ok result ∧
        bound.query = result.query ∧
        bound.params.length = result.params.length := by
  have hBound :
      bindText sampleSource (sampleParams "x")
          ⟨.dollar, .reject⟩ =
        .ok ⟨"a = $1 and b in ($2, $3) ",
          [.text "x", .text "x", .null]⟩ := by
    with_unfolding_all rfl
  have hResult :
      bindText sampleSource (sampleParams "x'; drop t; --")
          ⟨.dollar, .reject⟩ =
        .ok ⟨"a = $1 and b in ($2, $3) ",
          [.text "x'; drop t; --", .text "x'; drop t; --",
            .null]⟩ := by
    with_unfolding_all rfl
  have hSame :=
    bindText_sameShape (sampleParams_sameShape _ _) hBound
      hResult
  exact ⟨_, _, hBound, hResult, hSame⟩

end Sample

end SqlAccess
