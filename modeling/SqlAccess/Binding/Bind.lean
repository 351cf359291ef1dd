import SqlAccess.Binding.Marker
import SqlAccess.Binding.Param
import SqlAccess.Binding.Retain
import SqlAccess.Template.Basic

/-
  This file binds parameters to templates: markers take the
  place of values, which are handed over beside the
  statement.

  Key definitions include:
    * `Bound`
    * `SlotFault`
    * `Param.written`
    * `Param.accepted`
    * `Segment.bindAll`
    * `Template.bind`
-/

namespace SqlAccess

------------------------------------------------------------
-- Bound Statements
------------------------------------------------------------

/- A statement and the values of its markers. -/
structure Bound where
  query : String
  params : List Value

namespace Bound

/- A statement without values. -/
def ofQuery (query : String) : Bound :=
  ⟨query, []⟩

/- Equality of lists of values. -/
def sameValues : List Value → List Value → Bool
  | [], [] => true
  | v :: vs, w :: ws => v.same w && sameValues vs ws
  | _, _ => false

/- Whether two bound statements are equal. -/
def same (a b : Bound) : Bool :=
  a.query == b.query && sameValues a.params b.params

/- Text and values in front of a bound statement. -/
def cons
    (text : String)
    (values : List Value)
    (rest : Bound) : Bound :=
  ⟨text ++ rest.query, values ++ rest.params⟩

end Bound

------------------------------------------------------------
-- One Placeholder
------------------------------------------------------------

/- Why a placeholder does not take a parameter. -/
inductive SlotFault
  | taggedFragment (tag : TypeTag)
  | emptyList
  | cast (fault : CastFault)

/- A slot fault as a failure of a template at a site. -/
def SlotFault.toError
    (source : String)
    (site : BindingSite) : SlotFault → Error
  | taggedFragment tag =>
      .invalidParameter source site
        ("a clause fragment cannot carry type tag '!" ++
          String.singleton tag.letter ++ "'")
  | emptyList => .invalidParameter source site "empty list"
  | cast fault =>
      .binding source site (.cast fault.message)

namespace Param

/- Markers with commas between them, from a number on. -/
def markers
    (style : MarkerStyle)
    (first count : Nat) : String :=
  ", ".intercalate <|
    (List.range' first count).map style.marker

/-
  What a parameter becomes in the statement, where its first
  marker has the given number.  A list without values is a
  null.
-/
def written
    (style : MarkerStyle)
    (first : Nat) : Param → String
  | value _ => style.marker first
  | list [] => "NULL"
  | list items => markers style first items.length
  | fragment f => f.sql

/- One item of a list, cast as the tag asks. -/
def acceptedItem
    (tag : Option TypeTag)
    (item : Value) : Except SlotFault Value :=
  match tag with
  | none => .ok item
  | some tag => (tag.cast item).mapError .cast

/- A single value, cast as the tag asks. -/
def acceptedValue
    (tag : Option TypeTag)
    (v : Value) : Except SlotFault Value :=
  if tag = some .list then .error (.cast (.notAList v))
  else acceptedItem tag v

/- The values of the markers of a parameter. -/
def accepted
    (policy : EmptyList)
    (tag : Option TypeTag) :
    Param → Except SlotFault (List Value)
  | value v => do return [← acceptedValue tag v]
  | list [] =>
      match policy with
      | .reject => .error .emptyList
      | .alwaysFalse => .ok []
  | list items => items.mapM (acceptedItem tag)
  | fragment _ =>
      match tag with
      | some tag => .error (.taggedFragment tag)
      | none => .ok []

end Param

------------------------------------------------------------
-- All Segments
------------------------------------------------------------

/-
  How far a binding has come: the number of the next marker,
  the number of positional parameters used, and those left.
-/
structure BindState where
  marker : Nat
  slot : Nat
  queue : List Param

/- A parameter, what it is for, and what remains. -/
structure Chosen where
  param : Param
  site : BindingSite
  state : BindState

/- Choose the parameter of a placeholder. -/
def Placeholder.choose
    (source : String)
    (params : Params)
    (state : BindState)
    (placeholder : Placeholder) : Except Error Chosen :=
  match placeholder.key with
  | .named name =>
      match params.get? name with
      | some param => .ok ⟨param, .named name, state⟩
      | none =>
          .error (.binding source (.named name) .missing)
  | .positional _ =>
      let site := .positional state.slot
      match state.queue with
      | param :: queue =>
          let next :=
            { state with
              slot := state.slot + 1
              queue := queue }
          .ok ⟨param, site, next⟩
      | [] => .error (.binding source site .shortfall)

/- Bind the segments of a template from left to right. -/
def Segment.bindAll
    (dialect : Dialect)
    (source : String)
    (params : Params)
    (state : BindState) :
    List Segment → Except Error Bound
  | [] =>
      if state.queue.isEmpty then .ok (.ofQuery "")
      else
        let supplied := state.slot + state.queue.length
        .error <|
          .binding source (.count state.slot supplied)
            .surplus
  | .literal text :: rest => do
      let bound ← bindAll dialect source params state rest
      return bound.cons text []
  | .slot placeholder :: rest => do
      let chosen ← placeholder.choose source params state
      let values ←
        (chosen.param.accepted dialect.emptyList
          placeholder.tag).mapError
          (SlotFault.toError source chosen.site)
      let next :=
        { chosen.state with
          marker := state.marker + values.length }
      let bound ← bindAll dialect source params next rest
      return bound.cons
        (chosen.param.written dialect.style state.marker)
        values

/- Bind parameters to a template. -/
def Template.bind
    (template : Template)
    (params : Params)
    (dialect : Dialect) : Except Error Bound :=
  Segment.bindAll dialect template.source params
    ⟨1, 0, params.positional⟩
    (template.forest.segments params.contains)

/- Compile a text and bind parameters to it. -/
def bindText
    (source : String)
    (params : Params)
    (dialect : Dialect) : Except Error Bound := do
  let template ← Template.compile source
  template.bind params dialect

end SqlAccess
