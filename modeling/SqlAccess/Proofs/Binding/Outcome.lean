import SqlAccess.Proofs.Binding.Demand
import SqlAccess.Proofs.Template.Token

/-
  This file says exactly when parameters can be bound to a
  template, and how it fails otherwise: with the failure of
  the first placeholder that stays and fails, and with too
  many positional parameters only if none fails.

  Key definitions include:
    * `Demand.Chosen`
    * `Template.demands`
    * `Template.Bindable`

  Key theorems include:
    * `Segment.bindAll_slot_endsIn`
    * `Segment.bindAll_eq_error_iff`
    * `Template.bindable_iff`
    * `Template.bind_exact`
-/

namespace SqlAccess

------------------------------------------------------------
-- Binding
------------------------------------------------------------

section Binding

variable {dialect : Dialect} {source : String}
variable {params : Params}

/-
  Whether a placeholder is given what a demand asks for, and
  leaves a state behind.
-/
def Demand.Chosen
    (source : String)
    (params : Params)
    (state next : BindState)
    (demand : Demand) : Prop :=
  demand.placeholder.choose source params state =
    match demand.supplied with
    | some param => .ok ⟨param, demand.site, next⟩
    | none => .error (demand.lack source)

section Slot

variable {state next : BindState} {demand : Demand}
variable {rest : List Segment}

/- A placeholder whose demand fails ends the binding. -/
theorem Segment.bindAll_slot_error
    {e : Error}
    (hChosen : demand.Chosen source params state next)
    (hOutcome :
      demand.outcome source dialect.emptyList = .error e) :
    bindAll dialect source params state
        (.slot demand.placeholder :: rest) = .error e := by
  unfold Demand.Chosen at hChosen
  unfold Demand.outcome at hOutcome
  rw [bindAll, hChosen]
  cases hSupplied : demand.supplied with
  | none =>
      simp only [hSupplied] at hOutcome
      have hLack : demand.lack source = e :=
        Except.error.inj hOutcome
      exact Except.bind_eq_error_iff.2
        (.inl (congrArg Except.error hLack))
  | some param =>
      simp only [hSupplied] at hOutcome
      exact Except.bind_eq_error_iff.2 (.inr
        ⟨_, rfl,
          Except.bind_eq_error_iff.2 (.inl hOutcome)⟩)

/-
  A placeholder whose demand is met is written, and the
  binding goes on behind its markers.
-/
theorem Segment.bindAll_slot_ok
    {values : List Value}
    (hChosen : demand.Chosen source params state next)
    (hOutcome :
      demand.outcome source dialect.emptyList =
        .ok values) :
    ∃ text,
      bindAll dialect source params state
          (.slot demand.placeholder :: rest) =
        (bindAll dialect source params
          { next with
            marker := state.marker + values.length }
          rest).map fun bound =>
          bound.cons text values := by
  unfold Demand.Chosen at hChosen
  unfold Demand.outcome at hOutcome
  rw [bindAll, hChosen]
  cases hSupplied : demand.supplied with
  | none =>
      rw [hSupplied] at hOutcome
      cases hOutcome
  | some param =>
      simp only [hSupplied] at hOutcome
      refine
        ⟨param.written dialect.style state.marker, ?_⟩
      simp only [bind, Except.bind, hOutcome]
      cases bindAll dialect source params
          { next with
            marker := state.marker + values.length }
          rest with
      | error e => rfl
      | ok bound => rfl

end Slot

/- A name is looked up. -/
theorem Demand.chosen_named
    (state : BindState)
    (name : String)
    (tag : Option TypeTag)
    (around : List (List String)) :
    Chosen source params state state
      ⟨⟨.named name, tag⟩, around, .named name,
        params.get? name⟩ := by
  unfold Chosen Placeholder.choose
  cases hParam : params.get? name with
  | none =>
      simp only [hParam]
      rfl
  | some param => simp only [hParam]

/- A positional placeholder takes the next parameter. -/
theorem Demand.chosen_positional
    {state : BindState}
    (hQueue :
      state.queue = params.positional.drop state.slot)
    (index : Nat)
    (tag : Option TypeTag)
    (around : List (List String)) :
    Chosen source params state
      { state with
        slot := state.slot + 1
        queue := params.positional.drop (state.slot + 1) }
      ⟨⟨.positional index, tag⟩, around,
        .positional state.slot,
        params.positional[state.slot]?⟩ := by
  unfold Chosen Placeholder.choose
  cases hParam : params.positional[state.slot]? with
  | none =>
      have hLength := List.getElem?_eq_none_iff.1 hParam
      have hNil : state.queue = [] :=
        hQueue.trans (List.drop_eq_nil_of_le hLength)
      simp only [hNil]
      rfl
  | some param =>
      rcases List.getElem?_eq_some_iff.1 hParam with
        ⟨hLength, hGet⟩
      have hCons :
          state.queue =
            param ::
              params.positional.drop (state.slot + 1) := by
        rw [hQueue, List.drop_eq_getElem_cons hLength, hGet]
      simp only [hCons]

/- A placeholder is bound as its demand and the rest end. -/
theorem Segment.bindAll_slot_endsIn
    {supplied : Nat}
    {state next : BindState}
    {demand : Demand}
    {demands : List Demand}
    {rest : List Segment}
    {e : Error}
    (hChosen : demand.Chosen source params state next)
    (hNext :
      next.slot =
        if demand.isPositional then state.slot + 1
        else state.slot)
    (hRest :
      (∃ param, demand.supplied = some param) →
        ∀ marker,
          bindAll dialect source params
              { next with marker := marker } rest =
                .error e ↔
            Demand.EndsIn source dialect.emptyList supplied
              next.slot demands e) :
    bindAll dialect source params state
        (.slot demand.placeholder :: rest) = .error e ↔
      Demand.EndsIn source dialect.emptyList supplied
        state.slot (demand :: demands) e := by
  cases hOutcome :
      demand.outcome source dialect.emptyList with
  | error fault =>
      have hFails := Demand.outcome_eq_error_iff.1 hOutcome
      rw [Segment.bindAll_slot_error hChosen hOutcome,
        Demand.endsIn_cons_of_fails ⟨fault, hFails⟩,
        ← Demand.outcome_eq_error_iff, hOutcome,
        Except.error.injEq, Except.error.injEq]
  | ok values =>
      have hMet :
          ∀ fault,
            ¬ demand.Fails source dialect.emptyList
              fault := by
        intro fault hFails
        have hError := Demand.outcome_eq_error_iff.2 hFails
        rw [hOutcome] at hError
        cases hError
      rcases Demand.not_fails_iff.1 hMet with
        ⟨param, hParam, -⟩
      rcases Segment.bindAll_slot_ok hChosen hOutcome with
        ⟨text, hBound⟩
      rw [hBound, Except.map_eq_error_iff,
        Demand.endsIn_cons_of_not_fails hMet hNext]
      exact hRest ⟨param, hParam⟩ _

/- What is left over at the end are too many parameters. -/
theorem Segment.bindAll_nil_endsIn
    {state : BindState}
    {e : Error}
    (hQueue :
      state.queue = params.positional.drop state.slot)
    (hSlot : state.slot ≤ params.positional.length) :
    bindAll dialect source params state [] = .error e ↔
      Demand.EndsIn source dialect.emptyList
        params.positional.length state.slot [] e := by
  have hLength :
      state.slot + state.queue.length =
        params.positional.length := by
    rw [hQueue, List.length_drop]
    omega
  unfold bindAll
  by_cases hEmpty : state.queue.isEmpty = true
  · rw [if_pos hEmpty]
    rw [List.isEmpty_iff.1 hEmpty, List.length_nil,
      Nat.add_zero] at hLength
    constructor
    · intro hError
      cases hError
    · intro hEnd
      cases hEnd with
      | first hFirst =>
          exact absurd hFirst not_firstFault_nil
      | surplus _ hConsumed hMore =>
          rw [List.countP_nil] at hConsumed
          omega
  · rw [if_neg hEmpty]
    have hMore : state.slot < params.positional.length := by
      have hPositive :=
        List.length_pos_iff.2 (mt List.isEmpty_iff.2 hEmpty)
      omega
    rw [hLength]
    constructor
    · intro hError
      cases hError
      exact .surplus (by simp) (by simp) hMore
    · intro hEnd
      cases hEnd with
      | first hFirst =>
          exact absurd hFirst not_firstFault_nil
      | surplus _ hConsumed =>
          rw [List.countP_nil, Nat.add_zero] at hConsumed
          rw [hConsumed]

/-
  Pieces that stay are bound from a state on as their
  demands end.
-/
theorem Segment.bindAll_eq_error_iff
    {pieces : List Occurrence}
    {state : BindState}
    {e : Error}
    (hQueue :
      state.queue = params.positional.drop state.slot)
    (hSlot : state.slot ≤ params.positional.length) :
    bindAll dialect source params state
        (pieces.map Occurrence.segment) = .error e ↔
      Demand.EndsIn source dialect.emptyList
        params.positional.length state.slot
        (Demand.ofPieces params state.slot pieces) e := by
  induction pieces generalizing state with
  | nil => exact bindAll_nil_endsIn hQueue hSlot
  | cons piece rest ih =>
      rcases piece with ⟨segment, around⟩
      cases segment with
      | literal text =>
          have hLiteral :
              bindAll dialect source params state
                  (.literal text ::
                    rest.map Occurrence.segment) =
                (bindAll dialect source params state
                  (rest.map Occurrence.segment)).map
                  fun bound => bound.cons text [] := by
            rw [bindAll]
            cases bindAll dialect source params state
                (rest.map Occurrence.segment) with
            | error e => rfl
            | ok bound => rfl
          rw [List.map_cons, hLiteral,
            Except.map_eq_error_iff]
          exact ih hQueue hSlot
      | slot placeholder =>
          rcases placeholder with ⟨key, tag⟩
          cases key with
          | named name =>
              refine bindAll_slot_endsIn
                (Demand.chosen_named state name tag around)
                rfl ?_
              intro _ marker
              exact ih hQueue hSlot
          | positional index =>
              refine bindAll_slot_endsIn
                (Demand.chosen_positional hQueue index tag
                  around) rfl ?_
              intro hSupplied marker
              rcases hSupplied with ⟨param, hParam⟩
              rcases List.getElem?_eq_some_iff.1 hParam with
                ⟨hLength, -⟩
              exact ih rfl hLength

end Binding

------------------------------------------------------------
-- Templates
------------------------------------------------------------

namespace Template

/-
  The demands of the placeholders that stay, in the order of
  the text.
-/
def demands
    (template : Template)
    (params : Params) : List Demand :=
  Demand.ofPieces params 0
    (template.forest.occurrences.filter
      (Occurrence.isRetained params.contains))

/-
  Whether parameters can be bound: all names outside of all
  blocks are bound, there are as many positional parameters
  as positional placeholders that stay, and each placeholder
  that stays takes its parameter.
-/
structure Bindable
    (template : Template)
    (params : Params)
    (policy : EmptyList) : Prop where
  outside :
    ∀ occurrence ∈ template.forest.occurrences,
      occurrence.around = [] →
        ∀ name tag,
          occurrence.segment =
            .slot ⟨.named name, tag⟩ →
            params.contains name = true
  positional :
    (template.demands params).countP Demand.isPositional =
      params.positional.length
  accepted :
    ∀ demand ∈ template.demands params, ∀ param,
      demand.supplied = some param →
        param.Fits policy demand.placeholder.tag

section Exact

variable {template : Template} {params : Params}
variable {policy : EmptyList} {demand : Demand}

/- A name that stays is bound, unless it is in no block. -/
theorem supplied_or_outside
    {name : String}
    (hMem : demand ∈ template.demands params)
    (hKey : demand.placeholder.key = .named name) :
    demand.around = [] ∨
      ∃ param, demand.supplied = some param := by
  rcases Demand.exists_piece hMem with
    ⟨⟨piece, hPiece, hSlot, hAround⟩, hNamed⟩
  rcases List.mem_filter.1 hPiece with
    ⟨hOccurs, hRetained⟩
  have hName :
      Forest.nameOf? demand.placeholder = some name :=
    Forest.nameOf?_eq_some_iff.2 hKey
  rcases Forest.bound_of_retained hOccurs hRetained hSlot
      hName with hOutside | hBound
  · exact .inl (hAround ▸ hOutside)
  · right
    rw [(hNamed name hKey).2]
    exact Option.isSome_iff_exists.1 hBound

/- A demand that is short of a name stands in no block. -/
theorem around_eq_nil_of_missing
    {source text : String}
    {site : BindingSite}
    (hMem : demand ∈ template.demands params)
    (hFails :
      demand.Fails source policy
        (.binding text site .missing)) :
    demand.around = [] ∧
      ∃ name, demand.placeholder.key = .named name ∧
        site = .named name ∧
        params.contains name = false := by
  generalize hError :
    Error.binding text site .missing = e at hFails
  cases hFails with
  | @missing name hKey hNone =>
      cases hError
      rcases (Demand.exists_piece hMem).2 name hKey with
        ⟨hSite, hSupplied⟩
      refine ⟨?_, name, hKey, hSite, ?_⟩
      · rcases supplied_or_outside hMem hKey with
          hOutside | ⟨param, hParam⟩
        · exact hOutside
        · rw [hNone] at hParam
          cases hParam
      · rw [Params.contains, ← hSupplied, hNone]
        rfl
  | shortfall => cases hError
  | @refused param fault hParam hFault =>
      cases fault with
      | taggedFragment tag => cases hError
      | emptyList => cases hError
      | cast castFault => cases hError

/- Bindable parameters meet every demand. -/
theorem Bindable.met
    (hBindable : template.Bindable params policy)
    (hMem : demand ∈ template.demands params) :
    ∃ param, demand.supplied = some param ∧
      param.Fits policy demand.placeholder.tag := by
  have hSupplied :
      ∃ param, demand.supplied = some param := by
    cases hKey : demand.placeholder.key with
    | named name =>
        rcases supplied_or_outside hMem hKey with
          hOutside | hSome
        · rcases Demand.exists_piece hMem with
            ⟨⟨piece, hPiece, hSlot, hAround⟩,
              hNamed⟩
          have hOccurs := (List.mem_filter.1 hPiece).1
          rcases hPlaceholder : demand.placeholder with
            ⟨key, tag⟩
          rw [hPlaceholder] at hKey hSlot
          cases hKey
          have hBound :=
            hBindable.outside piece hOccurs
              (hAround.trans hOutside) name tag hSlot
          rw [(hNamed name (by rw [hPlaceholder])).2]
          exact Option.isSome_iff_exists.1 hBound
        · exact hSome
    | positional index =>
        rcases Demand.exists_place hMem hKey with
          ⟨place, hPlace, hSupplied⟩
        have hCount := hBindable.positional
        rw [demands] at hCount
        rw [hCount, Nat.zero_add] at hPlace
        exact ⟨_, hSupplied.trans
          (List.getElem?_eq_getElem hPlace)⟩
  rcases hSupplied with ⟨param, hParam⟩
  exact ⟨param, hParam,
    hBindable.accepted demand hMem param hParam⟩

/- Demands that are met by all parameters are bindable. -/
theorem bindable_iff :
    template.Bindable params policy ↔
      (∀ demand ∈ template.demands params,
        ∃ param, demand.supplied = some param ∧
          param.Fits policy demand.placeholder.tag) ∧
        params.positional.length ≤
          (template.demands params).countP
            Demand.isPositional := by
  constructor
  · intro hBindable
    refine ⟨?_, Nat.le_of_eq hBindable.positional.symm⟩
    intro demand hMem
    exact hBindable.met hMem
  · intro hMet
    rcases hMet with ⟨hMet, hCount⟩
    refine ⟨?_, ?_, ?_⟩
    · intro occurrence hOccurs hOutside name tag hSlot
      have hPiece :
          occurrence ∈
            template.forest.occurrences.filter
              (Occurrence.isRetained params.contains) := by
        rw [List.mem_filter, Occurrence.isRetained,
          hOutside]
        exact ⟨hOccurs, rfl⟩
      have hDemand :
          ∃ demand ∈ template.demands params,
            demand.placeholder = ⟨.named name, tag⟩ :=
        Demand.exists_demand hPiece hSlot
      rcases hDemand with ⟨demand, hMem, hPlaceholder⟩
      rcases hMet demand hMem with ⟨param, hParam, -⟩
      have hKey :
          demand.placeholder.key = .named name := by
        rw [hPlaceholder]
      have hNamed := (Demand.exists_piece hMem).2 name hKey
      rw [hNamed.2] at hParam
      rw [Params.contains, hParam]
      rfl
    · have hSupplied :
          ∀ demand ∈ template.demands params,
            ∃ param, demand.supplied = some param := by
        intro demand hMem
        rcases hMet demand hMem with ⟨param, hParam, -⟩
        exact ⟨param, hParam⟩
      have hAtMost :
          0 + (template.demands params).countP
              Demand.isPositional ≤
            params.positional.length :=
        Demand.count_le_of_supplied (Nat.zero_le _)
          hSupplied
      omega
    · intro demand hMem param hParam
      rcases hMet demand hMem with
        ⟨other, hOther, hFits⟩
      rw [hParam] at hOther
      cases hOther
      exact hFits

/- Binding fails as the demands of a template end. -/
theorem bind_eq_error_iff
    {dialect : Dialect}
    {e : Error} :
    template.bind params dialect = .error e ↔
      Demand.EndsIn template.source dialect.emptyList
        params.positional.length 0 (template.demands params)
        e := by
  rw [bind, Forest.segments_eq_retained]
  exact Segment.bindAll_eq_error_iff rfl (Nat.zero_le _)

/-
  Parameters can be bound if and only if no demand fails.
-/
theorem exists_bind_iff {dialect : Dialect} :
    (∃ bound,
      template.bind params dialect = .ok bound) ↔
      template.Bindable params dialect.emptyList := by
  rw [Except.exists_ok_iff, bindable_iff]
  simp only [ne_eq, bind_eq_error_iff]
  constructor
  · intro hNoEnd
    have hMet :
        ∀ demand ∈ template.demands params, ∀ e,
          ¬ demand.Fails template.source dialect.emptyList
            e := by
      intro demand hMem e hFails
      have hFirst :
          ∃ e,
            FirstFault
              (Demand.Fails template.source
                dialect.emptyList)
              (template.demands params) e :=
        exists_firstFault_iff.2
          ⟨demand, hMem, e, hFails⟩
      rcases hFirst with ⟨first, hFirst⟩
      exact hNoEnd first (.first hFirst)
    constructor
    · intro demand hMem
      exact Demand.not_fails_iff.1 (hMet demand hMem)
    · refine Nat.le_of_not_lt ?_
      intro hMore
      refine hNoEnd _ (.surplus hMet rfl ?_)
      omega
  · intro hMet e hEnd
    rcases hMet with ⟨hMet, hCount⟩
    cases hEnd with
    | first hFirst =>
        rcases exists_firstFault_iff.1 ⟨e, hFirst⟩ with
          ⟨demand, hMem, fault, hFails⟩
        exact Demand.not_fails_iff.2
          (hMet demand hMem) fault hFails
    | surplus _ hConsumed hMore => omega

/-
  Parameters can be bound to a template if and only if they
  are bindable.  Otherwise the failure is the one of the
  first placeholder that stays and fails, or that there are
  too many positional parameters if none fails.  A name that
  is missing is missing outside of all blocks, and every
  failure carries the text of the template.
-/
theorem bind_exact
    (template : Template)
    (params : Params)
    (dialect : Dialect) :
    ((∃ bound,
      template.bind params dialect = .ok bound) ↔
        template.Bindable params dialect.emptyList) ∧
      (∀ e,
        template.bind params dialect = .error e ↔
          Demand.EndsIn template.source dialect.emptyList
            params.positional.length 0
            (template.demands params) e) ∧
      (∀ text site,
        template.bind params dialect =
            .error (.binding text site .missing) →
          ∃ before demand after name,
            template.demands params =
                before ++ demand :: after ∧
              (∀ other ∈ before, ∀ e,
                ¬ other.Fails template.source
                  dialect.emptyList e) ∧
              demand.placeholder.key = .named name ∧
              site = .named name ∧
              params.contains name = false ∧
              demand.around = []) ∧
      (∀ e,
        template.bind params dialect = .error e →
          ∃ site,
            (∃ reason,
              e = .binding template.source site reason) ∨
              ∃ message,
                e =
                  .invalidParameter template.source site
                    message) := by
  refine ⟨exists_bind_iff, ?_, ?_, ?_⟩
  · intro e
    exact bind_eq_error_iff
  · intro text site hError
    generalize hMissing :
      Error.binding text site .missing = e at hError
    cases bind_eq_error_iff.1 hError with
    | first hFirst =>
        rcases hFirst with
          ⟨before, demand, after, hDemands, hBefore,
            hFails⟩
        subst hMissing
        have hMem : demand ∈ template.demands params := by
          rw [hDemands]
          simp
        rcases around_eq_nil_of_missing hMem hFails with
          ⟨hOutside, name, hKey, hSite, hUnbound⟩
        exact ⟨before, demand, after, name, hDemands,
          hBefore, hKey, hSite, hUnbound, hOutside⟩
    | surplus => cases hMissing
  · intro e hError
    cases bind_eq_error_iff.1 hError with
    | first hFirst =>
        rcases hFirst with ⟨_, demand, _, -, -, hFails⟩
        exact ⟨demand.site, hFails.source_site⟩
    | surplus => exact ⟨_, .inl ⟨_, rfl⟩⟩

end Exact

/-
  The first of three failures is the one that is reported.
-/
example :
    bindText "{:gone ?} ? :ids!i :gone"
        ⟨[("ids", .list [.int 1, .text "x"])], []⟩
        ⟨.dollar, .reject⟩ =
      .error
        (.binding "{:gone ?} ? :ids!i :gone" (.positional 0)
          .shortfall) := by
  with_unfolding_all rfl

end Template

end SqlAccess
