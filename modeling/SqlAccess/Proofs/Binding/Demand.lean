import SqlAccess.Proofs.Binding.Fault
import SqlAccess.Proofs.Binding.Occurrence

/-
  This file says what the placeholders that stay ask for: a
  name for what it is bound to, and a positional placeholder
  for the parameter at its place.  What is asked for may be
  lacking, or it may be refused.

  Key definitions include:
    * `Demand`
    * `Demand.ofPieces`
    * `Demand.Fails`
    * `Demand.outcome`
    * `Demand.EndsIn`

  Key theorems include:
    * `Demand.outcome_eq_error_iff`
    * `Demand.not_fails_iff`
    * `Demand.exists_place`
    * `Demand.count_le_of_supplied`
-/

namespace SqlAccess

------------------------------------------------------------
-- Demands
------------------------------------------------------------

/-
  What a placeholder that stays asks for: the blocks that it
  stands in, what its failures are about, and the parameter
  that is supplied for it.
-/
structure Demand where
  placeholder : Placeholder
  around : List (List String)
  site : BindingSite
  supplied : Option Param

namespace Demand

/- Whether a demand is one for a positional parameter. -/
def isPositional (demand : Demand) : Bool :=
  (Forest.nameOf? demand.placeholder).isNone

/-
  The demands of pieces that stay.  A name asks for what it
  is bound to.  A positional placeholder asks for the
  parameter at the place that it has among those that stay;
  so many of them come before the pieces.
-/
def ofPieces
    (params : Params)
    (slot : Nat) : List Occurrence → List Demand
  | [] => []
  | ⟨.literal _, _⟩ :: rest => ofPieces params slot rest
  | ⟨.slot ⟨.named name, tag⟩, around⟩ :: rest =>
      ⟨⟨.named name, tag⟩, around, .named name,
          params.get? name⟩ ::
        ofPieces params slot rest
  | ⟨.slot ⟨.positional index, tag⟩, around⟩ ::
    rest =>
      ⟨⟨.positional index, tag⟩, around,
          .positional slot, params.positional[slot]?⟩ ::
        ofPieces params (slot + 1) rest

/-
  How a demand fails: nothing is supplied for it, or it does
  not take what is supplied.
-/
inductive Fails
    (source : String)
    (policy : EmptyList)
    (demand : Demand) : Error → Prop
  | missing {name}
      (hKey : demand.placeholder.key = .named name)
      (hNone : demand.supplied = none) :
      Fails source policy demand
        (.binding source demand.site .missing)
  | shortfall {index}
      (hKey : demand.placeholder.key = .positional index)
      (hNone : demand.supplied = none) :
      Fails source policy demand
        (.binding source demand.site .shortfall)
  | refused {param fault}
      (hParam : demand.supplied = some param)
      (hFault :
        param.Refused policy demand.placeholder.tag fault) :
      Fails source policy demand
        (fault.toError source demand.site)

/- The failure of a demand for which nothing is supplied. -/
def lack (source : String) (demand : Demand) : Error :=
  match demand.placeholder.key with
  | .named _ => .binding source demand.site .missing
  | .positional _ => .binding source demand.site .shortfall

/- What comes of a demand. -/
def outcome
    (source : String)
    (policy : EmptyList)
    (demand : Demand) : Except Error (List Value) :=
  match demand.supplied with
  | some param =>
      (param.accepted policy
        demand.placeholder.tag).mapError
        (SlotFault.toError source demand.site)
  | none => .error (demand.lack source)

section Outcome

variable {source : String} {policy : EmptyList}
variable {demand : Demand}

/-
  The outcome of a demand is an error exactly where the
  demand fails with it.
-/
theorem outcome_eq_error_iff {e : Error} :
    demand.outcome source policy = .error e ↔
      demand.Fails source policy e := by
  rcases demand with
    ⟨⟨key, tag⟩, around, site, supplied⟩
  cases supplied with
  | some param =>
      rw [outcome, Except.mapError_eq_error_iff]
      simp only [Param.accepted_eq_error_iff]
      constructor
      · intro hError
        rcases hError with ⟨fault, hFault, rfl⟩
        exact .refused rfl hFault
      · intro hFails
        cases hFails with
        | missing hKey hNone => cases hNone
        | shortfall hKey hNone => cases hNone
        | refused hParam hFault =>
            cases hParam
            exact ⟨_, hFault, rfl⟩
  | none =>
      cases key with
      | named name =>
          constructor
          · intro hError
            cases hError
            exact .missing rfl rfl
          · intro hFails
            cases hFails with
            | missing => rfl
            | shortfall hKey => cases hKey
            | refused hParam => cases hParam
      | positional index =>
          constructor
          · intro hError
            cases hError
            exact .shortfall rfl rfl
          · intro hFails
            cases hFails with
            | missing hKey => cases hKey
            | shortfall => rfl
            | refused hParam => cases hParam

/- A demand is met by a parameter that its place takes. -/
theorem not_fails_iff :
    (∀ e, ¬ demand.Fails source policy e) ↔
      ∃ param, demand.supplied = some param ∧
        param.Fits policy demand.placeholder.tag := by
  rcases demand with
    ⟨⟨key, tag⟩, around, site, supplied⟩
  constructor
  · intro hMet
    cases supplied with
    | some param =>
        refine ⟨param, rfl,
          Param.fits_of_not_refused ?_⟩
        intro fault hRefused
        exact hMet _ (.refused rfl hRefused)
    | none =>
        cases key with
        | named name =>
            exact absurd (.missing rfl rfl) (hMet _)
        | positional index =>
            exact absurd (.shortfall rfl rfl) (hMet _)
  · intro hMet e hFails
    rcases hMet with ⟨param, hParam, hFits⟩
    cases hFails with
    | missing _ hNone =>
        rw [hParam] at hNone
        cases hNone
    | shortfall _ hNone =>
        rw [hParam] at hNone
        cases hNone
    | refused hOther hRefused =>
        rw [hParam] at hOther
        cases hOther
        exact hFits.not_refused hRefused

/- Every failure names the template and the demand. -/
theorem Fails.source_site
    {e : Error}
    (hFails : demand.Fails source policy e) :
    (∃ reason, e = .binding source demand.site reason) ∨
      ∃ message,
        e =
          .invalidParameter source demand.site message := by
  cases hFails with
  | missing => exact .inl ⟨_, rfl⟩
  | shortfall => exact .inl ⟨_, rfl⟩
  | @refused param fault hParam hFault =>
      cases fault with
      | taggedFragment tag => exact .inr ⟨_, rfl⟩
      | emptyList => exact .inr ⟨_, rfl⟩
      | cast castFault => exact .inl ⟨_, rfl⟩

end Outcome

section Pieces

variable {params : Params} {slot : Nat}
variable {pieces : List Occurrence}

/-
  Each demand is one of a placeholder that stays, at its
  place, and a name asks for what it is bound to.
-/
theorem exists_piece
    {demand : Demand}
    (hMem : demand ∈ ofPieces params slot pieces) :
    (∃ piece ∈ pieces,
      piece.segment = .slot demand.placeholder ∧
        piece.around = demand.around) ∧
      ∀ name, demand.placeholder.key = .named name →
        demand.site = .named name ∧
          demand.supplied = params.get? name := by
  fun_induction ofPieces params slot pieces with
  | case1 => exact absurd hMem List.not_mem_nil
  | case2 slot text around rest ih =>
      rcases ih hMem with
        ⟨⟨piece, hPiece, hStands⟩, hNamed⟩
      exact
        ⟨⟨piece, List.mem_cons_of_mem _ hPiece,
          hStands⟩,
        hNamed⟩
  | case3 slot name tag around rest ih =>
      rcases List.mem_cons.1 hMem with rfl | hMem
      · refine
          ⟨⟨_, List.mem_cons_self, rfl, rfl⟩, ?_⟩
        intro other hKey
        cases hKey
        exact ⟨rfl, rfl⟩
      · rcases ih hMem with
          ⟨⟨piece, hPiece, hStands⟩, hNamed⟩
        exact
          ⟨⟨piece, List.mem_cons_of_mem _ hPiece,
            hStands⟩,
            hNamed⟩
  | case4 slot index tag around rest ih =>
      rcases List.mem_cons.1 hMem with rfl | hMem
      · refine
          ⟨⟨_, List.mem_cons_self, rfl, rfl⟩, ?_⟩
        intro other hKey
        cases hKey
      · rcases ih hMem with
          ⟨⟨piece, hPiece, hStands⟩, hNamed⟩
        exact
          ⟨⟨piece, List.mem_cons_of_mem _ hPiece,
            hStands⟩,
            hNamed⟩

/- Each placeholder that stays makes a demand. -/
theorem exists_demand
    {piece : Occurrence}
    {placeholder : Placeholder}
    (hMem : piece ∈ pieces)
    (hSlot : piece.segment = .slot placeholder) :
    ∃ demand ∈ ofPieces params slot pieces,
      demand.placeholder = placeholder := by
  fun_induction ofPieces params slot pieces with
  | case1 => exact absurd hMem List.not_mem_nil
  | case2 slot text around rest ih =>
      rcases List.mem_cons.1 hMem with rfl | hMem
      · cases hSlot
      · exact ih hMem
  | case3 slot name tag around rest ih =>
      rcases List.mem_cons.1 hMem with rfl | hMem
      · cases hSlot
        exact ⟨_, List.mem_cons_self, rfl⟩
      · rcases ih hMem with
          ⟨demand, hDemand, hPlaceholder⟩
        exact ⟨demand, List.mem_cons_of_mem _ hDemand,
          hPlaceholder⟩
  | case4 slot index tag around rest ih =>
      rcases List.mem_cons.1 hMem with rfl | hMem
      · cases hSlot
        exact ⟨_, List.mem_cons_self, rfl⟩
      · rcases ih hMem with
          ⟨demand, hDemand, hPlaceholder⟩
        exact ⟨demand, List.mem_cons_of_mem _ hDemand,
          hPlaceholder⟩

/-
  Positional placeholders ask for parameters at places that
  are counted on.
-/
theorem exists_place
    {demand : Demand}
    {index : Nat}
    (hMem : demand ∈ ofPieces params slot pieces)
    (hKey : demand.placeholder.key = .positional index) :
    ∃ place,
      place <
          slot +
            (ofPieces params slot pieces).countP
              isPositional ∧
        demand.supplied = params.positional[place]? := by
  fun_induction ofPieces params slot pieces with
  | case1 => exact absurd hMem List.not_mem_nil
  | case2 slot text around rest ih => exact ih hMem
  | case3 slot name tag around rest ih =>
      rw [List.countP_cons_of_neg (by simp [isPositional,
        Forest.nameOf?])]
      rcases List.mem_cons.1 hMem with rfl | hMem
      · cases hKey
      · exact ih hMem
  | case4 slot index tag around rest ih =>
      rw [List.countP_cons_of_pos rfl]
      rcases List.mem_cons.1 hMem with rfl | hMem
      · exact ⟨slot, by omega, rfl⟩
      · rcases ih hMem with ⟨place, hPlace, hSupplied⟩
        exact ⟨place, by omega, hSupplied⟩

/-
  Where all demands are supplied, there are as many
  positional parameters as they use.
-/
theorem count_le_of_supplied
    (hSlot : slot ≤ params.positional.length)
    (hSupplied :
      ∀ demand ∈ ofPieces params slot pieces,
        ∃ param, demand.supplied = some param) :
    slot + (ofPieces params slot pieces).countP
        isPositional ≤
      params.positional.length := by
  fun_induction ofPieces params slot pieces with
  | case1 => simpa using hSlot
  | case2 slot text around rest ih =>
      exact ih hSlot hSupplied
  | case3 slot name tag around rest ih =>
      rw [List.countP_cons_of_neg (by simp [isPositional,
        Forest.nameOf?])]
      refine ih hSlot ?_
      intro demand hDemand
      exact hSupplied demand
        (List.mem_cons_of_mem _ hDemand)
  | case4 slot index tag around rest ih =>
      rw [List.countP_cons_of_pos rfl]
      rcases hSupplied _ List.mem_cons_self with
        ⟨param, hParam⟩
      rcases List.getElem?_eq_some_iff.1 hParam with
        ⟨hLength, -⟩
      have hRest := ih hLength (by
        intro demand hDemand
        exact hSupplied demand
          (List.mem_cons_of_mem _ hDemand))
      omega

end Pieces

/-
  The failure that demands end in, where so many positional
  parameters were used before: the one of the first demand
  that fails, and if none does, that there are more
  positional parameters than the demands use.
-/
inductive EndsIn
    (source : String)
    (policy : EmptyList)
    (supplied used : Nat)
    (demands : List Demand) : Error → Prop
  | first {e}
      (hFirst :
        FirstFault (Fails source policy) demands e) :
      EndsIn source policy supplied used demands e
  | surplus {consumed}
      (hMet :
        ∀ demand ∈ demands, ∀ e,
          ¬ demand.Fails source policy e)
      (hConsumed :
        consumed = used + demands.countP isPositional)
      (hMore : consumed < supplied) :
      EndsIn source policy supplied used demands
        (.binding source (.count consumed supplied)
          .surplus)

section EndsIn

variable {source : String} {policy : EmptyList}
variable {supplied used : Nat}
variable {demand : Demand} {rest : List Demand} {e : Error}

/-
  Demands end in the failure of their first one, if it
  fails.
-/
theorem endsIn_cons_of_fails
    (hFails : ∃ fault, demand.Fails source policy fault) :
    EndsIn source policy supplied used
        (demand :: rest) e ↔
      demand.Fails source policy e := by
  constructor
  · intro hEnd
    cases hEnd with
    | first hFirst =>
        exact (firstFault_cons_of_fails hFails).1 hFirst
    | surplus hMet =>
        rcases hFails with ⟨fault, hFault⟩
        exact absurd hFault
          (hMet demand List.mem_cons_self fault)
  · intro hFault
    exact .first
      ((firstFault_cons_of_fails hFails).2 hFault)

/-
  A first demand that is met leaves the end to the others.
  It may have used a positional parameter.
-/
theorem endsIn_cons_of_not_fails
    {next : Nat}
    (hMet : ∀ fault, ¬ demand.Fails source policy fault)
    (hNext :
      next = if demand.isPositional then used + 1
        else used) :
    EndsIn source policy supplied used
        (demand :: rest) e ↔
      EndsIn source policy supplied next rest e := by
  have hCount :
      used + (demand :: rest).countP isPositional =
        next + rest.countP isPositional := by
    rw [List.countP_cons, hNext]
    split
    · omega
    · omega
  constructor
  · intro hEnd
    cases hEnd with
    | first hFirst =>
        exact .first
          ((firstFault_cons_of_not_fails hMet).1 hFirst)
    | surplus hAll hConsumed hMore =>
        refine .surplus ?_ (hConsumed.trans hCount) hMore
        intro other hOther
        exact hAll other (List.mem_cons_of_mem _ hOther)
  · intro hEnd
    cases hEnd with
    | first hFirst =>
        exact .first
          ((firstFault_cons_of_not_fails hMet).2 hFirst)
    | surplus hAll hConsumed hMore =>
        refine .surplus ?_
          (hConsumed.trans hCount.symm) hMore
        intro other hOther
        rcases List.mem_cons.1 hOther with rfl | hOther
        · exact hMet
        · exact hAll other hOther

end EndsIn

end Demand

end SqlAccess
