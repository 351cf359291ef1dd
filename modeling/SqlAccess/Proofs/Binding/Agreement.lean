import SqlAccess.Proofs.Binding.Growth
import SqlAccess.Proofs.Binding.Outcome
import SqlAccess.Proofs.Binding.Writing
import SqlAccess.Proofs.Latest

/-
  This file shows what binding reads of the parameters: the
  positional ones, and what the names of the template are
  bound to, and nothing else.  None of these names is listed
  in vain, as each of them can change what comes of binding.

  Key definitions include:
    * `Params.AgreeOn`
    * `Supply`
    * `Params.take`
    * `Supply.AgreeOn`
    * `Params.nulls`
    * `Template.HangsOn`

  Key theorems include:
    * `Params.get?_insert`
    * `Params.agreeOn_takeAll`
    * `Segment.bindAll_congr`
    * `Template.bind_congr`
    * `Template.bindable_nulls`
    * `Template.mem_names_iff_hangsOn`
    * `Template.bind_hangs_on_names`
-/

namespace SqlAccess

------------------------------------------------------------
-- Agreement
------------------------------------------------------------

/-
  Whether parameters are the same as far as some names go:
  each of these is bound to the same in both or unbound in
  both, and the positional parameters are the same.
-/
structure Params.AgreeOn
    (known : String → Prop)
    (first second : Params) : Prop where
  named : ∀ name,
    known name → first.get? name = second.get? name
  positional : first.positional = second.positional

namespace Params

/-
  A binding is found under its own name, and hides no other
  one.
-/
theorem lookup_insertNamed
    (name other : String)
    (param : Param)
    (named : List (String × Param)) :
    (insertNamed name param named).lookup other =
      if other = name then some param
      else named.lookup other := by
  induction named with
  | nil => exact lookup_cons_eq_ite other name param []
  | cons entry rest ih =>
      rcases entry with ⟨first, old⟩
      rw [insertNamed]
      by_cases hFirst : first = name
      · rw [if_pos hFirst, lookup_cons_eq_ite,
          lookup_cons_eq_ite, hFirst]
        split <;> rfl
      · rw [if_neg hFirst, lookup_cons_eq_ite,
          lookup_cons_eq_ite, ih]
        by_cases hOther : other = first
        · simp [hOther, hFirst]
        · simp [hOther]

/-
  A name that is bound is bound to that, and no other is.
-/
@[simp] theorem get?_insert
    (params : Params)
    (name other : String)
    (param : Param) :
    (params.insert name param).get? other =
      if other = name then some param
      else params.get? other :=
  lookup_insertNamed name other param params.named

/-
  Parameters agree but for a name that is bound in addition.
-/
theorem agreeOn_insert
    (params : Params)
    (name : String)
    (param : Param) :
    AgreeOn (· ≠ name) params
      (params.insert name param) := by
  refine ⟨?_, rfl⟩
  intro other hOther
  rw [get?_insert, if_neg hOther]

end Params

------------------------------------------------------------
-- Supplies
------------------------------------------------------------

/-
  What is told about parameters at a time: what a name is to
  be bound to, if it is to be bound, or what the next
  positional parameter is.
-/
inductive Supply
  | named (name : String) (param : Option Param)
  | next (param : Param)

namespace Supply

/- A name that is bound to a parameter. -/
def binding (name : String) (param : Param) : Supply :=
  named name (some param)

/-
  The positional parameter that is supplied, if it is one.
-/
def next? : Supply → Option Param
  | named _ _ => none
  | next param => some param

/-
  Whether supplies come to the same as far as some names go:
  the latest binding of each of these is the same, and so
  are the positional parameters in their order.
-/
structure AgreeOn
    (known : String → Prop)
    (first second : List Supply) : Prop where
  named :
    ∀ name, known name → ∀ param,
      Latest (binding name) first param ↔
        Latest (binding name) second param
  positional :
    first.filterMap next? = second.filterMap next?

end Supply

namespace Params

/- Add what is supplied. -/
def take (params : Params) : Supply → Params
  | .named name param => params.insert? name param
  | .next param => params.push param

/- Add all that is supplied, one after the other. -/
def takeAll
    (params : Params)
    (supplies : List Supply) : Params :=
  supplies.foldl take params

section Taking

variable {params : Params} {name : String}
variable {supplies : List Supply}

theorem takeAll_snoc (supply : Supply) :
    params.takeAll (supplies ++ [supply]) =
      (params.takeAll supplies).take supply := by
  rw [takeAll, List.foldl_append]
  rfl

/- A name is bound to what was supplied for it last. -/
theorem get?_take_binding (param : Param) :
    (params.take (.binding name param)).get? name =
      some param := by
  rw [Supply.binding, take, insert?, get?_insert,
    if_pos rfl]

/- A name is left alone by what is no binding of it. -/
theorem get?_take_of_ne
    {supply : Supply}
    (hOther : ∀ param, supply ≠ .binding name param) :
    (params.take supply).get? name = params.get? name := by
  cases supply with
  | named other param =>
      cases param with
      | none => rfl
      | some param =>
          have hName : name ≠ other := by
            rintro rfl
            exact hOther param rfl
          rw [take, insert?, get?_insert, if_neg hName]
  | next param => rfl

/-
  A name is bound to what it was bound to last, or as it was
  at first if it was not bound since.
-/
theorem get?_takeAll_eq_some_iff {param : Param} :
    (params.takeAll supplies).get? name = some param ↔
      Latest (Supply.binding name) supplies param ∨
        (∀ other,
          ¬ Latest (Supply.binding name) supplies
            other) ∧
          params.get? name = some param := by
  induction supplies using List.reverseRecOn with
  | nil => simp [takeAll, not_latest_nil]
  | append_singleton supplies supply ih =>
      rw [takeAll_snoc]
      simp only [latest_snoc_iff]
      by_cases hHere : ∃ given,
        supply = .binding name given
      · rcases hHere with ⟨given, rfl⟩
        rw [get?_take_binding]
        simp [Supply.binding]
      · have hOther :
            ∀ given, supply ≠ .binding name given :=
          fun given hGiven => hHere ⟨given, hGiven⟩
        rw [get?_take_of_ne hOther, ih]
        simp [hOther]

/- The latest binding is what a name is found bound to. -/
theorem latest_binding_iff {param : Param} :
    Latest (Supply.binding name) supplies param ↔
      (empty.takeAll supplies).get? name = some param := by
  have hUnbound : empty.get? name = none := rfl
  simp [get?_takeAll_eq_some_iff, hUnbound]

/-
  Positional parameters stay in the order in which they were
  supplied.
-/
theorem positional_takeAll :
    (params.takeAll supplies).positional =
      params.positional ++
        supplies.filterMap Supply.next? := by
  induction supplies using List.reverseRecOn with
  | nil => simp [takeAll]
  | append_singleton supplies supply ih =>
      rw [takeAll_snoc, List.filterMap_append,
        ← List.append_assoc, ← ih]
      cases supply with
      | named other param =>
          cases param <;>
            simp [take, insert?, insert, Supply.next?]
      | next param => simp [take, push, Supply.next?]

/- Supplies that agree make parameters that agree. -/
theorem agreeOn_takeAll
    {known : String → Prop}
    {first second : List Supply}
    (params : Params)
    (hAgree : Supply.AgreeOn known first second) :
    AgreeOn known (params.takeAll first)
      (params.takeAll second) := by
  constructor
  · intro name hName
    refine Option.ext fun param => ?_
    simp only [get?_takeAll_eq_some_iff,
      hAgree.named name hName]
  · rw [positional_takeAll, positional_takeAll,
      hAgree.positional]

end Taking

end Params

------------------------------------------------------------
-- What Is Read
------------------------------------------------------------

section Reading

variable {first second : Params}
variable {source : String} {dialect : Dialect}

/- A placeholder reads what its own name is bound to. -/
theorem Placeholder.choose_congr
    {placeholder : Placeholder}
    (hNamed :
      ∀ name, Forest.nameOf? placeholder = some name →
        first.get? name = second.get? name)
    (state : BindState) :
    placeholder.choose source first state =
      placeholder.choose source second state := by
  rcases placeholder with ⟨key, tag⟩
  cases key with
  | named name =>
      have hName := hNamed name rfl
      simp only [choose, hName]
  | positional index => rfl

/- Pieces read what their own names are bound to. -/
theorem Segment.bindAll_congr
    {segments : List Segment}
    (hNamed :
      ∀ placeholder, .slot placeholder ∈ segments →
        ∀ name, Forest.nameOf? placeholder = some name →
          first.get? name = second.get? name)
    (state : BindState) :
    bindAll dialect source first state segments =
      bindAll dialect source second state segments := by
  induction segments generalizing state with
  | nil => rfl
  | cons segment rest ih =>
      have hRest :
          ∀ state,
            bindAll dialect source first state rest =
              bindAll dialect source second state rest :=
        ih fun placeholder hMem =>
          hNamed placeholder (List.mem_cons_of_mem _ hMem)
      cases segment with
      | literal text => rw [bindAll, bindAll, hRest]
      | slot placeholder =>
          have hHere :=
            hNamed placeholder List.mem_cons_self
          simp only [bindAll,
            Placeholder.choose_congr hHere, hRest]

/-
  The placeholders that stay are placeholders of the forest.
-/
theorem Forest.mem_placeholders_of_segment
    {bound : String → Bool}
    {forest : Forest}
    {placeholder : Placeholder}
    (hMem : .slot placeholder ∈ forest.segments bound) :
    placeholder ∈ forest.placeholders := by
  have hPiece : Piece.slot placeholder ∈ forest.flatten :=
    (segments_sublist bound forest).subset
      (List.mem_map_of_mem hMem)
  rw [placeholders_eq]
  exact List.mem_filterMap.2 ⟨_, hPiece, rfl⟩

/- A template reads what its names are bound to. -/
theorem Template.bind_congr
    {template : Template}
    (hAgree :
      Params.AgreeOn (· ∈ template.forest.names)
        first second)
    (dialect : Dialect) :
    template.bind first dialect =
      template.bind second dialect := by
  have hSame :
      ∀ name ∈ template.forest.names,
        first.contains name = second.contains name := by
    intro name hName
    rw [Params.contains, Params.contains,
      hAgree.named name hName]
  rw [bind, bind, hAgree.positional,
    Forest.segments_congr hSame]
  refine Segment.bindAll_congr ?_ _
  intro placeholder hMem name hName
  refine hAgree.named name (Forest.mem_names_iff.2 ?_)
  exact ⟨placeholder,
    Forest.mem_placeholders_of_segment hMem, hName⟩

end Reading

------------------------------------------------------------
-- What Can Be Bound
------------------------------------------------------------

/- The placeholder that a piece is, if it is one. -/
def Segment.placeholder? : Segment → Option Placeholder
  | literal _ => none
  | slot placeholder => some placeholder

/-
  Demands are made by the placeholders among some pieces.
-/
theorem Demand.placeholders_ofPieces
    (params : Params)
    (slot : Nat)
    (pieces : List Occurrence) :
    (ofPieces params slot pieces).map Demand.placeholder =
      (pieces.map Occurrence.segment).filterMap
        Segment.placeholder? := by
  fun_induction ofPieces params slot pieces with
  | case1 => rfl
  | case2 slot text around rest ih => exact ih
  | case3 slot name tag around rest ih =>
      exact congrArg
        (Placeholder.mk (.named name) tag :: ·) ih
  | case4 slot index tag around rest ih =>
      exact congrArg
        (Placeholder.mk (.positional index) tag :: ·) ih

/- Where all names are bound, every placeholder demands. -/
theorem Template.placeholders_demands
    {template : Template}
    {params : Params}
    (hAll :
      ∀ name ∈ template.forest.names,
        params.contains name = true) :
    (template.demands params).map Demand.placeholder =
      template.forest.placeholders := by
  have hPieces :
      ∀ piece : Forest.Piece,
        piece.segment?.bind Segment.placeholder? =
          piece.slot? := by
    rintro ⟨⟩ <;> rfl
  rw [demands, Demand.placeholders_ofPieces,
    ← Forest.segments_eq_retained,
    Forest.segments_of_all hAll, List.filterMap_filterMap,
    funext hPieces, ← Forest.placeholders_eq]

namespace Params

/-
  A list of one null for each of some names, and for a
  number of positional placeholders.
-/
def nulls (names : List String) (count : Nat) : Params :=
  ⟨names.map fun name => (name, .list [.null]),
    List.replicate count (.list [.null])⟩

/- All given names are bound to a list of one null. -/
theorem get?_nulls
    (names : List String)
    (count : Nat)
    (name : String) :
    (nulls names count).get? name =
      if name ∈ names then
        some (.list [.null])
      else
        none := by
  rw [get?, nulls]
  induction names with
  | nil => rfl
  | cons first rest ih =>
      rw [List.map_cons, lookup_cons_eq_ite, ih]
      by_cases hFirst : name = first
      · simp [hFirst]
      · simp [hFirst]

end Params

/- A list of one null is taken whatever the tag is. -/
theorem Param.fits_null
    (policy : EmptyList)
    (tag : Option TypeTag) :
    (Param.list [.null]).Fits policy tag := by
  refine .list (.inl (List.cons_ne_nil _ _)) ?_
  intro scalar _ _ item hItem
  rw [List.mem_singleton.1 hItem]
  exact ⟨.null, rfl⟩

namespace Template

/-
  There are parameters that can be bound to any template.
-/
theorem bindable_nulls
    (template : Template)
    (policy : EmptyList) :
    template.Bindable
      (.nulls template.forest.names
        template.forest.positionalCount) policy := by
  generalize hParams :
    Params.nulls template.forest.names
      template.forest.positionalCount = params
  have hNamed :
      ∀ name ∈ template.forest.names,
        params.get? name = some (.list [.null]) := by
    intro name hName
    rw [← hParams, Params.get?_nulls, if_pos hName]
  have hSlots :
      (template.demands params).map Demand.placeholder =
        template.forest.placeholders := by
    refine placeholders_demands ?_
    intro name hName
    rw [Params.contains, hNamed name hName]
    rfl
  have hCount :
      (template.demands params).countP Demand.isPositional =
        template.forest.positionalCount := by
    rw [Forest.positionalCount, ← hSlots, List.countP_map]
    rfl
  refine bindable_iff.2 ⟨?_, ?_⟩
  · intro demand hMem
    refine ⟨.list [.null], ?_, Param.fits_null _ _⟩
    cases hKey : demand.placeholder.key with
    | named name =>
        rw [((Demand.exists_piece hMem).2 name hKey).2]
        refine hNamed name (Forest.mem_names_iff.2 ?_)
        refine ⟨demand.placeholder, ?_,
          Forest.nameOf?_eq_some_iff.2 hKey⟩
        rw [← hSlots]
        exact List.mem_map_of_mem hMem
    | positional index =>
        rcases Demand.exists_place hMem hKey with
          ⟨place, hPlace, hSupplied⟩
        rw [Nat.zero_add] at hPlace
        rw [hSupplied, ← hParams, Params.nulls,
          List.getElem?_replicate,
          if_pos (hCount ▸ hPlace)]
  · refine Nat.le_of_eq ?_
    rw [hCount, ← hParams, Params.nulls,
      List.length_replicate]

/- No name of a template can be bound to a rejected list. -/
theorem not_bindable_of_empty
    {template : Template}
    {params : Params}
    {name : String}
    (hAll :
      ∀ other ∈ template.forest.names,
        params.contains other = true)
    (hName : name ∈ template.forest.names)
    (hEmpty : params.get? name = some (.list [])) :
    ¬ template.Bindable params .reject := by
  intro hBindable
  rcases Forest.mem_names_iff.1 hName with
    ⟨placeholder, hPlaceholder, hKey⟩
  rw [← placeholders_demands hAll] at hPlaceholder
  rcases List.mem_map.1 hPlaceholder with
    ⟨demand, hMem, rfl⟩
  have hNamed := Forest.nameOf?_eq_some_iff.1 hKey
  rcases hBindable.met hMem with ⟨param, hParam, hFits⟩
  rw [((Demand.exists_piece hMem).2 name hNamed).2,
    hEmpty] at hParam
  cases hParam
  cases hFits with
  | list hItems =>
      rcases hItems with hItems | hPolicy
      · exact hItems rfl
      · cases hPolicy

------------------------------------------------------------
-- What Is Not Read in Vain
------------------------------------------------------------

/-
  Whether what comes of a template hangs on a name: it comes
  out in two ways for parameters that agree but for the
  name.
-/
def HangsOn (template : Template) (name : String) : Prop :=
  ∃ dialect first second,
    Params.AgreeOn (· ≠ name) first second ∧
      template.bind first dialect ≠
        template.bind second dialect

/-
  A template hangs on each of its names, and on no other.
-/
theorem mem_names_iff_hangsOn
    {template : Template}
    {name : String} :
    name ∈ template.forest.names ↔
      template.HangsOn name := by
  constructor
  · intro hName
    have hBindable := template.bindable_nulls .reject
    generalize hParams :
      Params.nulls template.forest.names
        template.forest.positionalCount = params
          at hBindable
    have hAll :
        ∀ other ∈ template.forest.names,
          (params.insert name (.list [])).contains other =
            true := by
      intro other hOther
      rw [Params.contains, Params.get?_insert]
      split
      · rfl
      · rw [← hParams, Params.get?_nulls, if_pos hOther]
        rfl
    have hEmpty :
        (params.insert name (.list [])).get? name =
          some (.list []) := by
      rw [Params.get?_insert, if_pos rfl]
    refine ⟨⟨.dollar, .reject⟩, params,
      params.insert name (.list []),
      params.agreeOn_insert name _, ?_⟩
    intro hSame
    have hBound :
        ∃ bound,
          template.bind params ⟨.dollar, .reject⟩ =
            .ok bound :=
      exists_bind_iff.2 hBindable
    rw [hSame] at hBound
    exact not_bindable_of_empty hAll hName hEmpty
      (exists_bind_iff.1 hBound)
  · intro hHangs
    rcases hHangs with
      ⟨dialect, first, second, hAgree, hNot⟩
    by_contra hName
    refine hNot
      (bind_congr ⟨?_, hAgree.positional⟩ dialect)
    intro other hOther
    refine hAgree.named other ?_
    rintro rfl
    exact hName hOther

/- The names of a template are those in its text. -/
theorem names_of_compile
    {source : String}
    {template : Template}
    (hCompile : compile source = .ok template) :
    ∃ tokens, Token.ofText source.toList = .ok tokens ∧
      Firsts
        ((tokens.filterMap Token.placeholder?).filterMap
          Forest.nameOf?)
        template.forest.names := by
  rcases compile_eq_ok_iff.1 hCompile with
    ⟨-, tokens, hTokens, hScan, hForest⟩
  refine ⟨tokens, hTokens, ?_⟩
  rw [← Forest.placeholders_ofTokens hScan, hForest]
  exact firsts_eraseDups _

/-
  What comes of binding parameters to a template hangs on
  the positional ones and on the names in its text.
  Parameters that agree on these names come out alike, be it
  in a statement or in a failure; so what other names are
  bound to does not matter, and of all that a name was bound
  to in turn, only the latest does.  Each of the names does
  matter for some parameters.
-/
theorem bind_hangs_on_names
    {source : String}
    {template : Template}
    (hCompile : compile source = .ok template) :
    (∃ tokens, Token.ofText source.toList = .ok tokens ∧
        Firsts
          ((tokens.filterMap Token.placeholder?).filterMap
            Forest.nameOf?)
          template.forest.names) ∧
      (∀ first second,
        Params.AgreeOn (· ∈ template.forest.names)
            first second →
          ∀ dialect,
            template.bind first dialect =
              template.bind second dialect) ∧
      (∀ (params : Params) (first second : List Supply),
        Supply.AgreeOn (· ∈ template.forest.names)
            first second →
          ∀ dialect,
            template.bind (params.takeAll first) dialect =
              template.bind (params.takeAll second)
                dialect) ∧
      ∀ name,
        name ∈ template.forest.names ↔
          template.HangsOn name := by
  refine ⟨names_of_compile hCompile, ?_, ?_, ?_⟩
  · intro first second hAgree dialect
    exact bind_congr hAgree dialect
  · intro params first second hAgree dialect
    exact bind_congr (params.agreeOn_takeAll hAgree) dialect
  · intro name
    exact mem_names_iff_hangsOn

section Sample

/- A template in which one name is two blocks deep. -/
def nestedSource : String :=
  "a = :a and n < ? {and b = :b {and c in (:c)}}"

/- Names in one order, with two that do not matter. -/
def looseSupplies : List Supply :=
  [.named "b" (some (.list [.int 2, .null])),
    .named "a" (some (.value (.text "old"))),
    .next (.value (.int 9)),
    .named "extra" (some (.value (.bool true))),
    .named "a" (some (.value (.text "new"))),
    .named "c" none, .named "d" (some (.list []))]

/- The same names in another order. -/
def tightSupplies : List Supply :=
  [.named "a" (some (.value (.text "new"))),
    .named "b" (some (.list [.int 2, .null])),
    .next (.value (.int 9))]

/-
  Two supplies in different order, one of them with names
  that the template does not know, give the same statement.
-/
theorem bind_hangs_on_names_sample :
    ∃ template,
      compile nestedSource = .ok template ∧
        template.forest.names = ["a", "b", "c"] ∧
        (template.bind (Params.empty.takeAll looseSupplies)
            ⟨.dollar, .reject⟩ =
          .ok ⟨"a = $1 and n < $2 and b = $3, $4 ",
            [.text "new", .int 9, .int 2, .null]⟩) ∧
        template.bind (Params.empty.takeAll looseSupplies)
            ⟨.dollar, .reject⟩ =
          template.bind (Params.empty.takeAll tightSupplies)
            ⟨.dollar, .reject⟩ ∧
        template.HangsOn "c" ∧
        ¬ template.HangsOn "extra" := by
  have hText :
      bindText nestedSource
          (Params.empty.takeAll looseSupplies)
          ⟨.dollar, .reject⟩ =
        .ok ⟨"a = $1 and n < $2 and b = $3, $4 ",
          [.text "new", .int 9, .int 2, .null]⟩ := by
    with_unfolding_all rfl
  rcases Except.exists_of_bind hText with
    ⟨template, hCompile, hBind⟩
  have hNames :
      template.forest.names = ["a", "b", "c"] := by
    have hForest :
        (compile nestedSource).map (·.forest.names) =
          .ok ["a", "b", "c"] := by
      decide +kernel
    rw [hCompile] at hForest
    exact Except.ok.inj hForest
  rcases bind_hangs_on_names hCompile with
    ⟨-, -, hSupplies, hHangs⟩
  have hAgree :
      Supply.AgreeOn (· ∈ template.forest.names)
        looseSupplies tightSupplies := by
    refine ⟨?_, rfl⟩
    intro name hName param
    rw [Params.latest_binding_iff,
      Params.latest_binding_iff]
    rw [hNames] at hName
    simp only [List.mem_cons, List.not_mem_nil,
      or_false] at hName
    rcases hName with rfl | rfl | rfl <;> exact Iff.rfl
  refine ⟨template, hCompile, hNames, hBind,
    hSupplies _ _ _ hAgree _, ?_, ?_⟩
  · rw [← hHangs, hNames]
    decide
  · rw [← hHangs, hNames]
    decide

end Sample

end Template

end SqlAccess
