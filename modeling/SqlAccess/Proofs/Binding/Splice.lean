import SqlAccess.Proofs.Binding.Writing
import SqlAccess.Proofs.Clause.Whitelist

/-
  This file follows clauses into the statements that they
  are bound to.  What is written for a clause consists of
  listed expressions and keywords, and the rest of a
  statement is the template's own or stands for values.

  Key definitions include:
    * `Whitelist.ClauseItem`
    * `Whitelist.IsClause`
    * `Whitelist.Vetted`
    * `Params.Supplies`
    * `Atom.Trusted`

  Key theorems include:
    * `Whitelist.Vetted.isClause`
    * `Template.bind_trusted`
    * `Whitelist.clauses_stay_vetted`
-/

namespace SqlAccess

------------------------------------------------------------
-- Vetted Clauses
------------------------------------------------------------

namespace Whitelist

/-
  An item of a clause: an expression that is trusted, with
  the keyword of a direction or without one.
-/
inductive ClauseItem
    (trusted : String → Prop) : String → Prop
  | column {expression}
      (hTrusted : trusted expression) :
      ClauseItem trusted expression
  | sort {expression}
      (hTrusted : trusted expression)
      (direction : Direction) :
      ClauseItem trusted
        (expression ++ " " ++ direction.sql)

/- Whether a text consists of such items, with commas. -/
def IsClause
    (trusted : String → Prop)
    (text : String) : Prop :=
  ∃ items : List String,
    items ≠ [] ∧
      (∀ item ∈ items, ClauseItem trusted item) ∧
      text = ", ".intercalate items

/-
  Whether a part of a statement was built from a whitelist
  with no expressions but trusted ones.  The keys and the
  words for directions may be any.
-/
inductive Vetted
    (trusted : String → Prop)
    (f : Fragment) : Prop
  | orderBy {entries pairs}
      (hTrusted : ∀ entry ∈ entries, trusted entry.2)
      (hBuilt : (ofList entries).orderBy pairs = .ok f)
  | columns {entries keys}
      (hTrusted : ∀ entry ∈ entries, trusted entry.2)
      (hBuilt : (ofList entries).columns keys = .ok f)

variable {trusted : String → Prop}
variable {entries : List (String × String)}

/- What is listed for a key is an entry. -/
theorem Lists.mem
    {key expression : String}
    (hLists : Lists entries key expression) :
    (key, expression) ∈ entries := by
  rcases hLists with ⟨before, after, rfl, -⟩
  simp

/-
  The items of a clause are all of a kind if each one is.
-/
theorem isClause_of_forall₂
    {α : Type}
    {item : α → String → Prop}
    {chosen : List α}
    {items : List String}
    (hKind :
      ∀ choice text, item choice text →
        ClauseItem trusted text)
    (hSome : chosen ≠ [])
    (hItems : List.Forall₂ item chosen items) :
    IsClause trusted (", ".intercalate items) := by
  refine ⟨items, ?_, ?_, rfl⟩
  · rintro rfl
    exact hSome (List.forall₂_nil_right_iff.1 hItems)
  · clear hSome
    induction hItems with
    | nil => simp
    | cons hFirst _ ih =>
        exact List.forall_mem_cons.2
          ⟨hKind _ _ hFirst, ih⟩

/- What is built from a whitelist is a clause. -/
theorem Vetted.isClause
    {f : Fragment}
    (hVetted : Vetted trusted f) :
    IsClause trusted f.sql := by
  cases hVetted with
  | @orderBy entries pairs hTrusted hBuilt =>
      rcases ((orderBy_joins entries pairs).sql f).1
        hBuilt with
        ⟨hSome, items, hItems, hSql⟩
      rw [hSql]
      refine isClause_of_forall₂ ?_ hSome hItems
      rintro _ _ ⟨hKey, -⟩
      exact .sort (hTrusted _ hKey.mem) _
  | @columns entries keys hTrusted hBuilt =>
      rcases ((columns_joins entries keys).sql f).1
        hBuilt with
        ⟨hSome, items, hItems, hSql⟩
      rw [hSql]
      refine isClause_of_forall₂ ?_ hSome hItems
      intro key expression hKey
      exact .column (hTrusted _ hKey.mem)

end Whitelist

------------------------------------------------------------
-- Spliced Clauses
------------------------------------------------------------

/- Whether a part of a statement is among the parameters. -/
def Params.Supplies
    (params : Params)
    (f : Fragment) : Prop :=
  (∃ name, params.get? name = some (.fragment f)) ∨
    .fragment f ∈ params.positional

/-
  Whether what a statement is made of at a place is not for
  callers to choose, but for the values that they hand over:
  it is a marker, text of the template, a null or a comma of
  several values, or a clause.
-/
inductive Atom.Trusted
    (trusted : String → Prop)
    (template : Template) : Atom → Prop
  | marker (tag : Option TypeTag) (v : Value) :
      Atom.Trusted trusted template (.marker tag v)
  | literal {text}
      (hText : .literal text ∈ template.forest.flatten) :
      Atom.Trusted trusted template (.text text)
  | null : Atom.Trusted trusted template (.text "NULL")
  | comma : Atom.Trusted trusted template (.text ", ")
  | clause {text}
      (hText : Whitelist.IsClause trusted text) :
      Atom.Trusted trusted template (.text text)

section Splicing

variable {trusted : String → Prop}
variable {template : Template}
variable {params : Params} {dialect : Dialect}

/-
  Between the members of a list stands only what is put
  there.
-/
theorem eq_or_mem_of_mem_intersperse
    {α : Type}
    {separator other : α}
    {items : List α}
    (hOther : other ∈ items.intersperse separator) :
    other = separator ∨ other ∈ items := by
  induction items with
  | nil => exact .inr hOther
  | cons first rest ih =>
      cases rest with
      | nil => exact .inr hOther
      | cons second rest =>
          rw [List.intersperse_cons_cons, List.mem_cons,
            List.mem_cons] at hOther
          rcases hOther with rfl | rfl | hOther
          · exact .inr List.mem_cons_self
          · exact .inl rfl
          · exact (ih hOther).imp_right
              (List.mem_cons_of_mem first)

/-
  What takes the place of a parameter is trusted, if it is a
  clause where the parameter is a part of a statement.
-/
theorem Param.trusted_of_mem_atoms
    {tag : Option TypeTag}
    {param : Param}
    {atom : Atom}
    (hFragment :
      ∀ f, param = .fragment f →
        Whitelist.IsClause trusted f.sql)
    (hAtom : atom ∈ param.atoms tag) :
    atom.Trusted trusted template := by
  cases param with
  | value v =>
      rw [List.mem_singleton.1 hAtom]
      exact .marker tag v
  | list items =>
      cases items with
      | nil =>
          rw [List.mem_singleton.1 hAtom]
          exact .null
      | cons item items =>
          rcases eq_or_mem_of_mem_intersperse hAtom with
            rfl | hMarker
          · exact .comma
          · rcases List.mem_map.1 hMarker with
              ⟨v, -, rfl⟩
            exact .marker tag v
  | fragment f =>
      rw [List.mem_singleton.1 hAtom]
      exact .clause (hFragment f rfl)

/-
  A part of a statement in a slot is among the parameters.
-/
theorem Template.Filled.supplies
    {fillings : List Filling}
    {bound : Bound}
    {placeholder : Placeholder}
    {f : Fragment}
    (hFilled :
      template.Filled params dialect fillings bound)
    (hSlot : .slot placeholder (.fragment f) ∈ fillings) :
    params.Supplies f := by
  have hAllowed := hFilled.allowed placeholder _ hSlot
  rcases placeholder with ⟨key, tag⟩
  cases key with
  | named name =>
      exact .inl ⟨name, hAllowed.named name rfl⟩
  | positional index =>
      refine .inr ?_
      rw [← hFilled.positional]
      exact List.mem_filterMap.2 ⟨_, hSlot, rfl⟩

/-
  A statement that was filled in with vetted parts consists
  of what is trusted.
-/
theorem Template.Filled.trusted_of_mem
    {fillings : List Filling}
    {bound : Bound}
    {atom : Atom}
    (hFilled :
      template.Filled params dialect fillings bound)
    (hVetted :
      ∀ f, params.Supplies f →
        Whitelist.Vetted trusted f)
    (hAtom : atom ∈ fillings.flatMap Filling.atoms) :
    atom.Trusted trusted template := by
  rcases List.mem_flatMap.1 hAtom with
    ⟨filling, hMem, hAtom⟩
  cases filling with
  | literal text =>
      rw [List.mem_singleton.1 hAtom]
      have hPiece :
          Forest.Piece.literal text ∈
            (fillings.map Filling.segment).map
              Forest.Piece.ofSegment := by
        rw [List.map_map]
        exact List.mem_map_of_mem hMem
      exact .literal (hFilled.sourceOrder.subset hPiece)
  | slot placeholder param =>
      refine Param.trusted_of_mem_atoms ?_ hAtom
      rintro f rfl
      exact (hVetted f (hFilled.supplies hMem)).isClause

/-
  If the parts of statements among the parameters are
  vetted, the bound statement consists of what is trusted.
-/
theorem Template.bind_trusted
    {bound : Bound}
    (hBound : template.bind params dialect = .ok bound)
    (hVetted :
      ∀ f, params.Supplies f →
        Whitelist.Vetted trusted f) :
    ∃ fillings,
      template.Filled params dialect fillings bound ∧
      ∀ atom ∈ fillings.flatMap Filling.atoms,
        atom.Trusted trusted template := by
  rcases Segment.bindAll_writes hBound with
    ⟨fillings, hSegments, hAllowed, hQueue, hQuery,
      hValues⟩
  have hOrder :=
    template.forest.segments_sublist params.contains
  rw [← hSegments] at hOrder
  have hFilled :
      template.Filled params dialect fillings bound :=
    ⟨hSegments, hOrder, hAllowed, hQueue, hQuery,
      hValues⟩
  exact ⟨fillings, hFilled,
    fun atom hAtom =>
      hFilled.trusted_of_mem hVetted hAtom⟩

end Splicing

namespace Whitelist

/-
  Clauses are what was listed for the choices, joined;
  choices that agree give the same clause; and in a
  statement that a clause is bound to, nothing else comes
  from the choices.
-/
theorem clauses_stay_vetted
    (entries : List (String × String)) :
    (∀ pairs,
      Joins "order_by" (SortItem entries)
        (SortFault entries)
        pairs ((ofList entries).orderBy pairs)) ∧
    (∀ keys,
      Joins "columns" (Lists entries) (KeyFault entries)
        keys ((ofList entries).columns keys)) ∧
    (∀ others pairs otherPairs,
      List.Forall₂ (SamePair entries others)
          pairs otherPairs →
        ∀ f, (ofList entries).orderBy pairs = .ok f ↔
          (ofList others).orderBy otherPairs = .ok f) ∧
    (∀ others keys otherKeys,
      List.Forall₂ (SameKey entries others) keys
        otherKeys →
        ∀ f, (ofList entries).columns keys = .ok f ↔
          (ofList others).columns otherKeys = .ok f) ∧
    ∀ (trusted : String → Prop) (template : Template)
      (params : Params) (dialect : Dialect) (bound : Bound),
      template.bind params dialect = .ok bound →
      (∀ f, params.Supplies f → Vetted trusted f) →
        ∃ fillings,
          template.Filled params dialect fillings bound ∧
            ∀ atom ∈ fillings.flatMap Filling.atoms,
              atom.Trusted trusted template := by
  refine ⟨orderBy_joins entries, columns_joins entries,
    ?_, ?_, ?_⟩
  · intro others pairs otherPairs hSame
    exact orderBy_congr hSame
  · intro others keys otherKeys hSame
    exact columns_congr hSame
  · intro trusted template params dialect bound hBound
      hVetted
    exact Template.bind_trusted hBound hVetted

section Sample

/- Two whitelists that list the same under other keys. -/
def sortable : List (String × String) :=
  [("name", "u.name"), ("age", "u.age"),
    ("name", "lower(u.name)")]

def renamed : List (String × String) :=
  [("years", "u.age"), ("n", "lower(u.name)")]

/- A statement with a sort order in it. -/
def sortedSource : String :=
  "SELECT * FROM users u WHERE u.age > ? ORDER BY :order"

def sortedParams (f : Fragment) : Params :=
  ⟨[("order", .fragment f)], [.value (.text "1 OR 1")]⟩

/- Its one part of a statement is the sort order. -/
theorem eq_of_supplies
    {f g : Fragment}
    (hSupplies : (sortedParams f).Supplies g) : g = f := by
  rcases hSupplies with ⟨name, hName⟩ | hPositional
  · unfold sortedParams Params.get? at hName
    rw [List.lookup_cons] at hName
    by_cases hOrder : (name == "order") = true
    · rw [hOrder] at hName
      cases hName
      rfl
    · rw [Bool.eq_false_iff.2 hOrder] at hName
      cases hName
  · simp [sortedParams] at hPositional

/-
  Two whitelists that list the same expressions under other
  keys give the same clauses, and these are spliced into a
  statement as they are.
-/
theorem clauses_stay_vetted_sample :
    ∃ f g template bound,
      (ofList sortable).orderBy
          [("name", " DESC\n"), ("age", "Ascending")] =
            .ok f ∧
        (ofList renamed).orderBy
          [("n", "desc"), ("years", "asc")] = .ok f ∧
        (ofList sortable).columns ["name", "age"] =
          .ok g ∧
        (ofList renamed).columns ["n", "years"] = .ok g ∧
        Template.compile sortedSource = .ok template ∧
        template.bind (sortedParams f)
            ⟨.dollar, .reject⟩ =
          .ok bound ∧
        bound.query =
          "SELECT * FROM users u WHERE u.age > $1 ORDER BY " ++
            f.sql ∧
        f.sql = "lower(u.name) DESC, u.age ASC" ∧
        ∃ fillings,
          template.Filled (sortedParams f)
            ⟨.dollar, .reject⟩
              fillings bound ∧
            ∀ atom ∈ fillings.flatMap Filling.atoms,
              atom.Trusted
                (· ∈
                  ["u.name", "u.age", "lower(u.name)"])
                template := by
  rcases clauses_stay_vetted sortable with
    ⟨-, hColumns, hSameOrder, hSameColumns, hTrusted⟩
  have hName : SameKey sortable renamed "name" "n" := by
    intro expression
    simp only [← lookup_reverse_eq_some_iff]
    exact Iff.rfl
  have hAge : SameKey sortable renamed "age" "years" := by
    intro expression
    simp only [← lookup_reverse_eq_some_iff]
    exact Iff.rfl
  have hDescending :
      Direction.normalized " DESC\n" =
        Direction.normalized "desc" := by
    decide
  have hPairs :
      List.Forall₂ (SamePair sortable renamed)
        [("name", " DESC\n"), ("age", "Ascending")]
        [("n", "desc"), ("years", "asc")] := by
    refine .cons ⟨hName, ?_⟩ (.cons ⟨hAge, ?_⟩ .nil)
    · intro direction
      rw [Direction.named_iff, Direction.named_iff,
        hDescending]
    · intro direction
      simp only [Direction.named_iff]
      cases direction <;> decide
  have hWritten :
      ((ofList sortable).orderBy
          [("name", " DESC\n"), ("age", "Ascending")]).map
          Fragment.sql =
        .ok "lower(u.name) DESC, u.age ASC" := by
    with_unfolding_all rfl
  have hColumn :
      ∃ g, (ofList sortable).columns ["name", "age"] =
        .ok g := by
    refine (hColumns _).succeeds.2
      ⟨List.cons_ne_nil _ _,
        List.forall_mem_cons.2 ⟨?_, ?_⟩⟩
    · exact ⟨_, lookup_reverse_eq_some_iff.1 rfl⟩
    · exact List.forall_mem_singleton.2
        ⟨_, lookup_reverse_eq_some_iff.1 rfl⟩
  rcases Except.map_eq_ok_iff.1 hWritten with
    ⟨f, hOrder, hSql⟩
  rcases hColumn with ⟨g, hColumn⟩
  have hText :
      bindText sortedSource (sortedParams f)
          ⟨.dollar, .reject⟩ =
        .ok
          ⟨"SELECT * FROM users u WHERE u.age > $1 ORDER BY " ++
            (f.sql ++ ""),
          [.text "1 OR 1"]⟩ := by
    with_unfolding_all rfl
  rw [String.append_empty] at hText
  rcases Except.exists_of_bind hText with
    ⟨template, hTemplate, hBind⟩
  have hVetted :
      ∀ other, (sortedParams f).Supplies other →
        Vetted (· ∈ ["u.name", "u.age", "lower(u.name)"])
          other := by
    intro other hOther
    rw [eq_of_supplies hOther]
    exact .orderBy (by decide) hOrder
  exact ⟨f, g, template, _, hOrder,
    (hSameOrder _ _ _ hPairs f).1 hOrder, hColumn,
    (hSameColumns _ _ _ (.cons hName (.cons hAge .nil)) g).1
      hColumn,
    hTemplate, hBind, rfl, hSql,
    hTrusted _ _ _ _ _ hBind hVetted⟩

end Sample

end Whitelist

end SqlAccess
