import SqlAccess.Clause
import SqlAccess.Proofs.FirstFault
import SqlAccess.Proofs.Latest
import SqlAccess.Proofs.Text.Blank

/-
  This file says which sort orders and column lists are
  built from a whitelist.  Every choice has to be listed,
  and every word for a direction has to be known; what is
  built then has nothing in it but the listed expressions
  and the keywords.

  Key definitions include:
    * `Direction.Named`
    * `Whitelist.Lists`
    * `Whitelist.SortItem`
    * `Whitelist.SortFault`
    * `Whitelist.Joins`
    * `Whitelist.SameKey`
    * `Whitelist.SamePair`

  Key theorems include:
    * `Direction.named_iff`
    * `Whitelist.expression?_ofList_eq_ok_iff`
    * `Whitelist.orderBy_joins`
    * `Whitelist.columns_joins`
    * `Whitelist.orderBy_congr`
    * `Whitelist.columns_congr`
-/

namespace SqlAccess

------------------------------------------------------------
-- Directions
------------------------------------------------------------

namespace Direction

/- The words for a direction. -/
def words : Direction → List String
  | ascending => ["asc", "ascending"]
  | descending => ["desc", "descending"]

/-
  Whether a text names a direction: it is one of the words
  for it, in letters of either case and with white space
  around it.
-/
def Named (text : String) (direction : Direction) : Prop :=
  ∃ front word back : List Char,
    text.toList = front ++ word ++ back ∧
      Blank.IsSpace front ∧ Blank.IsSpace back ∧
      String.ofList (word.map Char.toLower) ∈
        direction.words

/- White space has no case. -/
theorem toLower_of_isBlank
    {c : Char}
    (hBlank : Blank.isBlank c = true) : c.toLower = c := by
  have hNotUpper :
      ¬ (65 ≤ c.toNat ∧ c.toNat ≤ 90) := by
    simp [Blank.isBlank, Blank.ranges] at hBlank
    omega
  refine dif_neg ?_
  rintro ⟨hLow, hHigh⟩
  exact hNotUpper ⟨UInt32.le_iff_toNat_le.1 hLow,
    UInt32.le_iff_toNat_le.1 hHigh⟩

/- No word for a direction has white space in it. -/
theorem bare_of_mem_words
    {word : List Char}
    {direction : Direction}
    (hWord :
      String.ofList (word.map Char.toLower) ∈
        direction.words) :
    Blank.Bare word := by
  have hWords :
      ∀ other ∈ direction.words,
        other.toList.any Blank.isBlank = false := by
    cases direction <;> decide
  have hNone :
      (word.map Char.toLower).any Blank.isBlank =
        false := by
    have hNot := hWords _ hWord
    rwa [String.toList_ofList] at hNot
  have hChars :
      ∀ c ∈ word, Blank.isBlank c = false := by
    intro c hMem
    rw [Bool.eq_false_iff]
    intro hBlank
    have hLetter : c ∈ word.map Char.toLower := by
      rw [← toLower_of_isBlank hBlank]
      exact List.mem_map_of_mem hMem
    exact List.any_eq_false.1 hNone c hLetter hBlank
  exact
    ⟨fun c hFirst =>
      hChars c (List.mem_of_mem_head? hFirst),
        fun c hLast =>
          hChars c (List.mem_of_mem_getLast? hLast)⟩

/-
  A text names a direction by one of its words, whatever
  their case and the blanks around them.
-/
theorem named_iff {text : String} {direction : Direction} :
    Named text direction ↔
      normalized text ∈ direction.words := by
  constructor
  · intro hNamed
    rcases hNamed with
      ⟨front, word, back, hText, hFront, hBack, hWord⟩
    have hTrim : Blank.trim text.toList = word :=
      Blank.trim_eq_iff.2
        ⟨bare_of_mem_words hWord, front, back, hText,
          hFront, hBack⟩
    rwa [normalized, hTrim]
  · intro hWord
    rcases (Blank.trim_eq_iff.1 rfl).2 with
      ⟨front, back, hText, hFront, hBack⟩
    exact ⟨front, _, back, hText, hFront, hBack, hWord⟩

/- A word is looked for among those of each direction. -/
theorem ofText?_eq (text : String) :
    ofText? text =
      if normalized text ∈ ascending.words then
        .ok ascending
      else if normalized text ∈ descending.words then
        .ok descending
      else .error (.unknownDirection (normalized text)) :=
  rfl

/- No word is for both directions. -/
theorem not_mem_words_descending
    {word : String}
    (hWord : word ∈ ascending.words) :
    word ∉ descending.words := by
  revert word
  decide

/- A direction is read from a text that names it. -/
theorem ofText?_eq_ok_iff
    {text : String} {direction : Direction} :
    ofText? text = .ok direction ↔
      Named text direction := by
  rw [named_iff, ofText?_eq]
  by_cases hAscending : normalized text ∈ ascending.words
  · have hNot := not_mem_words_descending hAscending
    cases direction <;> simp [hAscending, hNot]
  · by_cases hDescending :
        normalized text ∈ descending.words
    · cases direction <;> simp [hAscending, hDescending]
    · cases direction <;> simp [hAscending, hDescending]

/- A text that names no direction is the fault. -/
theorem ofText?_eq_error_iff
    {text : String} {fault : ClauseFault} :
    ofText? text = .error fault ↔
      (∀ direction, ¬ Named text direction) ∧
        fault = .unknownDirection (normalized text) := by
  have hBoth :
      (∀ direction, ¬ Named text direction) ↔
        normalized text ∉ ascending.words ∧
          normalized text ∉ descending.words := by
    simp only [named_iff]
    constructor
    · exact fun hNone =>
        ⟨hNone ascending, hNone descending⟩
    · rintro ⟨hAscending, hDescending⟩ direction
      cases direction
      · exact hAscending
      · exact hDescending
  rw [hBoth, ofText?_eq]
  by_cases hAscending : normalized text ∈ ascending.words
  · simp [hAscending]
  · by_cases hDescending :
        normalized text ∈ descending.words
    · simp [hAscending, hDescending]
    · simp [hAscending, hDescending, eq_comm]

end Direction

------------------------------------------------------------
-- Keys
------------------------------------------------------------

namespace Whitelist

/-
  Whether the last expression that entries list for a key is
  the given one.
-/
def Lists
    (entries : List (String × String))
    (key expression : String) : Prop :=
  Latest (Prod.mk key) entries expression

section Keys

variable {entries : List (String × String)}
variable {key expression : String} {fault : ClauseFault}

/-
  The entry that is found from the end is the latest one for
  a key, so the induction goes from the end as well.
-/
theorem lookup_reverse_eq_some_iff :
    entries.reverse.lookup key = some expression ↔
      Lists entries key expression := by
  unfold Lists
  induction entries using List.reverseRecOn with
  | nil => simp [not_latest_nil]
  | append_singleton entries entry ih =>
      rcases entry with ⟨other, listed⟩
      rw [latest_snoc_iff, ← ih, List.reverse_append,
        List.reverse_singleton, List.singleton_append,
        lookup_cons_eq_ite]
      by_cases hKey : key = other
      · simp [hKey]
      · simp [hKey, Ne.symm hKey]

/-
  A key stands for the last expression that is listed for
  it.
-/
theorem expression?_ofList_eq_ok_iff :
    (ofList entries).expression? key = .ok expression ↔
      Lists entries key expression := by
  rw [← lookup_reverse_eq_some_iff]
  unfold expression? ofList
  cases entries.reverse.lookup key <;> simp

/- A key for which nothing is listed is the fault. -/
theorem expression?_ofList_eq_error_iff :
    (ofList entries).expression? key = .error fault ↔
      (∀ listed, ¬ Lists entries key listed) ∧
        fault = .unknownKey key := by
  simp only [← lookup_reverse_eq_some_iff]
  unfold expression? ofList
  cases entries.reverse.lookup key <;> simp [eq_comm]

end Keys

------------------------------------------------------------
-- Items
------------------------------------------------------------

/-
  What a key and a word for a direction contribute to a sort
  order: the expression of the key and the keyword of the
  direction.
-/
inductive SortItem
    (entries : List (String × String)) :
    String × String → String → Prop
  | item {key word expression direction}
      (hKey : Lists entries key expression)
      (hWord : Direction.Named word direction) :
      SortItem entries (key, word)
        (expression ++ " " ++ direction.sql)

/-
  Why a key and a word for a direction are refused.  The key
  is judged first.
-/
inductive SortFault
    (entries : List (String × String)) :
    String × String → ClauseFault → Prop
  | key {key word}
      (hKey :
        ∀ expression, ¬ Lists entries key expression) :
      SortFault entries (key, word) (.unknownKey key)
  | direction {key word expression}
      (hKey : Lists entries key expression)
      (hWord :
        ∀ direction, ¬ Direction.Named word direction) :
      SortFault entries (key, word)
        (.unknownDirection (Direction.normalized word))

/- Why a key is refused. -/
inductive KeyFault
    (entries : List (String × String)) :
    String → ClauseFault → Prop
  | key {key}
      (hKey :
        ∀ expression, ¬ Lists entries key expression) :
      KeyFault entries key (.unknownKey key)

section Items

variable {entries : List (String × String)}
variable {key word item : String} {fault : ClauseFault}

/- A pair is written as its expression and its direction. -/
theorem sortItem_eq_ok_iff :
    (ofList entries).sortItem key word = .ok item ↔
      SortItem entries (key, word) item := by
  constructor
  · intro hItem
    rcases Except.exists_of_bind hItem with
      ⟨expression, hKey, hItem⟩
    rcases Except.exists_of_bind hItem with
      ⟨direction, hWord, hItem⟩
    cases hItem
    exact .item (expression?_ofList_eq_ok_iff.1 hKey)
      (Direction.ofText?_eq_ok_iff.1 hWord)
  · intro hItem
    cases hItem with
    | item hKey hWord =>
        rw [sortItem, expression?_ofList_eq_ok_iff.2 hKey,
          Direction.ofText?_eq_ok_iff.2 hWord]
        rfl

/-
  A pair is at fault by its key, or else by its direction.
-/
theorem sortItem_eq_error_iff :
    (ofList entries).sortItem key word = .error fault ↔
      SortFault entries (key, word) fault := by
  rw [sortItem, Except.bind_eq_error_iff]
  simp only [Except.bind_eq_error_iff,
    expression?_ofList_eq_error_iff,
    expression?_ofList_eq_ok_iff,
    Direction.ofText?_eq_error_iff]
  constructor
  · intro hFault
    rcases hFault with
      ⟨hKey, rfl⟩ | ⟨expression, hKey, hFault⟩
    · exact .key hKey
    · rcases hFault with
        ⟨hWord, rfl⟩ | ⟨_, -, hFault⟩
      · exact .direction hKey hWord
      · cases hFault
  · intro hFault
    cases hFault with
    | key hKey => exact .inl ⟨hKey, rfl⟩
    | direction hKey hWord =>
        exact .inr ⟨_, hKey, .inl ⟨hWord, rfl⟩⟩

/- A key is at fault if no expression is listed for it. -/
theorem keyFault_iff :
    KeyFault entries key fault ↔
      (∀ expression, ¬ Lists entries key expression) ∧
        fault = .unknownKey key := by
  constructor
  · intro hFault
    cases hFault with
    | key hKey => exact ⟨hKey, rfl⟩
  · rintro ⟨hKey, rfl⟩
    exact .key hKey

end Items

------------------------------------------------------------
-- Clauses
------------------------------------------------------------

/- Items are joined if there are any. -/
theorem joined_eq_ok_iff
    {clause : String}
    {items : List String}
    {f : Fragment} :
    joined clause items = .ok f ↔
      items ≠ [] ∧ f.sql = ", ".intercalate items := by
  cases items with
  | nil => simp [joined]
  | cons first rest =>
      cases f
      simp [joined, eq_comm]

/- Without items there is no clause. -/
theorem joined_eq_error_iff
    {clause : String}
    {items : List String}
    {fault : ClauseFault} :
    joined clause items = .error fault ↔
      items = [] ∧ fault = .noKeys clause := by
  cases items with
  | nil => simp [joined, eq_comm]
  | cons first rest => simp [joined]

/-
  When choices come out as a clause.  There has to be one,
  and each of them has to contribute an item; the clause is
  these items, in order, with commas between them.
  Otherwise what is at fault is that there is none, or it is
  the first one with a fault.
-/
structure Joins
    {α : Type}
    (clause : String)
    (item : α → String → Prop)
    (fault : α → ClauseFault → Prop)
    (chosen : List α)
    (result : Except ClauseFault Fragment) : Prop where
  succeeds :
    (∃ f, result = .ok f) ↔
      chosen ≠ [] ∧ ∀ choice ∈ chosen, ∃ text,
        item choice text
  sql :
    ∀ f, result = .ok f ↔
      chosen ≠ [] ∧ ∃ items,
        List.Forall₂ item chosen items ∧
        f.sql = ", ".intercalate items
  fails :
    ∀ e, result = .error e ↔
      chosen = [] ∧ e = .noKeys clause ∨
        FirstFault fault chosen e

section Clauses

variable {α : Type} {f : α → Except ClauseFault String}
variable {chosen : List α} {clause : String}

/-
  A clause is made if there are choices and each one has an
  item.
-/
theorem joined_mapM_eq_ok_iff {fragment : Fragment} :
    (do joined clause (← chosen.mapM f)) =
        .ok fragment ↔
      chosen ≠ [] ∧ ∃ items,
        List.Forall₂
          (fun choice text => f choice = .ok text)
          chosen items ∧
          fragment.sql = ", ".intercalate items := by
  constructor
  · intro hClause
    rcases Except.exists_of_bind hClause with
      ⟨items, hItems, hJoined⟩
    have hEach := Except.mapM_eq_ok_iff.1 hItems
    rcases joined_eq_ok_iff.1 hJoined with ⟨hSome, hSql⟩
    refine ⟨?_, items, hEach, hSql⟩
    rintro rfl
    exact hSome (List.forall₂_nil_left_iff.1 hEach)
  · rintro ⟨hSome, items, hEach, hSql⟩
    rw [Except.mapM_eq_ok_iff.2 hEach]
    refine joined_eq_ok_iff.2 ⟨?_, hSql⟩
    rintro rfl
    exact hSome (List.forall₂_nil_right_iff.1 hEach)

/-
  A clause fails without choices, or with the fault of the
  first choice that has one.
-/
theorem joined_mapM_eq_error_iff {e : ClauseFault} :
    (do joined clause (← chosen.mapM f)) = .error e ↔
      chosen = [] ∧ e = .noKeys clause ∨
        FirstFault
          (fun choice fault => f choice = .error fault)
          chosen e := by
  rw [Except.bind_eq_error_iff, Except.mapM_eq_error_iff,
    or_comm]
  refine or_congr_left ?_
  constructor
  · rintro ⟨items, hItems, hJoined⟩
    rcases joined_eq_error_iff.1 hJoined with
      ⟨rfl, hFault⟩
    exact ⟨List.forall₂_nil_right_iff.1
      (Except.mapM_eq_ok_iff.1 hItems), hFault⟩
  · rintro ⟨rfl, hFault⟩
    exact ⟨[], rfl,
      joined_eq_error_iff.2 ⟨rfl, hFault⟩⟩

/-
  A clause is made of the items of the choices: what does
  not fail succeeds, and what fails is at fault.
-/
theorem joins_mapM
    {item : α → String → Prop}
    {fault : α → ClauseFault → Prop}
    (hItem :
      ∀ choice text, f choice = .ok text ↔
        item choice text)
    (hFault :
      ∀ choice e, f choice = .error e ↔
        fault choice e) :
    Joins clause item fault chosen
      (do joined clause (← chosen.mapM f)) := by
  have hItems :
      item = fun choice text => f choice = .ok text := by
    funext choice text
    exact propext (hItem choice text).symm
  have hFaults :
      fault = fun choice e => f choice = .error e := by
    funext choice e
    exact propext (hFault choice e).symm
  subst hItems hFaults
  refine ⟨?_, fun _ => joined_mapM_eq_ok_iff,
    fun _ => joined_mapM_eq_error_iff⟩
  simp only [Except.exists_ok_iff, ne_eq,
    joined_mapM_eq_error_iff, not_or, not_and]
  constructor
  · intro hNone
    refine ⟨fun hEmpty => (hNone _).1 hEmpty rfl, ?_⟩
    intro choice hChoice fault hFails
    have hFault :
        ∃ e, FirstFault
          (fun choice fault => f choice = .error fault)
          chosen e :=
      exists_firstFault_iff.2
        ⟨choice, hChoice, fault, hFails⟩
    rcases hFault with ⟨e, hFirst⟩
    exact (hNone e).2 hFirst
  · rintro ⟨hSome, hEach⟩ e
    refine ⟨fun hEmpty => absurd hEmpty hSome, ?_⟩
    intro hFirst
    rcases exists_firstFault_iff.1 ⟨e, hFirst⟩ with
      ⟨choice, hChoice, fault, hFails⟩
    exact hEach choice hChoice fault hFails

end Clauses

/- The same items make the same clause. -/
theorem Joins.congr
    {α β : Type}
    {clause other : String}
    {item : α → String → Prop}
    {itemOf : β → String → Prop}
    {fault : α → ClauseFault → Prop}
    {faultOf : β → ClauseFault → Prop}
    {chosen : List α}
    {others : List β}
    {result resultOf : Except ClauseFault Fragment}
    (hJoins : Joins clause item fault chosen result)
    (hOthers : Joins other itemOf faultOf others resultOf)
    (hSame :
      List.Forall₂
        (fun choice other =>
          ∀ text, item choice text ↔ itemOf other text)
        chosen others)
    (f : Fragment) :
    result = .ok f ↔ resultOf = .ok f := by
  have hItems :
      ∀ items, List.Forall₂ item chosen items ↔
        List.Forall₂ itemOf others items := by
    clear hJoins hOthers
    induction hSame with
    | nil => simp
    | cons hFirst _ ih =>
        simp [List.forall₂_cons_left_iff, hFirst, ih]
  have hNil : chosen = [] ↔ others = [] := by
    rw [← List.length_eq_zero_iff, hSame.length_eq,
      List.length_eq_zero_iff]
  rw [hJoins.sql, hOthers.sql]
  simp only [hItems, ne_eq, hNil]

section Laws

variable (entries : List (String × String))

/- A sort order joins the items of the pairs. -/
theorem orderBy_joins (pairs : List (String × String)) :
    Joins "order_by" (SortItem entries) (SortFault entries)
      pairs ((ofList entries).orderBy pairs) := by
  refine joins_mapM ?_ ?_
  · intro choice text
    exact sortItem_eq_ok_iff
  · intro choice fault
    exact sortItem_eq_error_iff

/- A list of columns joins the expressions of the keys. -/
theorem columns_joins (keys : List String) :
    Joins "columns" (Lists entries) (KeyFault entries)
      keys ((ofList entries).columns keys) := by
  refine joins_mapM ?_ ?_
  · intro key expression
    exact expression?_ofList_eq_ok_iff
  · intro key fault
    exact expression?_ofList_eq_error_iff.trans
      keyFault_iff.symm

end Laws

------------------------------------------------------------
-- Agreement
------------------------------------------------------------

/-
  Whether two keys, each looked up in entries of its own,
  stand for the same expression.
-/
def SameKey
    (entries others : List (String × String))
    (key other : String) : Prop :=
  ∀ expression,
    Lists entries key expression ↔
      Lists others other expression

/-
  Whether two pairs ask for the same item: their keys stand
  for the same expression, and their words for the same
  direction.
-/
structure SamePair
    (entries others : List (String × String))
    (pair other : String × String) : Prop where
  key : SameKey entries others pair.1 other.1
  direction :
    ∀ direction,
      Direction.Named pair.2 direction ↔
        Direction.Named other.2 direction

section Agreement

variable {entries others : List (String × String)}

/- Pairs that stand for the same do so either way round. -/
theorem SamePair.symm
    {pair other : String × String}
    (hSame : SamePair entries others pair other) :
    SamePair others entries other pair :=
  ⟨fun expression => (hSame.key expression).symm,
    fun direction => (hSame.direction direction).symm⟩

/- Pairs that stand for the same are written alike. -/
theorem SamePair.sortItem
    {pair other : String × String}
    {item : String}
    (hSame : SamePair entries others pair other)
    (hItem : SortItem entries pair item) :
    SortItem others other item := by
  rcases hItem with ⟨hKey, hWord⟩
  exact .item ((hSame.key _).1 hKey)
    ((hSame.direction _).1 hWord)

/- Pairs that agree give the same sort order. -/
theorem orderBy_congr
    {pairs otherPairs : List (String × String)}
    (hSame :
      List.Forall₂ (SamePair entries others)
        pairs otherPairs)
    (f : Fragment) :
    (ofList entries).orderBy pairs = .ok f ↔
      (ofList others).orderBy otherPairs = .ok f := by
  refine (orderBy_joins entries pairs).congr
    (orderBy_joins others otherPairs) (hSame.imp ?_) f
  intro pair other hPair item
  exact ⟨hPair.sortItem, hPair.symm.sortItem⟩

/- Keys that agree give the same list of columns. -/
theorem columns_congr
    {keys otherKeys : List String}
    (hSame :
      List.Forall₂ (SameKey entries others) keys
        otherKeys)
    (f : Fragment) :
    (ofList entries).columns keys = .ok f ↔
      (ofList others).columns otherKeys = .ok f :=
  (columns_joins entries keys).congr
    (columns_joins others otherKeys) hSame f

end Agreement

end Whitelist

end SqlAccess
