import Mathlib.Algebra.GroupWithZero.Nat
import Mathlib.Data.List.Induction
import Mathlib.Data.List.Nodup
import SqlAccess.Result.Shape

/-
  This file shows that results by keys lose nothing: every
  row that has a value is in one group, that of its first
  value, and a dictionary has the last row of each group.

  Key definitions include:
    * `Keyed.keys`
    * `Keyed.total`
    * `Keyed.itemsOf`
    * `ResultSet.pairs`
    * `ResultSet.membersOf`

  Key theorems include:
    * `Keyed.get?_update`
    * `Keyed.get?_allOfEach_eq_some_iff`
    * `Keyed.get?_lastOfEach`
    * `Keyed.total_allOfEach`
    * `ResultSet.itemsOf_pairs`
    * `ResultSet.groups_lose_nothing`
-/

namespace SqlAccess

namespace Keyed

variable {α : Type}

------------------------------------------------------------
-- Looking Up
------------------------------------------------------------

/- The keys under which something stands. -/
def keys (keyed : Keyed α) : List RowKey :=
  keyed.map Prod.fst

@[simp] theorem keys_cons
    (entry : RowKey × α)
    (rest : Keyed α) :
    keys (entry :: rest) = entry.1 :: keys rest :=
  rfl

@[simp] theorem get?_nil (key : RowKey) :
    get? ([] : Keyed α) key = none :=
  rfl

/-
  The first entry is found by its key, and hides no other.
-/
@[simp] theorem get?_cons
    (first key : RowKey)
    (item : α)
    (rest : Keyed α) :
    get? ((first, item) :: rest) key =
      if first = key then some item else rest.get? key := by
  by_cases hFirst : first = key
  · simp [get?, hFirst]
  · simp [get?, hFirst]

/- What is found for a key is an entry. -/
theorem mem_of_get?
    {keyed : Keyed α}
    {key : RowKey}
    {item : α}
    (hItem : keyed.get? key = some item) :
    (key, item) ∈ keyed := by
  induction keyed with
  | nil => cases hItem
  | cons entry rest ih =>
      rcases entry with ⟨first, old⟩
      rw [get?_cons] at hItem
      split at hItem
      · next hFirst =>
          cases hItem
          subst hFirst
          exact List.mem_cons_self
      · exact List.mem_cons_of_mem _ (ih hItem)

/-
  Where no key is there twice, what stands there is found.
-/
theorem get?_of_mem
    {keyed : Keyed α}
    {entry : RowKey × α}
    (hKeys : keyed.keys.Nodup)
    (hMem : entry ∈ keyed) :
    keyed.get? entry.1 = some entry.2 := by
  induction keyed with
  | nil => cases hMem
  | cons first rest ih =>
      rcases List.nodup_cons.1 hKeys with ⟨hNew, hRest⟩
      rw [get?_cons]
      rcases List.mem_cons.1 hMem with rfl | hMem
      · rw [if_pos rfl]
      · have hOther : first.1 ≠ entry.1 := by
          intro hSame
          rw [hSame] at hNew
          exact hNew (List.mem_map_of_mem hMem)
        rw [if_neg hOther]
        exact ih hRest hMem

------------------------------------------------------------
-- One Change
------------------------------------------------------------

section Update

variable {key : RowKey}
variable {change : Option α → α}
variable {keyed : Keyed α}

/- A change is seen under its key, and nowhere else. -/
theorem get?_update (other : RowKey) :
    (update key change keyed).get? other =
      if key = other then some (change (keyed.get? key))
      else keyed.get? other := by
  induction keyed with
  | nil => simp [update]
  | cons entry rest ih =>
      rcases entry with ⟨first, old⟩
      rw [update]
      by_cases hFirst : first = key
      · rw [if_pos hFirst, get?_cons, get?_cons, get?_cons,
          if_pos hFirst, hFirst]
        split
        · rfl
        · rfl
      · rw [if_neg hFirst, get?_cons, get?_cons, get?_cons,
          if_neg hFirst, ih]
        by_cases hOther : first = other
        · have hKey : key ≠ other := by
            rintro rfl
            exact hFirst hOther
          simp [hOther, hKey]
        · simp [hOther]

/- A new key comes last, and no key is lost. -/
theorem keys_update :
    (update key change keyed).keys =
      if key ∈ keyed.keys then keyed.keys
      else keyed.keys ++ [key] := by
  induction keyed with
  | nil => rfl
  | cons entry rest ih =>
      rcases entry with ⟨first, old⟩
      rw [update]
      by_cases hFirst : first = key
      · subst hFirst
        simp
      · have hKey : key ≠ first := Ne.symm hFirst
        rw [if_neg hFirst, keys_cons, keys_cons, ih]
        by_cases hRest : key ∈ keys rest
        · simp [hRest]
        · simp [hRest, hKey]

/-
  An entry of a table that is updated is an old one or the
  one that was made.
-/
theorem mem_update
    {entry : RowKey × α}
    (hMem : entry ∈ update key change keyed) :
    entry ∈ keyed ∨ ∃ old, entry.2 = change old := by
  induction keyed with
  | nil =>
      rw [update, List.mem_singleton] at hMem
      subst hMem
      exact .inr ⟨none, rfl⟩
  | cons first rest ih =>
      rcases first with ⟨other, old⟩
      rw [update] at hMem
      split at hMem
      · rcases List.mem_cons.1 hMem with rfl | hMem
        · exact .inr ⟨some old, rfl⟩
        · exact .inl (List.mem_cons_of_mem _ hMem)
      · rcases List.mem_cons.1 hMem with rfl | hMem
        · exact .inl List.mem_cons_self
        · exact (ih hMem).imp_left (List.mem_cons_of_mem _)

/- An update adds no key twice. -/
theorem nodup_update (hKeys : keyed.keys.Nodup) :
    (update key change keyed).keys.Nodup := by
  rw [keys_update]
  split
  · exact hKeys
  · next hNew =>
      rw [← List.concat_eq_append]
      exact List.Nodup.concat hNew hKeys

end Update

------------------------------------------------------------
-- All Items and the Last One
------------------------------------------------------------

/- The items under a key, in their order. -/
def itemsOf
    (key : RowKey)
    (pairs : List (RowKey × α)) : List α :=
  (pairs.filter fun pair => pair.1 = key).map Prod.snd

section Pairs

variable {key : RowKey}
variable {pairs : List (RowKey × α)}

/- The last pair adds to the items of its own key only. -/
theorem itemsOf_snoc (pair : RowKey × α) :
    itemsOf key (pairs ++ [pair]) =
      itemsOf key pairs ++
        if pair.1 = key then [pair.2] else [] := by
  rw [itemsOf, List.filter_append, List.map_append]
  by_cases hKey : pair.1 = key
  · simp [itemsOf, hKey]
  · simp [itemsOf, hKey]

/- The last pair is added to the items of its key. -/
theorem allOfEach_snoc (pair : RowKey × α) :
    allOfEach (pairs ++ [pair]) =
      update pair.1 (fun old => old.getD [] ++ [pair.2])
        (allOfEach pairs) := by
  simp only [allOfEach, List.foldl_append, List.foldl_cons,
    List.foldl_nil]

/- The last pair takes the place of its key. -/
theorem lastOfEach_snoc (pair : RowKey × α) :
    lastOfEach (pairs ++ [pair]) =
      update pair.1
        (fun _ => pair.2) (lastOfEach pairs) := by
  simp only [lastOfEach, List.foldl_append, List.foldl_cons,
    List.foldl_nil]

/- What is collected under a key are its items. -/
theorem getD_allOfEach :
    ((allOfEach pairs).get? key).getD [] =
      itemsOf key pairs := by
  induction pairs using List.reverseRecOn with
  | nil => rfl
  | append_singleton pairs pair ih =>
      rw [allOfEach_snoc, get?_update, itemsOf_snoc, ← ih]
      split
      · next hKey =>
          rw [hKey]
          rfl
      · rw [List.append_nil]

/- A key is kept only with an item. -/
theorem ne_nil_of_mem_allOfEach
    {entry : RowKey × List α}
    (hMem : entry ∈ allOfEach pairs) :
    entry.2 ≠ [] := by
  induction pairs using List.reverseRecOn with
  | nil => cases hMem
  | append_singleton pairs pair ih =>
      rw [allOfEach_snoc] at hMem
      rcases mem_update hMem with hMem | ⟨old, hOld⟩
      · exact ih hMem
      · rw [hOld]
        exact List.concat_ne_nil _ _

/-
  A key has a group if and only if it has items, and the
  group is all of them.
-/
theorem get?_allOfEach_eq_some_iff {items : List α} :
    (allOfEach pairs).get? key = some items ↔
      items = itemsOf key pairs ∧ items ≠ [] := by
  have hItems :
      ((allOfEach pairs).get? key).getD [] =
        itemsOf key pairs :=
    getD_allOfEach
  cases hGet : (allOfEach pairs).get? key with
  | none =>
      rw [hGet, Option.getD_none] at hItems
      simp only [reduceCtorEq, ← hItems, false_iff]
      exact fun hBoth => hBoth.2 hBoth.1
  | some group =>
      rw [hGet, Option.getD_some] at hItems
      have hGroup :=
        ne_nil_of_mem_allOfEach (mem_of_get? hGet)
      rw [← hItems, Option.some.injEq]
      constructor
      · rintro rfl
        exact ⟨rfl, hGroup⟩
      · exact fun hBoth => hBoth.1.symm

/- What stands last under a key is its last item. -/
theorem get?_lastOfEach :
    (lastOfEach pairs).get? key =
      (itemsOf key pairs).getLast? := by
  induction pairs using List.reverseRecOn with
  | nil => rfl
  | append_singleton pairs pair ih =>
      rw [lastOfEach_snoc, get?_update, itemsOf_snoc, ih]
      split
      · rw [List.getLast?_concat]
      · rw [List.append_nil]

/- It is the last one of the group. -/
theorem get?_lastOfEach_eq_bind :
    (lastOfEach pairs).get? key =
      ((allOfEach pairs).get? key).bind List.getLast? := by
  rw [get?_lastOfEach, ← getD_allOfEach]
  cases (allOfEach pairs).get? key with
  | none => rfl
  | some group => rfl

/-
  Both have the same keys, in the order of their first
  items.
-/
theorem keys_lastOfEach :
    (lastOfEach pairs).keys = (allOfEach pairs).keys := by
  induction pairs using List.reverseRecOn with
  | nil => rfl
  | append_singleton pairs pair ih =>
      rw [lastOfEach_snoc, allOfEach_snoc, keys_update,
        keys_update, ih]

/- Each key is kept once. -/
theorem nodup_allOfEach : (allOfEach pairs).keys.Nodup := by
  induction pairs using List.reverseRecOn with
  | nil => exact .nil
  | append_singleton pairs pair ih =>
      rw [allOfEach_snoc]
      exact nodup_update ih

end Pairs

------------------------------------------------------------
-- Sizes
------------------------------------------------------------

/- The number of the items in all groups. -/
def total (groups : Keyed (List α)) : Nat :=
  (groups.map fun entry => entry.2.length).sum

/- One more item in a group is one more in all. -/
theorem total_update
    (key : RowKey)
    (item : α)
    (groups : Keyed (List α)) :
    total (update key
      (fun old => old.getD [] ++ [item]) groups) =
      total groups + 1 := by
  induction groups with
  | nil => rfl
  | cons entry rest ih =>
      rcases entry with ⟨first, old⟩
      rw [total] at ih ⊢
      rw [update]
      split
      · simp [total]
        omega
      · rw [List.map_cons, List.sum_cons, ih]
        simp [total]
        omega

/- No item is lost, and none is kept twice. -/
theorem total_allOfEach (pairs : List (RowKey × α)) :
    total (allOfEach pairs) = pairs.length := by
  induction pairs using List.reverseRecOn with
  | nil => rfl
  | append_singleton pairs pair ih =>
      rw [allOfEach_snoc, total_update, ih,
        List.length_append, List.length_singleton]

end Keyed

------------------------------------------------------------
-- Rows by Their First Values
------------------------------------------------------------

namespace ResultSet

variable (result : ResultSet)

/-
  The rows that have a value, under the keys of their first.
-/
def pairs : List (RowKey × Record) :=
  let split := result.records.filterMap fun record =>
    record.uncons? result.columns.tail
  split.map fun (first, rest) =>
    (RowKey.ofValue first, rest)

/-
  The rows whose first value has a key, in their order, each
  as a record of its other values under the names of the
  other columns.
-/
def membersOf (key : RowKey) : List Record :=
  (result.rows.filter fun row =>
    row.head?.map RowKey.ofValue = some key).map
    fun row => ⟨result.columns.tail, row.tail⟩

section Rows

variable (columns : List String)
variable (first : Value)
variable (values : List Value)
variable (rows : List (List Value))

@[simp] theorem pairs_empty_row :
    pairs ⟨columns, [] :: rows⟩ =
      pairs ⟨columns, rows⟩ :=
  rfl

/- A row is its first value and the record of the others. -/
@[simp] theorem pairs_row :
    pairs ⟨columns, (first :: values) :: rows⟩ =
      (RowKey.ofValue first, ⟨columns.tail, values⟩) ::
        pairs ⟨columns, rows⟩ :=
  rfl

end Rows

/- The items of a key are the records of its rows. -/
theorem itemsOf_pairs (key : RowKey) :
    Keyed.itemsOf key result.pairs =
      result.membersOf key := by
  rcases result with ⟨columns, rows⟩
  induction rows with
  | nil => rfl
  | cons row rows ih =>
      rw [Keyed.itemsOf, membersOf] at ih
      rw [Keyed.itemsOf, membersOf]
      cases row with
      | nil => simpa using ih
      | cons first values =>
          by_cases hKey : RowKey.ofValue first = key
          · simpa [hKey] using ih
          · simpa [hKey] using ih

/- There are as many pairs as rows with a value. -/
theorem length_pairs :
    result.pairs.length =
      result.rows.countP fun row => !row.isEmpty := by
  rcases result with ⟨columns, rows⟩
  induction rows with
  | nil => rfl
  | cons row rows ih =>
      cases row with
      | nil => simpa using ih
      | cons first values => simpa using ih

/- A member has the names of all columns but the first. -/
theorem columns_of_mem_membersOf
    {key : RowKey}
    {record : Record}
    (hMem : record ∈ result.membersOf key) :
    record.columns = result.columns.tail := by
  rcases List.mem_map.1 hMem with ⟨row, -, rfl⟩
  rfl

/- The groups are all records of each key. -/
theorem groups_eq (hWidth : 2 ≤ result.width) :
    result.groups = .ok (Keyed.allOfEach result.pairs) := by
  rw [groups, keyedRows, if_neg (Nat.not_lt.2 hWidth)]
  rfl

/- The dictionary is the last record of each key. -/
theorem dictionary_eq (hWidth : 2 ≤ result.width) :
    result.dictionary =
      .ok (Keyed.lastOfEach result.pairs) := by
  rw [dictionary, keyedRows, if_neg (Nat.not_lt.2 hWidth)]
  rfl

/- The records of a group have all columns but the first. -/
theorem columns_of_mem_group
    {entry : RowKey × List Record}
    {record : Record}
    (hEntry : entry ∈ Keyed.allOfEach result.pairs)
    (hRecord : record ∈ entry.2) :
    record.columns = result.columns.tail := by
  have hGroup :=
    Keyed.get?_of_mem Keyed.nodup_allOfEach hEntry
  rw [Keyed.get?_allOfEach_eq_some_iff, itemsOf_pairs]
    at hGroup
  rw [hGroup.1] at hRecord
  exact result.columns_of_mem_membersOf hRecord

/-
  The records of a dictionary have all columns but the
  first.
-/
theorem columns_of_mem_dictionary
    {entry : RowKey × Record}
    (hEntry : entry ∈ Keyed.lastOfEach result.pairs) :
    entry.2.columns = result.columns.tail := by
  have hKeys :
      (Keyed.lastOfEach result.pairs).keys.Nodup := by
    rw [Keyed.keys_lastOfEach]
    exact Keyed.nodup_allOfEach
  have hLast := Keyed.get?_of_mem hKeys hEntry
  rw [Keyed.get?_lastOfEach, itemsOf_pairs] at hLast
  exact result.columns_of_mem_membersOf
    (List.mem_of_getLast? hLast)

/- With fewer than two columns there is nothing to key. -/
theorem materialize_of_narrow
    {shape : Shape}
    (hWidth : result.width < 2)
    (hShape : shape ∈ [Shape.groups, Shape.dictionary]) :
    result.materialize shape =
      .error (.noValueColumn result.width) := by
  have hRows :
      result.keyedRows =
        .error (.noValueColumn result.width) :=
    if_pos hWidth
  rcases List.mem_cons.1 hShape with rfl | hShape
  · rw [materialize, groups, hRows]
    rfl
  · rw [List.mem_singleton.1 hShape, materialize,
      dictionary, hRows]
    rfl

------------------------------------------------------------
-- Groups and Dictionaries
------------------------------------------------------------

/-
  A result of two columns or more is grouped without loss:
  each key has exactly the rows whose first value it is, in
  their order, as its group, and no other key has one, so
  that every row that has a value is counted once.  The
  dictionary has the same keys, and the last record of each
  group.  All records are under the names of the other
  columns.  A result of fewer columns fits neither shape.
-/
theorem groups_lose_nothing :
    (2 ≤ result.width →
      ∃ groups dictionary,
        result.materialize .groups =
          .ok (.groups groups) ∧
          result.materialize .dictionary =
            .ok (.dictionary dictionary) ∧
          (∀ key members,
            groups.get? key = some members ↔
              members = result.membersOf key ∧
                members ≠ []) ∧
          (∀ entry ∈ groups, entry.2 ≠ []) ∧
          groups.keys.Nodup ∧
          groups.total =
            result.rows.countP (fun row => !row.isEmpty) ∧
          dictionary.keys = groups.keys ∧
          (∀ key,
            dictionary.get? key =
              (groups.get? key).bind List.getLast?) ∧
          (∀ entry ∈ groups, ∀ record ∈ entry.2,
            record.columns = result.columns.tail) ∧
          ∀ entry ∈ dictionary,
            entry.2.columns = result.columns.tail) ∧
      (result.width < 2 →
        ∀ shape ∈ [Shape.groups, Shape.dictionary],
          ∃ fault,
            result.materialize shape = .error fault ∧
              fault.toError =
                .resultShape ""
                  ("keyed shapes need a key column and at " ++
                    "least one value column, result has " ++
                    toString result.width)) := by
  constructor
  · intro hWidth
    refine ⟨Keyed.allOfEach result.pairs,
      Keyed.lastOfEach result.pairs, ?_, ?_, ?_,
      fun entry => Keyed.ne_nil_of_mem_allOfEach,
      Keyed.nodup_allOfEach, ?_, Keyed.keys_lastOfEach,
      fun key => Keyed.get?_lastOfEach_eq_bind,
      fun entry hEntry record =>
        result.columns_of_mem_group hEntry,
      fun entry => result.columns_of_mem_dictionary⟩
    · rw [materialize, result.groups_eq hWidth]
      rfl
    · rw [materialize, result.dictionary_eq hWidth]
      rfl
    · intro key members
      rw [Keyed.get?_allOfEach_eq_some_iff, itemsOf_pairs]
    · rw [Keyed.total_allOfEach, length_pairs]
  · intro hWidth shape hShape
    exact ⟨_, result.materialize_of_narrow hWidth hShape,
      rfl⟩

/-
  The integer 1 is there three times, once without another
  value; the text 1 is another key, a null is one, and a row
  without values has none.
-/
theorem groups_lose_nothing_sample :
    let one := Value.int 1
    let rows :=
      [[one, .text "a"], [.null, .text "b"], [], [one],
        [.text "1", .text "c", .text "d"], [one, .text "e"]]
    let result : ResultSet := ⟨["k", "v"], rows⟩
    2 ≤ result.width ∧
      result.membersOf (.int 1) =
        [⟨["v"], [.text "a"]⟩, ⟨["v"], []⟩,
          ⟨["v"], [.text "e"]⟩] ∧
      ∃ groups dictionary,
        result.materialize .groups =
          .ok (.groups groups) ∧
          result.materialize .dictionary =
            .ok (.dictionary dictionary) ∧
          groups.get? (.int 1) =
            some (result.membersOf (.int 1)) ∧
          dictionary.get? (.int 1) =
            some ⟨["v"], [.text "e"]⟩ ∧
          groups.get? (.text "1") =
            some [⟨["v"], [.text "c", .text "d"]⟩] ∧
          groups.total = 5 := by
  intro one rows result
  have hWidth : 2 ≤ result.width := by decide
  have hOne :
      result.membersOf (.int 1) =
        [⟨["v"], [.text "a"]⟩, ⟨["v"], []⟩,
          ⟨["v"], [.text "e"]⟩] :=
    rfl
  rcases result.groups_lose_nothing.1 hWidth with
    ⟨groups, dictionary, hGroups, hDictionary,
      hMembers, -, -, hTotal, -, hLast, -⟩
  have hFirst :
      groups.get? (.int 1) =
        some (result.membersOf (.int 1)) :=
    (hMembers _ _).2
      ⟨rfl, by rw [hOne]; exact List.cons_ne_nil _ _⟩
  refine ⟨hWidth, hOne, groups, dictionary, hGroups,
    hDictionary, hFirst, ?_, ?_, hTotal⟩
  · rw [hLast, hFirst, hOne]
    rfl
  · exact (hMembers _ _).2 ⟨rfl, List.cons_ne_nil _ _⟩

end ResultSet

end SqlAccess
