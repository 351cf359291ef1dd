import Mathlib.Data.List.Induction
import Mathlib.Data.List.NodupEquivFin
import SqlAccess.Proofs.Latest
import SqlAccess.Result.Shape

/-
  This file says what is found under a name in a row.  Where
  columns share a name, a record has the value of the first
  one, and a map that of the last one with a value; so both
  agree on a name, whatever the rows are, if and only if it
  stands for one column at most.

  Key definitions include:
    * `ColumnIndex.IsFirst`
    * `Record.Holds`
    * `Record.HoldsLast`
    * `Record.Finds`

  Key theorems include:
    * `ColumnIndex.get?_ofNames_eq_some_iff`
    * `RowMap.get?_ofPairs_eq_some_iff`
    * `RowMap.sorted_ofPairs`
    * `Record.intoMap_eq_toMap`
    * `Record.get?_toMap_eq_some_iff`
    * `ResultSet.lookups_agree`
-/

namespace SqlAccess

------------------------------------------------------------
-- Columns
------------------------------------------------------------

namespace ColumnIndex

/- Whether a column is the first one of a name. -/
structure IsFirst
    (names : List String)
    (name : String)
    (index : Nat) : Prop where
  here : names[index]? = some name
  before : ∀ earlier < index,
    names[earlier]? ≠ some name

section Names

variable {names : List String} {name last : String}

/- A name that is there already keeps its index. -/
theorem get?_insertNew
    (columns : ColumnIndex)
    (index : Nat) :
    (columns.insertNew last index).get? name =
      if name = last then
        some ((columns.get? last).getD index)
      else columns.get? name := by
  induction columns with
  | nil => exact lookup_cons_eq_ite name last index []
  | cons entry rest ih =>
      rcases entry with ⟨other, first⟩
      rw [get?] at ih
      rw [insertNew, get?, get?, get?]
      by_cases hOther : other = last
      · subst hOther
        rw [if_pos rfl, lookup_cons_eq_ite,
          lookup_cons_eq_ite]
        by_cases hName : name = other
        · simp [hName]
        · simp [hName]
      · rw [if_neg hOther, lookup_cons_eq_ite,
          lookup_cons_eq_ite, lookup_cons_eq_ite, ih,
          if_neg (Ne.symm hOther)]
        by_cases hName : name = other
        · simp [hName, hOther]
        · simp [hName, get?]

/-
  A column that is added is found unless its name was there
  before.
-/
theorem get?_ofNames_snoc :
    (ofNames (names ++ [last])).get? name =
      if name = last then
        some (((ofNames names).get? last).getD names.length)
      else (ofNames names).get? name := by
  rw [← get?_insertNew, ofNames, List.zipIdx_append,
    List.foldl_append, Nat.zero_add]
  rfl

/-
  The first place of a name stays when a name is added
  behind it.
-/
theorem idxOf?_snoc :
    (names ++ [last]).idxOf? name =
      if name = last then
        some ((names.idxOf? last).getD names.length)
      else names.idxOf? name := by
  rw [List.idxOf?, List.findIdx?_append,
    List.findIdx?_singleton, ← List.idxOf?]
  by_cases hName : name = last
  · subst hName
    cases names.idxOf? name with
    | none => simp
    | some index => simp
  · simp [hName, Ne.symm hName]

/- The index answers as a search through the names does. -/
theorem get?_ofNames :
    (ofNames names).get? name = names.idxOf? name := by
  induction names using List.reverseRecOn
    generalizing name with
  | nil => rfl
  | append_singleton names last ih =>
      rw [get?_ofNames_snoc, idxOf?_snoc, ih, ih]

/- A name is found at its first place. -/
theorem get?_ofNames_eq_some_iff {index : Nat} :
    (ofNames names).get? name = some index ↔
      IsFirst names name index := by
  rw [get?_ofNames, List.idxOf?_eq_some_iff]
  constructor
  · intro hIndex
    rcases hIndex with ⟨hLength, hHere, hBefore⟩
    refine ⟨List.getElem?_eq_some_iff.2
      ⟨hLength, hHere⟩, ?_⟩
    intro earlier hEarlier hName
    refine hBefore earlier hEarlier ?_
    exact (List.getElem?_eq_some_iff.1 hName).2
  · intro hFirst
    rcases List.getElem?_eq_some_iff.1 hFirst.here with
      ⟨hLength, hHere⟩
    refine ⟨hLength, hHere, ?_⟩
    intro earlier hEarlier hName
    refine hFirst.before earlier hEarlier ?_
    exact List.getElem?_eq_some_iff.2 ⟨_, hName⟩

end Names

end ColumnIndex

------------------------------------------------------------
-- Maps
------------------------------------------------------------

namespace RowMap

/-
  Whether names are in increasing order, none of them twice.
-/
def Sorted (map : RowMap) : Prop :=
  map.Pairwise fun first second => first.1 < second.1

section Insert

variable {map : RowMap}
variable {name other : String}
variable {value : Value}

/- A value is found under its name, and under no other. -/
theorem get?_insert :
    (map.insert name value).get? other =
      if other = name then
        some value
      else
        map.get? other := by
  induction map with
  | nil => exact lookup_cons_eq_ite other name value []
  | cons entry rest ih =>
      rcases entry with ⟨first, old⟩
      rw [get?] at ih
      rw [insert, get?, get?]
      by_cases hLess : name < first
      · rw [if_pos hLess, lookup_cons_eq_ite]
      · by_cases hFirst : name = first
        · subst hFirst
          rw [if_neg hLess, if_pos rfl, lookup_cons_eq_ite,
            lookup_cons_eq_ite]
          split <;> rfl
        · rw [if_neg hLess, if_neg hFirst,
            lookup_cons_eq_ite, lookup_cons_eq_ite, ih]
          by_cases hOther : other = first
          · simp [hOther, Ne.symm hFirst]
          · simp [hOther, get?]

/-
  What is in a map with an entry added is that entry or was
  there.
-/
theorem mem_insert
    {entry : String × Value}
    (hMem : entry ∈ map.insert name value) :
    entry = (name, value) ∨ entry ∈ map := by
  induction map with
  | nil => exact .inl (List.mem_singleton.1 hMem)
  | cons first rest ih =>
      rcases first with ⟨other, old⟩
      rw [insert] at hMem
      split at hMem
      · exact List.mem_cons.1 hMem
      · split at hMem
        · exact (List.mem_cons.1 hMem).imp_right
            (List.mem_cons_of_mem _)
        · rcases List.mem_cons.1 hMem with rfl | hMem
          · exact .inr List.mem_cons_self
          · exact (ih hMem).imp_right
              (List.mem_cons_of_mem _)

/- A map with an entry added is in order. -/
theorem Sorted.insert (hSorted : map.Sorted) :
    (map.insert name value).Sorted := by
  induction map with
  | nil => exact List.pairwise_singleton _ _
  | cons first rest ih =>
      rcases first with ⟨other, old⟩
      rcases List.pairwise_cons.1 hSorted with
        ⟨hFirst, hRest⟩
      rw [RowMap.insert]
      by_cases hLess : name < other
      · rw [if_pos hLess]
        refine List.pairwise_cons.2 ⟨?_, hSorted⟩
        intro entry hEntry
        rcases List.mem_cons.1 hEntry with rfl | hEntry
        · exact hLess
        · exact String.lt_trans hLess (hFirst entry hEntry)
      · by_cases hSame : name = other
        · subst hSame
          rw [if_neg hLess, if_pos rfl]
          exact List.pairwise_cons.2 ⟨hFirst, hRest⟩
        · rw [if_neg hLess, if_neg hSame]
          refine List.pairwise_cons.2 ⟨?_, ih hRest⟩
          intro entry hEntry
          rcases mem_insert hEntry with rfl | hEntry
          · by_contra hNot
            exact hSame (String.le_antisymm
              (String.not_lt.1 hNot)
                (String.not_lt.1 hLess))
          · exact hFirst entry hEntry

/- In such an order, each entry is found under its name. -/
theorem Sorted.mem_iff (hSorted : map.Sorted) :
    (name, value) ∈ map ↔
      map.get? name = some value := by
  rw [get?, List.lookup_eq_some_iff]
  constructor
  · intro hMem
    rcases List.append_of_mem hMem with
      ⟨before, after, rfl⟩
    refine ⟨before, after, rfl, ?_⟩
    intro entry hEntry
    have hLess : entry.1 < name :=
      (List.pairwise_append.1 hSorted).2.2 entry hEntry _
        List.mem_cons_self
    simp only [bne_iff_ne, ne_eq]
    rintro rfl
    exact String.lt_irrefl _ hLess
  · rintro ⟨before, after, rfl, -⟩
    simp

end Insert

section Pairs

variable {pairs : List (String × Value)}

/- The last pair is added to the others. -/
theorem ofPairs_snoc (pair : String × Value) :
    ofPairs (pairs ++ [pair]) =
      (ofPairs pairs).insert pair.1 pair.2 := by
  rw [ofPairs, List.foldl_append]
  rfl

/- A map that is made of pairs is in order. -/
theorem sorted_ofPairs : (ofPairs pairs).Sorted := by
  induction pairs using List.reverseRecOn with
  | nil => exact .nil
  | append_singleton pairs pair ih =>
      rw [ofPairs_snoc]
      exact ih.insert

/- What is found under a name is its last value. -/
theorem get?_ofPairs_eq_some_iff
    {name : String}
    {value : Value} :
    (ofPairs pairs).get? name = some value ↔
      Latest (Prod.mk name) pairs value := by
  induction pairs using List.reverseRecOn with
  | nil => simp [ofPairs, get?, not_latest_nil]
  | append_singleton pairs pair ih =>
      rcases pair with ⟨other, given⟩
      rw [ofPairs_snoc, get?_insert, latest_snoc_iff,
        ← ih]
      by_cases hName : name = other
      · simp [hName]
      · simp [hName, Ne.symm hName]

end Pairs

/- To fill a map is to put in pair by pair. -/
theorem fill_eq
    (map : RowMap)
    (names : List String)
    (values : List Value) :
    map.fill names values =
      (names.zip values).foldl (fun map (name, value) =>
        map.insert name value) map := by
  induction names generalizing map values with
  | nil => rfl
  | cons name names ih =>
      cases values with
      | nil => rfl
      | cons value values => exact ih _ values

end RowMap

------------------------------------------------------------
-- Records
------------------------------------------------------------

namespace Record

/- Whether a value stands under a name, in a column. -/
structure Holds
    (record : Record)
    (index : Nat)
    (name : String)
    (value : Value) : Prop where
  name : record.columns[index]? = some name
  value : record.values[index]? = some value

/-
  Whether a value stands in the last column of a name that
  has one.
-/
def HoldsLast
    (record : Record)
    (name : String)
    (value : Value) : Prop :=
  ∃ index, record.Holds index name value ∧
    ∀ later other, index < later →
      ¬ record.Holds later name other

/-
  What is found in a record and in a map of it.  The map has
  the names that stand for a value, in increasing order, and
  under each of them the last of these values.  The record
  knows the first column of each name, and finds the value
  there, if there is one.  Its pairs are the names with the
  values at the same index.
-/
structure Finds
    (record : Record)
    (map : RowMap) :
    Prop where
  sorted : map.Sorted
  named :
    ∀ name,
      (∃ value, map.get? name = some value) ↔
        ∃ index value, record.Holds index name value
  last :
    ∀ name value,
      map.get? name = some value ↔
        record.HoldsLast name value
  entries :
    ∀ name value,
      (name, value) ∈ map ↔ record.HoldsLast name value
  position :
    ∀ name index,
      record.position? name = some index ↔
        ColumnIndex.IsFirst record.columns name index
  first :
    ∀ name index,
      ColumnIndex.IsFirst record.columns name index →
        record.get? name = record.getAt? index
  absent :
    ∀ name, name ∉ record.columns →
      record.get? name = none
  indexed :
    ∀ index, record.getAt? index = record.values[index]?
  pairs :
    ∀ index name value,
      record.toPairs[index]? = some (name, value) ↔
        record.columns[index]? = some name ∧
          record.getAt? index = some value

section Lookup

variable {record : Record} {name : String} {value : Value}
variable {index : Nat}

/- A record has a pair for each column with a value. -/
theorem getElem?_toPairs :
    record.toPairs[index]? = some (name, value) ↔
      record.Holds index name value := by
  rw [toPairs, List.getElem?_zip_eq_some]
  exact ⟨fun hBoth => ⟨hBoth.1, hBoth.2⟩,
    fun hHolds => ⟨hHolds.name, hHolds.value⟩⟩

/- A record is given up for the map that it is copied to. -/
theorem intoMap_eq_toMap (record : Record) :
    record.intoMap = record.toMap :=
  RowMap.fill_eq [] record.columns record.values

/- A map holds the last value of a name. -/
theorem get?_toMap_eq_some_iff :
    record.toMap.get? name = some value ↔
      record.HoldsLast name value := by
  rw [toMap, RowMap.get?_ofPairs_eq_some_iff,
    latest_iff_getElem?]
  simp only [ne_eq, getElem?_toPairs]
  rfl

/- A map has the names that the record holds a value for. -/
theorem exists_get?_toMap_iff :
    (∃ value, record.toMap.get? name = some value) ↔
      ∃ index value, record.Holds index name value := by
  simp only [toMap, RowMap.get?_ofPairs_eq_some_iff,
    exists_latest_iff, List.mem_iff_getElem?,
    getElem?_toPairs]
  exact exists_comm

/- A record is looked up at the first place of a name. -/
theorem get?_eq_some_iff :
    record.get? name = some value ↔
      ∃ index,
        ColumnIndex.IsFirst record.columns name index ∧
          record.values[index]? = some value := by
  rw [get?, Option.bind_eq_some_iff]
  simp only [position?,
    ColumnIndex.get?_ofNames_eq_some_iff]
  rfl

/- To look a name up is to look at its first place. -/
theorem get?_of_isFirst
    (hFirst :
      ColumnIndex.IsFirst record.columns name index) :
    record.get? name = record.getAt? index := by
  rw [get?, position?,
    ColumnIndex.get?_ofNames_eq_some_iff.2 hFirst,
    Option.bind_some]

/- A name that is no column is not found. -/
theorem get?_of_notMem
    (hName : name ∉ record.columns) :
    record.get? name = none := by
  rw [Option.eq_none_iff_forall_ne_some]
  intro value hValue
  rcases get?_eq_some_iff.1 hValue with
    ⟨index, hFirst, -⟩
  exact hName (List.mem_of_getElem? hFirst.here)

/-
  A map finds what the record holds, in each of the ways to
  look at it.
-/
theorem finds_toMap (record : Record) :
    record.Finds record.toMap where
  sorted := RowMap.sorted_ofPairs
  named _ := exists_get?_toMap_iff
  last _ _ := get?_toMap_eq_some_iff
  entries _ _ :=
    RowMap.sorted_ofPairs.mem_iff.trans
      get?_toMap_eq_some_iff
  position _ _ := ColumnIndex.get?_ofNames_eq_some_iff
  first _ _ := get?_of_isFirst
  absent _ := get?_of_notMem
  indexed _ := rfl
  pairs _ _ _ :=
    getElem?_toPairs.trans
      ⟨fun hHolds => ⟨hHolds.name, hHolds.value⟩,
        fun hBoth => ⟨hBoth.1, hBoth.2⟩⟩

------------------------------------------------------------
-- Agreement
------------------------------------------------------------

/- A name that is not there twice stands for one column. -/
theorem index_unique
    {columns : List String}
    {other : Nat}
    (hCount : columns.count name ≤ 1)
    (hIndex : columns[index]? = some name)
    (hOther : columns[other]? = some name) :
    index = other := by
  by_contra hNot
  have hTwice : columns.Duplicate name := by
    rw [List.duplicate_iff_exists_distinct_get]
    rcases List.getElem?_eq_some_iff.1 hIndex with
      ⟨hLength, hGet⟩
    rcases List.getElem?_eq_some_iff.1 hOther with
      ⟨hOtherLength, hOtherGet⟩
    rcases Nat.lt_or_gt_of_ne hNot with hLess | hMore
    · exact ⟨⟨index, hLength⟩,
        ⟨other, hOtherLength⟩, hLess, hGet.symm,
          hOtherGet.symm⟩
    · exact ⟨⟨other, hOtherLength⟩,
        ⟨index, hLength⟩, hMore, hOtherGet.symm,
          hGet.symm⟩
  have hTwo := List.duplicate_iff_two_le_count.1 hTwice
  omega

/-
  Where a name is not there twice, first and last are one.
-/
theorem get?_eq_get?_toMap
    (hCount : record.columns.count name ≤ 1) :
    record.get? name = record.toMap.get? name := by
  refine Option.ext fun value => ?_
  rw [get?_eq_some_iff, get?_toMap_eq_some_iff]
  constructor
  · intro hFirst
    rcases hFirst with ⟨index, hFirst, hValue⟩
    refine ⟨index, ⟨hFirst.here, hValue⟩, ?_⟩
    intro later other hLater hHolds
    have hSame :=
      index_unique hCount hFirst.here hHolds.name
    omega
  · intro hLast
    rcases hLast with ⟨index, hHolds, -⟩
    refine ⟨index, ⟨hHolds.name, ?_⟩, hHolds.value⟩
    intro earlier hEarlier hName
    have hSame := index_unique hCount hName hHolds.name
    omega

/-
  Where a name is there twice, there are values of which the
  record finds the first and its map does not.  They are
  those of a row that ends with the later column of the name
  and holds nothing before it.
-/
theorem exists_get?_ne
    {columns : List String}
    (hCount : 2 ≤ columns.count name) :
    ∃ values,
      (Record.mk columns values).get? name ≠
        (Record.mk columns values).toMap.get? name := by
  have hTwice := List.duplicate_iff_two_le_count.2 hCount
  rcases List.duplicate_iff_exists_distinct_get.1
    hTwice with
    ⟨⟨early, hEarly⟩, ⟨late, hLate⟩, hLess, hName,
      hAlso⟩
  have hOrder : early < late := hLess
  let values :=
    List.replicate late Value.null ++ [.bool true]
  have hLast :
      (Record.mk columns values).HoldsLast name
        (.bool true) := by
    refine ⟨late, ⟨?_, by simp [values]⟩, ?_⟩
    · exact List.getElem?_eq_some_iff.2
        ⟨hLate, hAlso.symm⟩
    · intro later other hLater hHolds
      rcases List.getElem?_eq_some_iff.1 hHolds.value with
        ⟨hLength, -⟩
      simp only [values, List.length_append,
        List.length_replicate, List.length_singleton]
        at hLength
      omega
  refine ⟨values, fun hSame => ?_⟩
  rw [get?_toMap_eq_some_iff.2 hLast, get?_eq_some_iff]
    at hSame
  rcases hSame with ⟨index, hFirst, hValue⟩
  have hIndex : index ≤ early := by
    by_contra hNot
    refine hFirst.before early (by omega) ?_
    exact List.getElem?_eq_some_iff.2
      ⟨hEarly, hName.symm⟩
  have hNull : values[index]? = some .null := by
    have hBefore : index < late := by omega
    simp [values, List.getElem?_append, hBefore]
  rw [hNull] at hValue
  cases hValue

end Lookup

end Record

------------------------------------------------------------
-- Rows
------------------------------------------------------------

namespace ResultSet

variable (columns : List String)
variable (rows : List (List Value))
variable (index : Nat) (name : String)

/-
  In the shape of records, a name of a row is looked up in
  its record.
-/
theorem get?_toRows_record :
    ((ResultSet.mk columns rows).toRows .record).get? index
        name =
      rows[index]?.bind fun values =>
        (Record.mk columns values).get? name := by
  simp only [toRows, Rows.get?, Rows.row?, records,
    List.getElem?_map]
  cases rows[index]? <;> rfl

/-
  In the shape of maps, a name of a row is looked up in its
  map.
-/
theorem get?_toRows_map :
    ((ResultSet.mk columns rows).toRows .map).get? index
        name =
      rows[index]?.bind fun values =>
        (Record.mk columns values).toMap.get? name := by
  simp only [toRows, Rows.get?, Rows.row?, maps, records,
    List.getElem?_map, ← Record.intoMap_eq_toMap]
  cases rows[index]? <;> rfl

/- Both shapes agree on a name that is not there twice. -/
theorem get?_toRows_eq_iff :
    columns.count name ≤ 1 ↔
      ∀ rows index,
        ((ResultSet.mk columns rows).toRows .record).get?
          index
            name =
          ((ResultSet.mk columns rows).toRows .map).get?
            index
            name := by
  simp only [get?_toRows_record, get?_toRows_map]
  constructor
  · intro hCount rows index
    have hEach :
        ∀ values,
          (Record.mk columns values).get? name =
            (Record.mk columns values).toMap.get? name :=
      fun values => Record.get?_eq_get?_toMap hCount
    rw [funext hEach]
  · intro hAgree
    by_contra hCount
    rcases Record.exists_get?_ne
      (Nat.lt_of_not_le hCount) with
      ⟨values, hNot⟩
    exact hNot (hAgree [values] 0)

/-
  A row is the same map whether it is copied or given up.
  What is found in it goes by the columns that have a value:
  the last one of a name counts in a map, and the first one
  in a record, even if it has none.  So records and maps
  have the same value under a name in all rows of all
  results if and only if the name stands for one column at
  most, and under all names if and only if no two columns
  share one.
-/
theorem lookups_agree (columns : List String) :
    (∀ values,
        (Record.mk columns values).toMap =
            (Record.mk columns values).intoMap ∧
          (Record.mk columns values).Finds
            (Record.mk columns values).toMap) ∧
      (∀ name,
        columns.count name ≤ 1 ↔
          ∀ rows index,
            ((ResultSet.mk columns rows).toRows
              .record).get?
                index name =
              ((ResultSet.mk columns rows).toRows .map).get?
                index name) ∧
      (columns.Nodup ↔
        ∀ rows index name,
          ((ResultSet.mk columns rows).toRows .record).get?
              index name =
            ((ResultSet.mk columns rows).toRows .map).get?
              index name) := by
  refine ⟨?_, get?_toRows_eq_iff columns, ?_⟩
  · intro values
    exact ⟨(Record.intoMap_eq_toMap _).symm,
      Record.finds_toMap _⟩
  · rw [List.nodup_iff_count_le_one]
    simp only [get?_toRows_eq_iff]
    constructor
    · intro hEach rows index name
      exact hEach name rows index
    · intro hAll name rows index
      exact hAll rows index name

/-
  A name that stands for two columns: in a long row both
  have a value, and in a short one the first of them only,
  while another name has none.
-/
theorem lookups_agree_sample :
    let columns := ["a", "b", "a"]
    let long : List Value :=
      [.int 1, .int 2, .int 3, .int 4]
    let short : List Value := [.int 5]
    let result : ResultSet := ⟨columns, [long, short]⟩
    (Record.mk columns long).Finds
      [("a", .int 3), ("b", .int 2)] ∧
      (Record.mk columns long).get? "a" = some (.int 1) ∧
      (Record.mk columns short).Finds [("a", .int 5)] ∧
      (Record.mk columns short).get? "b" = none ∧
      (∀ index,
        (result.toRows .record).get? index "b" =
          (result.toRows .map).get? index "b") ∧
      ¬ ∀ rows index name,
        ((ResultSet.mk columns rows).toRows .record).get?
          index
            name =
          ((ResultSet.mk columns rows).toRows .map).get?
            index
            name := by
  intro columns long short result
  rcases lookups_agree columns with
    ⟨hFinds, hName, hAll⟩
  have hLong :
      (Record.mk columns long).toMap =
        [("a", .int 3), ("b", .int 2)] := by
    with_unfolding_all rfl
  have hShort :
      (Record.mk columns short).toMap =
        [("a", .int 5)] := by
    with_unfolding_all rfl
  refine ⟨hLong ▸ (hFinds long).2,
    by with_unfolding_all rfl, hShort ▸ (hFinds short).2,
      by with_unfolding_all rfl, ?_, ?_⟩
  · exact (hName "b").1 (by decide) [long, short]
  · rw [← hAll]
    decide

end ResultSet

end SqlAccess
