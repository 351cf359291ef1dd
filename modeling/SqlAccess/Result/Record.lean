import SqlAccess.Value.Basic

/-
  This file defines single rows: as records, whose values
  stand under column names in order, and as maps, which have
  one value for each name.

  Key definitions include:
    * `RowMap`
    * `RowMap.ofPairs`
    * `RowMap.fill`
    * `ColumnIndex`
    * `ColumnIndex.ofNames`
    * `Record`
    * `Record.position?`
    * `Record.get?`
    * `Record.toMap`
    * `Record.intoMap`
    * `Record.uncons?`
-/

namespace SqlAccess

------------------------------------------------------------
-- Maps
------------------------------------------------------------

/- Names and values, in increasing order of the names. -/
abbrev RowMap :=
  List (String × Value)

namespace RowMap

/-
  Put a value under a name, in place of one that stands
  there already.
-/
def insert
    (name : String)
    (value : Value) : RowMap → RowMap
  | [] => [(name, value)]
  | (other, old) :: rest =>
      if name < other then
        (name, value) :: (other, old) :: rest
      else if name = other then
        (name, value) :: rest
      else
        (other, old) :: insert name value rest

/- A map from pairs; the last value of a name counts. -/
def ofPairs (pairs : List (String × Value)) : RowMap :=
  pairs.foldl (fun map (name, value) =>
    map.insert name value) []

/- Put each value under the name that it stands by. -/
def fill : RowMap → List String → List Value → RowMap
  | map, name :: names, value :: values =>
      fill (map.insert name value) names values
  | map, _, _ => map

/- The value under a name. -/
def get?
    (map : RowMap)
    (name : String) : Option Value :=
  map.lookup name

end RowMap

------------------------------------------------------------
-- Columns
------------------------------------------------------------

/- Names of columns, each with the index of a column. -/
abbrev ColumnIndex :=
  List (String × Nat)

namespace ColumnIndex

/- Put an index under a name, unless one stands there. -/
def insertNew
    (name : String)
    (index : Nat) : ColumnIndex → ColumnIndex
  | [] => [(name, index)]
  | (other, first) :: rest =>
      if other = name then (other, first) :: rest
      else (other, first) :: insertNew name index rest

/-
  The names of columns; the first column of a name counts.
-/
def ofNames (names : List String) : ColumnIndex :=
  names.zipIdx.foldl (fun columns (name, index) =>
    columns.insertNew name index) []

/- The index under a name. -/
def get?
    (columns : ColumnIndex)
    (name : String) : Option Nat :=
  columns.lookup name

end ColumnIndex

------------------------------------------------------------
-- Records
------------------------------------------------------------

/-
  The values of a row and the names of the columns.  A row
  may be shorter or longer than the list of names, and a
  name may stand for several columns.
-/
structure Record where
  columns : List String
  values : List Value

namespace Record

/- A record from names and values in pairs. -/
def ofPairs (pairs : List (String × Value)) : Record :=
  ⟨pairs.map Prod.fst, pairs.map Prod.snd⟩

/- The first column of a name. -/
def position?
    (record : Record)
    (name : String) : Option Nat :=
  (ColumnIndex.ofNames record.columns).get? name

/- The value at an index. -/
def getAt?
    (record : Record)
    (index : Nat) : Option Value :=
  record.values[index]?

/- The value in the first column of a name. -/
def get?
    (record : Record)
    (name : String) : Option Value :=
  (record.position? name).bind record.getAt?

/- The number of values. -/
def size (record : Record) : Nat :=
  record.values.length

/- The values that have a name, with their names. -/
def toPairs (record : Record) : List (String × Value) :=
  record.columns.zip record.values

/- A record as a map. -/
def toMap (record : Record) : RowMap :=
  RowMap.ofPairs record.toPairs

/- A record given up for a map, without pairs in between. -/
def intoMap (record : Record) : RowMap :=
  RowMap.fill [] record.columns record.values

/-
  The first value, and a record of the other ones under
  names that are given for them.
-/
def uncons?
    (record : Record)
    (names : List String) : Option (Value × Record) :=
  match record.values with
  | [] => none
  | first :: rest => some (first, ⟨names, rest⟩)

end Record

end SqlAccess
