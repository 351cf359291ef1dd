import SqlAccess.Error
import SqlAccess.Result.Record
import SqlAccess.Result.RowKey

/-
  This file defines results and the shapes that callers may
  want them in.

  Key definitions include:
    * `ResultSet`
    * `Keyed.update`
    * `Shape`
    * `ShapeFault`
    * `ResultSet.materialize`
    * `RowShape`
    * `Rows`
    * `Rows.get?`
    * `Row`
-/

namespace SqlAccess

------------------------------------------------------------
-- Results
------------------------------------------------------------

/- The names of the columns, and the values of the rows. -/
structure ResultSet where
  columns : List String
  rows : List (List Value)

namespace ResultSet

/- A result without columns and rows. -/
def empty : ResultSet := ⟨[], []⟩

/- The rows as records. -/
def records (result : ResultSet) : List Record :=
  result.rows.map (Record.mk result.columns)

/- The rows as maps. -/
def maps (result : ResultSet) : List RowMap :=
  result.records.map Record.intoMap

/- The number of rows. -/
def size (result : ResultSet) : Nat :=
  result.rows.length

/- The number of columns. -/
def width (result : ResultSet) : Nat :=
  result.columns.length

end ResultSet

------------------------------------------------------------
-- Keyed Rows
------------------------------------------------------------

/-
  Something for each of some keys, in order of appearance.
-/
abbrev Keyed (α : Type) :=
  List (RowKey × α)

namespace Keyed

variable {α : Type}

/-
  Change what stands under a key, or put something there.
-/
def update
    (key : RowKey)
    (change : Option α → α) : Keyed α → Keyed α
  | [] => [(key, change none)]
  | (other, old) :: rest =>
      if other = key then (other, change (some old)) :: rest
      else (other, old) :: update key change rest

/- What stands under a key. -/
def get?
    (keyed : Keyed α)
    (key : RowKey) : Option α :=
  (keyed.find? fun entry => entry.1 = key).map Prod.snd

/- The last of the items of each key. -/
def lastOfEach (pairs : List (RowKey × α)) : Keyed α :=
  pairs.foldl (fun keyed (key, item) =>
    update key (fun _ => item) keyed) []

/- All items of each key, in order. -/
def allOfEach
    (pairs : List (RowKey × α)) :
    Keyed (List α) :=
  pairs.foldl (fun keyed (key, item) =>
    update key (fun old => old.getD [] ++ [item]) keyed) []

end Keyed

------------------------------------------------------------
-- Shapes
------------------------------------------------------------

/-
  The shape of a whole result: records, maps, the values of
  a single column, the last row under each value of the
  first column, or all of them.
-/
inductive Shape
  | records
  | maps
  | column
  | dictionary
  | groups
deriving DecidableEq, Repr

/- A result in a shape. -/
inductive Materialized
  | records (rows : List Record)
  | maps (rows : List RowMap)
  | column (values : List Value)
  | dictionary (rows : Keyed Record)
  | groups (rows : Keyed (List Record))

/- Why a result does not fit a shape. -/
inductive ShapeFault
  | notOneColumn (width : Nat)
  | noValueColumn (width : Nat)
deriving DecidableEq, Repr

namespace ShapeFault

/- The text of a shape fault. -/
def message : ShapeFault → String
  | notOneColumn width =>
      "column shape needs exactly one column, result has " ++
        toString width
  | noValueColumn width =>
      "keyed shapes need a key column and at least one " ++
        "value column, result has " ++ toString width

/- A shape fault as a failure of no statement yet. -/
def toError (fault : ShapeFault) : Error :=
  .resultShape "" fault.message

end ShapeFault

namespace ResultSet

/- The values of a single column. -/
def column
    (result : ResultSet) : Except ShapeFault (List Value) :=
  if result.width = 1 then
    .ok (result.rows.filterMap List.head?)
  else
    .error (.notOneColumn result.width)

/-
  The rows that have a value, each under the key of its
  first value.
-/
def keyedRows
    (result : ResultSet) :
    Except ShapeFault (List (RowKey × Record)) :=
  if result.width < 2 then
    .error (.noValueColumn result.width)
  else
    let names := result.columns.tail
    let split := result.records.filterMap fun record =>
      record.uncons? names
    .ok <| split.map fun (first, rest) =>
      (RowKey.ofValue first, rest)

/- The last row of each key. -/
def dictionary
    (result : ResultSet) :
    Except ShapeFault (Keyed Record) :=
  result.keyedRows.map Keyed.lastOfEach

/- All rows of each key. -/
def groups
    (result : ResultSet) :
    Except ShapeFault (Keyed (List Record)) :=
  result.keyedRows.map Keyed.allOfEach

/- A result in a shape. -/
def materialize
    (result : ResultSet) :
    Shape → Except ShapeFault Materialized
  | .records => .ok (.records result.records)
  | .maps => .ok (.maps result.maps)
  | .column => result.column.map .column
  | .dictionary => result.dictionary.map .dictionary
  | .groups => result.groups.map .groups

end ResultSet

------------------------------------------------------------
-- Rows
------------------------------------------------------------

/- The shape of single rows. -/
inductive RowShape
  | record
  | map
deriving DecidableEq, Repr, Inhabited

/- The shape of a result of such rows. -/
def RowShape.toShape : RowShape → Shape
  | record => .records
  | map => .maps

/- A single row. -/
inductive Row
  | record (r : Record)
  | map (m : RowMap)

/- The value of a column in a row. -/
def Row.get?
    (row : Row)
    (column : String) : Option Value :=
  match row with
  | record r => r.get? column
  | map m => m.get? column

/- All rows of a result. -/
inductive Rows
  | records (rows : List Record)
  | maps (rows : List RowMap)

namespace Rows

/- The number of rows. -/
def size : Rows → Nat
  | records rows => rows.length
  | maps rows => rows.length

/- The row at an index. -/
def row? (rows : Rows) (index : Nat) : Option Row :=
  match rows with
  | records rows => rows[index]?.map .record
  | maps rows => rows[index]?.map .map

/- The value of a column in the row at an index. -/
def get?
    (rows : Rows)
    (index : Nat)
    (column : String) : Option Value :=
  (rows.row? index).bind fun row => row.get? column

/- The first row. -/
def first? (rows : Rows) : Option Row :=
  rows.row? 0

/- All rows as maps. -/
def toMaps : Rows → List RowMap
  | records rows => rows.map Record.intoMap
  | maps rows => rows

end Rows

/- The rows of a result, in the shape of rows. -/
def ResultSet.toRows
    (result : ResultSet) : RowShape → Rows
  | .record => .records result.records
  | .map => .maps result.maps

end SqlAccess
