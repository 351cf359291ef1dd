import SqlAccess.Error
import SqlAccess.Result.Shape

/-
  This file defines what SQLite stores values as, and tables
  that keep values as they are stored.

  Key definitions include:
    * `Stored`
    * `Stored.ofValue`
    * `Stored.toValue`
    * `Stored.kept`
    * `Table`
    * `Table.insert`
    * `Table.all`
-/

namespace SqlAccess

------------------------------------------------------------
-- Stored Values
------------------------------------------------------------

/- A value in one of the storage classes. -/
inductive Stored
  | null
  | integer (i : Int64)
  | real (x : Binary64)
  | text (s : String)
  | blob (bytes : List UInt8)

namespace Stored

/-
  The storage class of a value.  Timestamps and documents
  are text, and truth values are integers.
-/
def ofValue : Value → Stored
  | .null => null
  | .int i => integer i
  | .float x => real x
  | .text s => text s
  | .bool b => integer (if b then 1 else 0)
  | .timestamp t => text t.text
  | .json document => text document.text
  | .blob bytes => blob bytes

/- What a stored value comes back as. -/
def toValue : Stored → Value
  | null => .null
  | integer i => .int i
  | real x => .float x
  | text s => .text s
  | blob bytes => .blob bytes

/- A value as it is kept.  What is not a number is null. -/
def kept : Stored → Stored
  | real x => if x.isNaN then null else real x
  | other => other

/- What a value that is handed over comes back as. -/
def roundTrip (value : Value) : Value :=
  (ofValue value).kept.toValue

end Stored

------------------------------------------------------------
-- Tables
------------------------------------------------------------

/-
  The failure of a statement with too few or many values.
-/
def wrongParameterCount
    (sql : String)
    (given needed : Nat) : Error :=
  .query sql
    ("Wrong number of parameters passed to query. Got " ++
      toString given ++ ", needed " ++ toString needed)

/- A table of columns without types. -/
structure Table where
  columns : List String
  rows : List (List Stored)

namespace Table

/- A table without rows. -/
def create (columns : List String) : Table :=
  ⟨columns, []⟩

/- The statement that inserts one row. -/
def insertSql (table : Table) : String :=
  let markers :=
    (List.range' 1 table.columns.length).map fun number =>
      "?" ++ toString number
  "INSERT INTO t VALUES (" ++
    ", ".intercalate markers ++ ")"

/- Insert a row, which must have a value for each column. -/
def insert
    (table : Table)
    (values : List Value) : Except Error Table :=
  let needed := table.columns.length
  if values.length = needed then
    let row := values.map fun value =>
      (Stored.ofValue value).kept
    .ok { table with rows := table.rows ++ [row] }
  else
    .error <|
      wrongParameterCount table.insertSql values.length
        needed

/-
  Insert rows one after the other.  A row that cannot be
  inserted leaves the table as it is.
-/
def insertAll
    (table : Table) :
    List (List Value) → List (Except Error Unit) × Table
  | [] => ([], table)
  | values :: rest =>
      match table.insert values with
      | .ok grown =>
          let (answers, last) := insertAll grown rest
          (.ok () :: answers, last)
      | .error e =>
          let (answers, last) := insertAll table rest
          (.error e :: answers, last)

/- All rows, in the order in which they were inserted. -/
def all (table : Table) : ResultSet :=
  ⟨table.columns,
    table.rows.map fun row => row.map Stored.toValue⟩

end Table

end SqlAccess
