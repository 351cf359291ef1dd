import SqlAccess.Value.Basic

/-
  This file defines what a value is as the key of a row.
  Floats are told apart by their bits, and JSON documents by
  their text.

  Key definitions include:
    * `RowKey`
    * `RowKey.ofValue`
-/

namespace SqlAccess

/- A key. -/
inductive RowKey
  | null
  | int (i : Int64)
  | float (bits : UInt64)
  | text (s : String)
  | bool (b : Bool)
  | timestamp (t : Timestamp)
  | json (text : String)
  | blob (bytes : List UInt8)
deriving DecidableEq

/- The key of a value. -/
def RowKey.ofValue : Value → RowKey
  | .null => null
  | .int i => int i
  | .float x => float x.bits
  | .text s => text s
  | .bool b => bool b
  | .timestamp t => timestamp t
  | .json document => json document.text
  | .blob bytes => blob bytes

end SqlAccess
