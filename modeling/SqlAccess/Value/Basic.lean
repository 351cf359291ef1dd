import SqlAccess.Json.Printer
import SqlAccess.Time.Timestamp
import SqlAccess.Time.TimestampReader

/-
  This file defines the values that are bound to statements
  and come back in rows, what can be asked of them, and
  their form in error messages.

  Key definitions include:
    * `Value`
    * `Value.kindText`
    * `Value.asBool?`
    * `Value.asTimestamp?`
    * `Value.same`
    * `Value.inspect`
    * `Value.ofUnsigned?`
-/

namespace SqlAccess

/- A value of a column or of a parameter. -/
inductive Value
  | null
  | int (i : Int64)
  | float (x : Binary64)
  | text (s : String)
  | bool (b : Bool)
  | timestamp (t : Timestamp)
  | json (document : Json)
  | blob (bytes : List UInt8)
deriving Inhabited

namespace Value

------------------------------------------------------------
-- Questions
------------------------------------------------------------

/- The name of the type of a value. -/
def kindText : Value → String
  | null => "null"
  | int _ => "integer"
  | float _ => "float"
  | text _ => "text"
  | bool _ => "boolean"
  | timestamp _ => "timestamp"
  | json _ => "json"
  | blob _ => "blob"

/- Whether a value is null. -/
def isNull : Value → Bool
  | null => true
  | _ => false

/- The integer of an integer value. -/
def asInt? : Value → Option Int64
  | int i => some i
  | _ => none

/- The number of a float value. -/
def asFloat? : Value → Option Binary64
  | float x => some x
  | _ => none

/- The text of a text value. -/
def asText? : Value → Option String
  | text s => some s
  | _ => none

/- A truth value; the integers 0 and 1 are some. -/
def asBool? : Value → Option Bool
  | bool b => some b
  | int i =>
      if i = 1 then some true
      else if i = 0 then some false
      else none
  | _ => none

/- A timestamp; a text may be one. -/
def asTimestamp? : Value → Option Timestamp
  | timestamp t => some t
  | text s => Timestamp.ofText? s
  | _ => none

/- The bytes of a blob. -/
def asBlob? : Value → Option (List UInt8)
  | blob bytes => some bytes
  | _ => none

/-
  Equality of values: of the same type, and floats compared
  as numbers.
-/
def same : Value → Value → Bool
  | null, null => true
  | int i, int j => i == j
  | float x, float y => x.numericEq y
  | text s, text t => s == t
  | bool a, bool b => a == b
  | timestamp s, timestamp t => s == t
  | json d, json e => d.same e
  | blob xs, blob ys => xs == ys
  | _, _ => false

------------------------------------------------------------
-- Text of Numbers and Inspection
------------------------------------------------------------

/- A float as text: never an exponent, no idle point. -/
def floatText : Decimal.Layout :=
  { window := none
    keepsPoint := false
    plusSign := false
    ties := .upward }

/-
  A float in a message: always a point or an exponent, which
  begins at ten to the sixteenth and below ten to the minus
  fourth.
-/
def floatInspect : Decimal.Layout :=
  { window := some (-4, 16)
    keepsPoint := true
    plusSign := false
    ties := .upward }

/- A list of byte values. -/
def bytesText (bytes : List UInt8) : String :=
  "[" ++
    ", ".intercalate
      (bytes.map fun b => toString b.toNat) ++
    "]"

/- A value with its kind, as messages show it. -/
def inspect : Value → String
  | null => "Null"
  | int i => "Int(" ++ toString i.toInt ++ ")"
  | float x => "Float(" ++ floatInspect.render x ++ ")"
  | text s => "Text(" ++ Quoted.quote s ++ ")"
  | bool b => "Bool(" ++ toString b ++ ")"
  | timestamp t => "Timestamp(" ++ t.inspect ++ ")"
  | json document => "JSON(" ++ document.inspect ++ ")"
  | blob bytes => "Blob(" ++ bytesText bytes ++ ")"

------------------------------------------------------------
-- Construction
------------------------------------------------------------

/- Why a number does not fit a narrower type. -/
inductive RangeFault
  | tooLarge
  | tooSmall
deriving DecidableEq, Repr

/- The text of a range fault. -/
def RangeFault.message : RangeFault → String
  | tooLarge => "number too large to fit in target type"
  | tooSmall => "number too small to fit in target type"

/- An integer value from a whole number of 64 bits. -/
def ofInt (i : Int) : Value :=
  int (Int64.ofInt i)

/- An integer value from a number without a sign. -/
def ofUnsigned? (n : UInt64) : Except RangeFault Value :=
  if n.toNat < Nat.pow 2 63 then .ok (ofInt n.toNat)
  else .error .tooLarge

/- A value that may be missing; what is missing is null. -/
def ofOption : Option Value → Value
  | some v => v
  | none => null

end Value

end SqlAccess
