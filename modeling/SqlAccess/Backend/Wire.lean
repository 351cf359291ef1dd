import SqlAccess.Value.Basic

/-
  This file writes values as binary parameters of
  PostgreSQL.  The type of a parameter selects how wide
  whole numbers and floating-point numbers are, and marks
  binary documents; apart from that a value is written in
  the format of its own type.

  Key definitions include:
    * `Wire.Kind`
    * `Wire.Kind.ofName?`
    * `Wire.bigEndian`
    * `Wire.EncodeFault`
    * `Wire.encode`
-/

namespace SqlAccess

namespace Wire

------------------------------------------------------------
-- Types of Parameters
------------------------------------------------------------

/- The types that values are written for. -/
inductive Kind
  | int2
  | int4
  | int8
  | float4
  | float8
  | text
  | varchar
  | bpchar
  | name
  | bool
  | timestamp
  | json
  | jsonb
  | bytea
deriving DecidableEq, Repr

namespace Kind

/-
  All types, with the names that the server has for them.
-/
def names : List (String × Kind) :=
  [ ("int2", int2), ("int4", int4), ("int8", int8),
    ("float4", float4), ("float8", float8), ("text", text),
    ("varchar", varchar), ("bpchar", bpchar),
      ("name", name),
    ("bool", bool), ("timestamp", timestamp),
      ("json", json),
    ("jsonb", jsonb), ("bytea", bytea) ]

/- The type of a name. -/
def ofName? (kindText : String) : Option Kind :=
  names.lookup kindText

end Kind

------------------------------------------------------------
-- Bytes
------------------------------------------------------------

/- The bytes of a number, the most significant one first. -/
def bigEndian : Nat → Nat → List UInt8
  | 0, _ => []
  | width + 1, n =>
      bigEndian width (n / 256) ++ [UInt8.ofNat (n % 256)]

/- A whole number in two's complement of so many bytes. -/
def signedBytes
    (width : Nat)
    (i : Int) : List UInt8 :=
  bigEndian width (i % Nat.pow 2 (8 * width)).toNat

/- The bytes of a text. -/
def textBytes (s : String) : List UInt8 :=
  s.toUTF8.toList

/- A whole number that must fit so many bytes. -/
def fittingBytes
    (width : Nat)
    (i : Int) : Except Value.RangeFault (List UInt8) :=
  let bound : Int := Nat.pow 2 (8 * width - 1)
  if bound ≤ i then .error .tooLarge
  else if i < -bound then .error .tooSmall
  else .ok (signedBytes width i)

------------------------------------------------------------
-- Values
------------------------------------------------------------

/- The bytes of an integer. -/
def intBytes
    (kind : Kind)
    (i : Int64) : Except Value.RangeFault (List UInt8) :=
  match kind with
  | .int2 => fittingBytes 2 i.toInt
  | .int4 => fittingBytes 4 i.toInt
  | _ => .ok (signedBytes 8 i.toInt)

/- The bytes of a float. -/
def floatBytes
    (kind : Kind)
    (x : Binary64) : List UInt8 :=
  match kind with
  | .float4 => bigEndian 4 x.toSingleBits.toNat
  | _ => bigEndian 8 x.bits.toNat

/- The bytes of a document; binary ones begin with a one. -/
def jsonBytes
    (kind : Kind)
    (document : Json) : List UInt8 :=
  match kind with
  | .jsonb => 1 :: textBytes document.text
  | _ => textBytes document.text

/- The bytes of a value; null has none. -/
def valueBytes
    (kind : Kind) :
    Value → Except Value.RangeFault (Option (List UInt8))
  | .null => .ok none
  | .int i => (intBytes kind i).map some
  | .float x => .ok (some (floatBytes kind x))
  | .text s => .ok (some (textBytes s))
  | .bool b => .ok (some [if b then 1 else 0])
  | .timestamp t =>
      .ok (some (signedBytes 8 t.microsSince2000))
  | .json document => .ok (some (jsonBytes kind document))
  | .blob bytes => .ok (some bytes)

/- Why a value is not written. -/
inductive EncodeFault
  | wrongType (kindText : String)
  | range (fault : Value.RangeFault)
deriving DecidableEq, Repr

/- The text of an encode fault. -/
def EncodeFault.message : EncodeFault → String
  | wrongType kindText =>
      "cannot convert between the Rust type " ++
        "\x60sqlweave::types::RowValues\x60 and the " ++
        "Postgres type \x60" ++ kindText ++ "\x60"
  | range fault => fault.message

/- The bytes of a value for a type of the given name. -/
def encode
    (kindText : String)
    (value : Value) :
    Except EncodeFault (Option (List UInt8)) :=
  match Kind.ofName? kindText with
  | some kind => (valueBytes kind value).mapError .range
  | none => .error (.wrongType kindText)

end Wire

end SqlAccess
