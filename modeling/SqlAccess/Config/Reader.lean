import SqlAccess.Config.Basic
import SqlAccess.Json.Printer

/-
  This file reads settings from JSON documents.  The members
  of an object are read in the order of their names, and the
  first one that cannot be read decides the failure.  A list
  holds the settings in a fixed order.

  Key definitions include:
    * `Config.ReadFault`
    * `Config.ReadFault.message`
    * `Config.Draft`
    * `Config.ofJson?`
-/

namespace SqlAccess

namespace Config

------------------------------------------------------------
-- Faults
------------------------------------------------------------

/- Why a document is not read. -/
inductive ReadFault
  | missing (field : String)
  | unknownWord (word : String) (known : List String)
  | wrongType (found : Json) (expected : String)
  | wrongValue (found : Json) (expected : String)
  | wrongLength (found : Nat) (expected : String)

namespace ReadFault

/- A part of a document, as it is named in a message. -/
def describe : Json → String
  | .null => "null"
  | .bool b => "boolean \x60" ++ toString b ++ "\x60"
  | .number (.float x) =>
      "floating point \x60" ++ (Json.Number.float x).text ++
        "\x60"
  | .number n => "integer \x60" ++ n.text ++ "\x60"
  | .string s => "string " ++ Quoted.quote s
  | .array _ => "sequence"
  | .object _ => "map"

/- A word between the marks of code. -/
def marked (word : String) : String :=
  "\x60" ++ word ++ "\x60"

/- The text of a fault. -/
def message : ReadFault → String
  | missing field => "missing field " ++ marked field
  | unknownWord word known =>
      "unknown variant " ++ marked word ++ ", expected " ++
        " or ".intercalate (known.map marked)
  | wrongType found expected =>
      "invalid type: " ++ describe found ++ ", expected " ++
        expected
  | wrongValue found expected =>
      "invalid value: " ++ describe found ++
        ", expected " ++
        expected
  | wrongLength found expected =>
      "invalid length " ++ toString found ++
        ", expected " ++
        expected

end ReadFault

------------------------------------------------------------
-- Parts
------------------------------------------------------------

/- A string. -/
def readString : Json → Except ReadFault String
  | .string s => .ok s
  | other => .error (.wrongType other "a string")

/- A list of strings. -/
def readStrings : Json → Except ReadFault (List String)
  | .array items => items.mapM readString
  | other => .error (.wrongType other "a sequence")

/- A whole number without a sign, of the given kind. -/
def readNatural
    (expected : String) : Json → Except ReadFault Nat
  | .number (.natural n) => .ok n.toNat
  | .number (.negative n) =>
      .error (.wrongValue (.number (.negative n)) expected)
  | other => .error (.wrongType other expected)

/- A number of milliseconds. -/
def readMillis : Json → Except ReadFault Nat :=
  readNatural "u64"

/- A number of milliseconds, or null for none. -/
def readMillis? : Json → Except ReadFault (Option Nat)
  | .null => .ok none
  | other => (readMillis other).map some

/- The thing that a word names. -/
def chooseWord
    {α : Type}
    (choices : List (String × α))
    (word : String) : Except ReadFault α :=
  match choices.lookup word with
  | some choice => .ok choice
  | none =>
      .error (.unknownWord word (choices.map Prod.fst))

/-
  A word, or an object with that word as its only name and
  nothing under it.
-/
def readWord
    {α : Type}
    (choices : List (String × α)) :
    Json → Except ReadFault α
  | .string word => chooseWord choices word
  | .object [(word, value)] => do
      let choice ← chooseWord choices word
      match value with
      | .null => return choice
      | other => throw (.wrongType other "unit")
  | .object members =>
      .error <|
        .wrongValue (.object members)
          "map with a single key"
  | other => .error (.wrongType other "string or map")

/- The words for systems. -/
def kindWords : List (String × BackendKind) :=
  [("postgres", .postgres), ("sqlite", .sqlite)]

/- The words for shapes of rows. -/
def shapeWords : List (String × RowShape) :=
  [("record", .record), ("map", .map)]

/- The words for ways to choose replicas. -/
def balancingWords : List (String × Balancing) :=
  [ ("round_robin", .roundRobin),
    ("least_recently_used", .leastRecentlyUsed) ]

/- The words for ways to try again. -/
def retryWords : List (String × Retry) :=
  [("never", .never), ("once", .once)]

/- The words for ways to treat lists without values. -/
def emptyListWords : List (String × EmptyList) :=
  [("reject", .reject), ("always_false", .alwaysFalse)]

------------------------------------------------------------
-- Documents
------------------------------------------------------------

/-
  What has been read so far.  Only the kind and the primary
  must be there in the end.
-/
structure Draft where
  kind : Option BackendKind
  primary : Option String
  rest : Config

namespace Draft

/- Nothing read. -/
def empty : Draft :=
  ⟨none, none, Config.new .sqlite ""⟩

/-
  Read one member.  Members of other names do not matter.
-/
def set
    (draft : Draft)
    (name : String)
    (value : Json) : Except ReadFault Draft := do
  match name with
  | "driver" =>
      return { draft with
        kind := ← readWord kindWords value }
  | "primary" =>
      return { draft with primary := ← readString value }
  | "replicas" =>
      let targets ← readStrings value
      return { draft with rest.replicas := targets }
  | "max_connections" =>
      let count ← readNatural "usize" value
      return { draft with rest.maxConnections := count }
  | "default_shape" =>
      let shape ← readWord shapeWords value
      return { draft with rest.defaultShape := shape }
  | "checkout_timeout_ms" =>
      let millis ← readMillis value
      return { draft with rest.checkoutMillis := millis }
  | "statement_timeout_ms" =>
      let millis ← readMillis? value
      return { draft with rest.statementMillis := millis }
  | "connect_timeout_ms" =>
      let millis ← readMillis value
      return { draft with rest.connectMillis := millis }
  | "replica_policy" =>
      let policy ← readWord balancingWords value
      return { draft with rest.balancing := policy }
  | "replica_cooldown_ms" =>
      let millis ← readMillis value
      return { draft with rest.cooldownMillis := millis }
  | "read_retry" =>
      let retry ← readWord retryWords value
      return { draft with rest.readRetry := retry }
  | "empty_list" =>
      let policy ← readWord emptyListWords value
      return { draft with rest.emptyList := policy }
  | _ => return draft

/- Read several members, one after the other. -/
def setAll
    (draft : Draft)
    (members : List (String × Json)) :
    Except ReadFault Draft :=
  members.foldlM (fun draft (name, value) =>
    draft.set name value) draft

/-
  The settings that were read; the faults are for a missing
  kind and a missing primary.
-/
def finish
    (draft : Draft)
    (noKind noPrimary : ReadFault) :
    Except ReadFault Config :=
  match draft.kind, draft.primary with
  | some kind, some primary =>
      .ok { draft.rest with
        kind := kind, primary := primary }
  | none, _ => .error noKind
  | some _, none => .error noPrimary

end Draft

/- The names of the settings, in the order of lists. -/
def fieldNames : List String :=
  [ "driver", "primary", "replicas", "max_connections",
    "default_shape", "checkout_timeout_ms",
    "statement_timeout_ms", "connect_timeout_ms",
    "replica_policy", "replica_cooldown_ms", "read_retry",
    "empty_list" ]

/- The word for settings in messages. -/
def typeText : String :=
  "struct DatabaseConfig"

/- Settings from a list. -/
def ofItems?
    (items : List Json) :
    Except ReadFault Config := do
  let draft ← Draft.empty.setAll (fieldNames.zip items)
  let short (found : Nat) : ReadFault :=
    .wrongLength found (typeText ++ " with 12 elements")
  let config ← draft.finish (short 0) (short 1)
  if fieldNames.length < items.length then
    throw (.wrongLength items.length
      "fewer elements in array")
  return config

/- Settings from a document. -/
def ofJson? : Json → Except ReadFault Config
  | .object members => do
      let draft ← Draft.empty.setAll members
      draft.finish (.missing "driver") (.missing "primary")
  | .array items => ofItems? items
  | other => .error (.wrongType other typeText)

end Config

end SqlAccess
