import SqlAccess.Binding.Marker
import SqlAccess.Error
import SqlAccess.Result.Shape
import SqlAccess.Routing.Route

/-
  This file defines the settings of a database: where its
  primary and replicas are, how many connections each may
  have, and how long anything may take.

  Key definitions include:
    * `BackendKind`
    * `Retry`
    * `Config`
    * `Config.new`
    * `Config.validate`
    * `Config.Setting`
    * `Config.apply`
-/

namespace SqlAccess

------------------------------------------------------------
-- Kinds of Backends
------------------------------------------------------------

/- The database systems with a backend of their own. -/
inductive BackendKind
  | postgres
  | sqlite
deriving DecidableEq, Repr

namespace BackendKind

/- The markers that a system wants. -/
def style : BackendKind → MarkerStyle
  | postgres => .dollar
  | sqlite => .numbered

/- The word for a system. -/
def text : BackendKind → String
  | postgres => "postgres"
  | sqlite => "sqlite"

/- A system as it is shown for debugging. -/
def describe : BackendKind → String
  | postgres => "Postgres"
  | sqlite => "Sqlite"

/- The system of a word. -/
def ofText? (word : String) : Option BackendKind :=
  [postgres, sqlite].find? fun kind => kind.text = word

/- The system of a word in letters of any case. -/
def ofAnyCase? (word : String) : Option BackendKind :=
  ofText? (String.ofList (word.toList.map Char.toLower))

end BackendKind

------------------------------------------------------------
-- Settings
------------------------------------------------------------

/- How often a read is tried on another connection. -/
inductive Retry
  | never
  | once
deriving DecidableEq, Repr, Inhabited

/-
  The settings of a database.  Lengths of time are in whole
  milliseconds, and the number of connections is that of
  each place.
-/
structure Config where
  kind : BackendKind
  primary : String
  replicas : List String
  maxConnections : Nat
  defaultShape : RowShape
  checkoutMillis : Nat
  statementMillis : Option Nat
  connectMillis : Nat
  balancing : Balancing
  cooldownMillis : Nat
  readRetry : Retry
  emptyList : EmptyList
deriving DecidableEq, Repr

namespace Config

/- The settings of a primary where nothing else is said. -/
def new
    (kind : BackendKind)
    (primary : String) : Config :=
  { kind := kind
    primary := primary
    replicas := []
    maxConnections := 10
    defaultShape := .record
    checkoutMillis := 5000
    statementMillis := none
    connectMillis := 10000
    balancing := .roundRobin
    cooldownMillis := 30000
    readRetry := .once
    emptyList := .reject }

/- How long to wait for a connection of a full pool. -/
def checkoutTimeout (config : Config) : Duration :=
  .ofMillis config.checkoutMillis

/- How long a statement may take, if there is a limit. -/
def statementTimeout (config : Config) : Option Duration :=
  config.statementMillis.map .ofMillis

/- How long it may take to open a connection. -/
def connectTimeout (config : Config) : Duration :=
  .ofMillis config.connectMillis

/- How long a replica is left alone after a failure. -/
def replicaCooldown (config : Config) : Duration :=
  .ofMillis config.cooldownMillis

------------------------------------------------------------
-- Validation
------------------------------------------------------------

/- Why settings cannot be used. -/
inductive Fault
  | noConnections
  | blankPrimary
  | blankReplica (index : Nat)
deriving DecidableEq, Repr

namespace Fault

/- The text of a fault. -/
def message : Fault → String
  | noConnections => "max_connections must be at least 1"
  | blankPrimary => "primary target is empty"
  | blankReplica index =>
      "replica #" ++ toString index ++ " target is empty"

/- A fault as a failure. -/
def toError (fault : Fault) : Error :=
  .config fault.message

end Fault

/- The first thing that keeps settings from being used. -/
def validate (config : Config) : Except Fault Unit :=
  if config.maxConnections = 0 then .error .noConnections
  else if Blank.isBlankText config.primary then
    .error .blankPrimary
  else
    match config.replicas.findIdx? Blank.isBlankText with
    | some index => .error (.blankReplica index)
    | none => .ok ()

------------------------------------------------------------
-- Changes
------------------------------------------------------------

/- A change of one setting. -/
inductive Setting
  | replica (target : String)
  | replicas (targets : List String)
  | maxConnections (count : Nat)
  | defaultShape (shape : RowShape)
  | checkoutTimeout (limit : Duration)
  | statementTimeout (limit : Duration)
  | connectTimeout (limit : Duration)
  | balancing (policy : Balancing)
  | replicaCooldown (pause : Duration)
  | readRetry (retry : Retry)
  | emptyList (policy : EmptyList)

/-
  Change one setting.  Replicas are added to those before.
-/
def apply (config : Config) : Setting → Config
  | .replica target =>
      { config with
        replicas := config.replicas ++ [target] }
  | .replicas targets =>
      { config with replicas := config.replicas ++ targets }
  | .maxConnections count =>
      { config with maxConnections := count }
  | .defaultShape shape =>
      { config with defaultShape := shape }
  | .checkoutTimeout limit =>
      { config with checkoutMillis := limit.toMillis }
  | .statementTimeout limit =>
      { config with statementMillis := some limit.toMillis }
  | .connectTimeout limit =>
      { config with connectMillis := limit.toMillis }
  | .balancing policy =>
      { config with balancing := policy }
  | .replicaCooldown pause =>
      { config with cooldownMillis := pause.toMillis }
  | .readRetry retry => { config with readRetry := retry }
  | .emptyList policy => { config with emptyList := policy }

end Config

end SqlAccess
