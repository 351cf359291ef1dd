import SqlAccess.Backend.Basic
import SqlAccess.Routing.Target

/-
  This file defines connections as the library keeps them.

  Key definitions include:
    * `Connection`
    * `Connection.isUsable`
    * `Connection.describe`
-/

namespace SqlAccess

/-
  A connection: where it leads, whether it can still be
  relied on, whether it is inside a transaction, what must
  run before the next statement, how many savepoints it had,
  and whether a call on it is never going to end.
  Savepoints are counted without a bound.  A machine word
  does the same, as a connection has no time for so many.
-/
structure Connection where
  link : Link
  target : Target
  healthy : Bool
  inTransaction : Bool
  pending : List String
  savepoints : Nat
  unanswered : Bool
deriving DecidableEq, Repr

namespace Connection

/- A connection that was just opened. -/
def new
    (link : Link)
    (target : Target) : Connection :=
  { link := link
    target := target
    healthy := true
    inTransaction := false
    pending := []
    savepoints := 0
    unanswered := false }

/- The kind of place that a connection leads to. -/
def role (conn : Connection) : Role :=
  conn.target.role

/- Whether a connection may be given to another user. -/
def isUsable (conn : Connection) : Bool :=
  conn.healthy && !conn.inTransaction

/- Rely on a connection no longer. -/
def spoil (conn : Connection) : Connection :=
  { conn with healthy := false }

/- A connection as it is shown for debugging. -/
def describe (conn : Connection) : String :=
  "PooledConnection \x7b connection: ManagedConnection \x7b " ++
    "target: " ++ conn.target.describe ++
    ", healthy: " ++ toString conn.healthy ++
    ", in_transaction: " ++ toString conn.inTransaction ++
    ", pending: " ++ toString conn.pending.length ++
    ", .. \x7d, .. \x7d"

end Connection

end SqlAccess
