import SqlAccess.Pool.Checkout

/-
  This file uses a connection that is held: it runs
  statements under the time limit, keeps account of what
  failures mean for the connection and its replica, and runs
  what is pending before anything else.

  Key definitions include:
    * `Use`
    * `Use.dispatch`
    * `Use.flush`
    * `Use.perform`
    * `Use.ping`
-/

namespace SqlAccess

/-
  Something that is done with a connection of a database.
-/
abbrev Use (σ : Type) :=
  StateT Connection (Act σ)

namespace Use

variable {σ : Type}

------------------------------------------------------------
-- The Connection
------------------------------------------------------------

/- Do something with the database. -/
def onDatabase
    {α : Type}
    (act : Act σ α) : Use σ α :=
  StateT.lift act

/- The database as it is. -/
def database : Use σ (Database σ) :=
  onDatabase get

/- The connection. -/
def connection : Use σ Connection :=
  get

/- Rely on the connection no longer. -/
def spoil : Use σ Unit :=
  modify Connection.spoil

/-
  Rely on the connection no longer, and leave its replica
  alone for a while.
-/
def condemn : Use σ Unit := do
  spoil
  let conn ← connection
  onDatabase (Act.markReplicaDown conn.target)

/- The connection is inside a transaction, or is not. -/
def setInside (inside : Bool) : Use σ Unit :=
  modify fun conn => { conn with inTransaction := inside }

/- Run something before the next statement. -/
def defer (sql : String) : Use σ Unit :=
  modify fun conn =>
    { conn with pending := conn.pending ++ [sql] }

/- Run nothing before the next statement. -/
def forgetPending : Use σ Unit :=
  modify fun conn => { conn with pending := [] }

/-
  What must run before the next statement; it is forgotten.
-/
def takePending : Use σ (List String) :=
  modifyGet fun conn =>
    (conn.pending, { conn with pending := [] })

/- Ask the backend to answer a call on the connection. -/
def ask (call : Call) : Use σ (Reply call.Answer) := do
  let conn ← connection
  onDatabase (Act.ask conn.link call)

------------------------------------------------------------
-- Statements
------------------------------------------------------------

/- A call never ends; nothing more can be done. -/
def neverEnds (sql : String) : Use σ Error := do
  modify fun conn => { conn with unanswered := true }
  return .connection sql "no answer"

/-
  End a call that takes too long: ask the backend to stop it
  if it can, and rely on the connection no longer.
-/
def giveUp
    (sql : String)
    (limit : Duration) : Use σ Error := do
  let db ← database
  if db.backend.cancellable then
    let _ ← ask .cancel
  spoil
  return .statementTimeout sql limit

/- End a call that does not end by itself. -/
def outlast (sql : String) : Use σ Error := do
  let db ← database
  match db.config.statementTimeout with
  | some limit => giveUp sql limit
  | none => neverEnds sql

/-
  Run a statement.  A failure of the connection spoils it; a
  success shows that its replica works.
-/
def dispatch
    (call : Call) : Use σ (Except Error call.Answer) := do
  match ← ask call with
  | .done answer =>
      let conn ← connection
      onDatabase (Act.markReplicaUp conn.target)
      return .ok answer
  | .failed e =>
      if e.spoilsConnection then condemn
      return .error (e.inStatement call.sql)
  | .silent => return .error (← outlast call.sql)

------------------------------------------------------------
-- Pending Statements
------------------------------------------------------------

/- The failure of what had to run before a statement. -/
def flushFailed (e : Error) : Error :=
  .transaction
    ("failed to roll back abandoned savepoint: " ++
      e.message)

/-
  Run statements one after the other.  The first failure
  spoils the connection and ends it.
-/
def flushAll : List String → Use σ (Except Error Unit)
  | [] => return .ok ()
  | sql :: rest => do
      match ← dispatch (.batch sql) with
      | .ok _ => flushAll rest
      | .error e =>
          spoil
          return .error (flushFailed e)

/- Run what is pending. -/
def flush : Use σ (Except Error Unit) := do
  let pending ← takePending
  flushAll pending

/- Run what is pending, and then a statement. -/
def perform
    (call : Call) : Use σ (Except Error call.Answer) := do
  match ← flush with
  | .ok () => dispatch call
  | .error e => return .error e

/- Run text without parameters. -/
def batch (sql : String) : Use σ (Except Error Unit) :=
  perform (.batch sql)

/- Run a statement for its rows. -/
def select
    (statement : Bound) : Use σ (Except Error ResultSet) :=
  perform (.select statement)

/-
  Run a statement for the number of rows that it changes.
-/
def dml (statement : Bound) : Use σ (Except Error Nat) :=
  perform (.dml statement)

/-
  Ask for a sign of life, without a limit and without what
  is pending.
-/
def ping : Use σ (Except Error Unit) := do
  match ← ask .ping with
  | .done () => return .ok ()
  | .failed e =>
      if e.spoilsConnection then condemn
      return .error e
  | .silent => return .error (← neverEnds "")

end Use

end SqlAccess
