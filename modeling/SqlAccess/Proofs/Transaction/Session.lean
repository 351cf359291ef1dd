import SqlAccess.Proofs.Pool.Exchange
import SqlAccess.Query.Basic

/-
  This file follows a client through a transaction.  The
  client uses the innermost scope: it runs statements in it,
  begins another scope inside of it, or ends it.  What the
  library asks of the backend on the way, and how the scopes
  come and go, is a timeline.

  Key definitions include:
    * `Session.Statement`
    * `Session.Ending`
    * `Session.Move`
    * `Session.Item`
    * `Session.step`
    * `Session.play`
    * `Transaction.timeline`
-/

namespace SqlAccess

/-
  A transaction with the scopes in it, the innermost first.
-/
structure Session where
  root : Transaction
  nested : List Scope

namespace Session

variable {σ : Type}

------------------------------------------------------------
-- What a Client Does
------------------------------------------------------------

/- A statement that a client runs in a scope. -/
inductive Statement
  | select (intent : Intent) (statement : Bound)
  | dml (statement : Bound)
  | batch (sql : String)

namespace Statement

/- The call that a statement asks for. -/
def call : Statement → Call
  | select _ statement => .select statement
  | dml statement => .dml statement
  | batch sql => .batch sql

/- Run a statement in a scope; tell whether it succeeded. -/
def run (scope : Scope) : Statement → Use σ Bool
  | select intent statement => do
      return (← scope.executor.select intent
        statement).isOk
  | dml statement => do
      return (← scope.executor.dml statement).isOk
  | batch sql => do
      return (← scope.executor.batch sql).isOk

end Statement

/-
  How a scope ends.  A transaction that is dropped idle is
  dropped where nothing can be run any more.
-/
inductive Ending
  | commit
  | rollback
  | drop (idle : Bool)
deriving DecidableEq, Repr

/- Whether a scope is left without an end. -/
def Ending.isDrop : Ending → Bool
  | drop _ => true
  | _ => false

/- What a client does next in the innermost scope. -/
inductive Move
  | run (statement : Statement)
  | begin
  | finish (ending : Ending)

------------------------------------------------------------
-- Timelines
------------------------------------------------------------

/-
  A call on the connection with its number and its fate, or
  a nested scope that begins or ends, or the end of the
  whole transaction.  An end has succeeded or not.
-/
inductive Item
  | called (number : Nat) (call : Call) (fate : Fate)
  | begun (name : String)
  | ended (name : String) (ending : Ending) (ok : Bool)
  | closed (ending : Ending) (ok : Bool)

/- Calls with their fates, numbered from a number on. -/
def numbered
    (number : Nat) : List (Call × Fate) → List Item
  | [] => []
  | (call, fate) :: rest =>
      .called number call fate :: numbered (number + 1) rest

/-
  The calls on a connection between two states of a
  database, numbered by the calls and other events before
  them.
-/
def callsSince
    (before after : Database σ)
    (id : Nat) : List Item :=
  let events := after.history.take
    (after.history.length - before.history.length)
  numbered before.history.length
    (events.reverse.filterMap (Event.callOn? id))

------------------------------------------------------------
-- Steps
------------------------------------------------------------

/- The connection of a session. -/
def conn (session : Session) : Connection :=
  session.root.conn

/- A session whose connection has changed. -/
def withConn
    (session : Session)
    (conn : Connection) : Session :=
  { session with
    root := { session.root with conn := conn } }

/- The innermost scope. -/
def scope (session : Session) : Scope :=
  session.nested.head?.getD session.root.scope

/- The name of the savepoint of a nested scope. -/
def nameOf (scope : Scope) : String :=
  scope.savepoint.getD ""

/- End a nested scope; tell whether that succeeded. -/
def endNested (scope : Scope) : Ending → Use σ Bool
  | .commit => do
      let (result, _) ← scope.commit
      return result.isOk
  | .rollback => do
      let (result, _) ← scope.rollback
      return result.isOk
  | .drop _ => do
      let _ ← scope.abandon
      return true

/- End a transaction; tell whether that succeeded. -/
def endRoot (root : Transaction) : Ending → Act σ Bool
  | .commit => do return (← root.commit).isOk
  | .rollback => do return (← root.rollback).isOk
  | .drop false => do
      root.drop
      return true
  | .drop true => do
      root.dropIdle
      return true

/-
  What a move adds to the timeline, and what remains of the
  session: nothing if the transaction has ended.
-/
def step
    (move : Move)
    (session : Session)
    (db : Database σ) :
    List Item × Option Session × Database σ :=
  let id := session.conn.link.id
  match move with
  | .run statement =>
      let ((_, used), after) :=
        ((statement.run session.scope).run
          session.conn).run db
      (callsSince db after id, some (session.withConn used),
        after)
  | .begin =>
      match (session.scope.begin.run session.conn).run
        db with
      | ((.ok scope, used), after) =>
          (callsSince db after id ++
              [.begun (nameOf scope)],
            some
              { session.withConn used with
                nested := scope :: session.nested },
            after)
      | ((.error _, used), after) =>
          (callsSince db after id,
            some (session.withConn used), after)
  | .finish ending =>
      match session.nested with
      | scope :: outer =>
          let ((ok, used), after) :=
            ((endNested scope ending).run
              session.conn).run db
          (callsSince db after id ++
              [.ended (nameOf scope) ending ok],
            some { session.withConn used with
              nested := outer },
            after)
      | [] =>
          let (ok, after) :=
            (endRoot session.root ending).run db
          (callsSince db after id ++ [.closed ending ok],
            none, after)

section Equations

variable (session : Session) (db : Database σ)

/- A statement is run in the scope of the session. -/
theorem step_run (statement : Statement) :
    step (.run statement) session db =
      let run :=
        ((statement.run session.scope).run
          session.conn).run db
      (callsSince db run.2 session.conn.link.id,
        some (session.withConn run.1.2), run.2) :=
  rfl

/- A scope is begun in the scope of the session. -/
theorem step_begin :
    step .begin session db =
      let run :=
        (session.scope.begin.run session.conn).run db
      let items := callsSince db run.2 session.conn.link.id
      let next := session.withConn run.1.2
      match run.1.1 with
      | .ok scope =>
          (items ++ [.begun (nameOf scope)],
            some { next with
              nested := scope :: next.nested },
            run.2)
      | .error _ => (items, some next, run.2) := by
  simp only [step]
  rcases (session.scope.begin.run session.conn).run db with
    ⟨⟨result, used⟩, after⟩
  cases result <;> rfl

/- The innermost scope is finished first. -/
theorem step_finish_cons
    {scope : Scope}
    {outer : List Scope}
    (hNested : session.nested = scope :: outer)
    (ending : Ending) :
    step (.finish ending) session db =
      let run :=
        ((endNested scope ending).run session.conn).run db
      (callsSince db run.2 session.conn.link.id ++
          [.ended (nameOf scope) ending run.1.1],
        some { session.withConn run.1.2 with
          nested := outer },
        run.2) := by
  simp only [step, hNested]
  rfl

/- Without nested scopes, the transaction is finished. -/
theorem step_finish_nil
    (hNested : session.nested = [])
    (ending : Ending) :
    step (.finish ending) session db =
      let run := (endRoot session.root ending).run db
      (callsSince db run.2 session.conn.link.id ++
          [.closed ending run.1],
        none, run.2) := by
  simp only [step, hNested]
  rfl

end Equations

/- The timeline of moves.  Nothing follows the last end. -/
def play :
    List Move → Session → Database σ → List Item
  | [], _, _ => []
  | move :: rest, session, db =>
      let (items, next, after) := step move session db
      match next with
      | some session => items ++ play rest session after
      | none => items

end Session

/-
  The timeline of a transaction that has just begun, as its
  client goes on with it.
-/
def Transaction.timeline
    {σ : Type}
    (transaction : Transaction)
    (moves : List Session.Move)
    (db : Database σ) : List Session.Item :=
  Session.play moves ⟨transaction, []⟩ db

end SqlAccess
