import SqlAccess.Binding.Bind
import SqlAccess.Config.Basic

/-
  This file defines what the library asks of a database
  system: to open connections, and to answer calls on them.
  What is asked and how it ends are events.

  Key definitions include:
    * `Link`
    * `Call`
    * `Call.Answer`
    * `Reply`
    * `Fate`
    * `Event`
    * `Backend`
-/

namespace SqlAccess

------------------------------------------------------------
-- Calls
------------------------------------------------------------

/- A connection as the system knows it. -/
structure Link where
  id : Nat
  address : String
deriving DecidableEq, Repr

/-
  A call on a connection: to run text without parameters, to
  run a statement for its rows or for the number of rows
  that it changes, to show a sign of life, or to stop what
  runs.
-/
inductive Call
  | batch (sql : String)
  | select (statement : Bound)
  | dml (statement : Bound)
  | ping
  | cancel

namespace Call

/- What a call is answered with. -/
@[reducible]
def Answer : Call → Type
  | batch _ => Unit
  | select _ => ResultSet
  | dml _ => Nat
  | ping => Unit
  | cancel => Unit

/- The text that a call runs; empty if it runs none. -/
def sql : Call → String
  | batch sql => sql
  | select statement => statement.query
  | dml statement => statement.query
  | ping => ""
  | cancel => ""

end Call

------------------------------------------------------------
-- Replies
------------------------------------------------------------

/-
  How a call ends: with an answer, a failure, or not at all.
-/
inductive Reply (α : Type)
  | done (answer : α)
  | failed (e : Error)
  | silent

/- How a call ended, without its answer. -/
inductive Fate
  | done
  | failed (e : Error)
  | silent
deriving DecidableEq

/- The fate that a reply means. -/
def Reply.fate {α : Type} : Reply α → Fate
  | done _ => .done
  | failed e => .failed e
  | silent => .silent

/-
  Something that happens between the library and a system.
-/
inductive Event
  | connecting (address : String) (fate : Fate)
  | opened (address : String) (id : Nat)
  | closed (id : Nat)
  | called (id : Nat) (call : Call) (fate : Fate)

------------------------------------------------------------
-- Backends
------------------------------------------------------------

/-
  A database system, which may remember what it was asked:
  its kind, the markers it wants, whether it can stop what
  runs, and how it answers.
-/
structure Backend (σ : Type) where
  kind : BackendKind
  style : MarkerStyle
  cancellable : Bool
  connect : String → σ → Reply Unit × σ
  perform :
    Link → (call : Call) → σ →
      Reply call.Answer × σ

end SqlAccess
