import SqlAccess.Pool.Database

/-
  This file defines a backend that follows a script: calls
  succeed in a plain way, except where the script has them
  fail or never end.

  Key definitions include:
    * `CallKind`
    * `Fault`
    * `Script`
    * `Script.next`
    * `Backend.scripted`
-/

namespace SqlAccess

------------------------------------------------------------
-- Faults
------------------------------------------------------------

/- The kinds of things that a backend is asked. -/
inductive CallKind
  | connect
  | ping
  | batch
  | select
  | dml
  | cancel
deriving DecidableEq, Repr

/- The kind of a call. -/
def Call.kind : Call → CallKind
  | batch _ => .batch
  | select _ => .select
  | dml _ => .dml
  | ping => .ping
  | cancel => .cancel

/-
  Something that goes wrong: where, with what kind of call
  and with what text; how many times; and the failure, or
  silence where there is none.  What is not said may be
  anything.
-/
structure Fault where
  address : Option String
  kind : Option CallKind
  sql : Option String
  times : Option Nat
  failure : Option Error

namespace Fault

/- Whether a fault applies. -/
def applies
    (fault : Fault)
    (address : String)
    (kind : CallKind)
    (sql : String) : Bool :=
  fault.address.all (· = address) &&
    fault.kind.all (· = kind) &&
    fault.sql.all (· = sql) &&
    fault.times ≠ some 0

/- A fault that has applied once more. -/
def used (fault : Fault) : Fault :=
  { fault with times := fault.times.map (· - 1) }

end Fault

------------------------------------------------------------
-- Scripts
------------------------------------------------------------

/- What goes wrong, and the results of some statements. -/
structure Script where
  faults : List Fault
  results : List (String × ResultSet)

namespace Script

/-
  The first of some faults that applies, and all faults
  after its use.
-/
def useFault
    (address : String)
    (kind : CallKind)
    (sql : String) :
    List Fault → Option Fault × List Fault
  | [] => (none, [])
  | fault :: rest =>
      if fault.applies address kind sql then
        (some fault, fault.used :: rest)
      else
        let (found, others) :=
          useFault address kind sql rest
        (found, fault :: others)

/-
  The reply to what is asked, given the answer if nothing
  goes wrong.
-/
def reply
    {α : Type}
    (script : Script)
    (address : String)
    (kind : CallKind)
    (sql : String)
    (answer : α) : Reply α × Script :=
  let (found, faults) :=
    useFault address kind sql script.faults
  let next := { script with faults := faults }
  match found with
  | none => (.done answer, next)
  | some fault =>
      match fault.failure with
      | some e => (.failed e, next)
      | none => (.silent, next)

/- A row that tells which connection it comes from. -/
def whereabouts (link : Link) : ResultSet :=
  ⟨["conn", "target"],
    [[.ofInt link.id, .text link.address]]⟩

/- The answer to a call if nothing goes wrong. -/
def answer
    (script : Script)
    (link : Link) :
    (call : Call) → call.Answer
  | .batch _ => ()
  | .select statement =>
      (script.results.lookup statement.query).getD
        (whereabouts link)
  | .dml statement => statement.params.length
  | .ping => ()
  | .cancel => ()

end Script

/- A backend that follows a script. -/
def Backend.scripted
    (kind : BackendKind)
    (style : MarkerStyle)
    (cancellable : Bool) : Backend Script where
  kind := kind
  style := style
  cancellable := cancellable
  connect address script :=
    script.reply address .connect "" ()
  perform link call script :=
    script.reply link.address call.kind call.sql
      (script.answer link call)

end SqlAccess
