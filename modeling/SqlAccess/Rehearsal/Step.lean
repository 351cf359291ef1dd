import SqlAccess.Query.Basic
import SqlAccess.Rehearsal.Script

/-
  This file defines the steps of a rehearsal, in which a
  database is put through a sequence of uses, and what each
  step comes to.

  Key definitions include:
    * `Place`
    * `Want`
    * `Deed`
    * `Steps`
    * `Outcome`
    * `Report`
-/

namespace SqlAccess

namespace Rehearsal

------------------------------------------------------------
-- Steps
------------------------------------------------------------

/-
  Where something is done: in the scope around the step, or
  else on the database; on the database; or on a connection
  that is held under a name.
-/
inductive Place
  | here
  | database
  | held (name : String)
deriving DecidableEq, Repr

/- What is wanted of a query. -/
inductive Want
  | bound
  | execute
  | all
  | one
  | column
  | dictionary
  | groups
  | fetch (shape : Shape)
deriving DecidableEq, Repr

/-
  A query, or why there is none, and what is wanted of it.
-/
structure Ask where
  query : Except Error Query
  want : Want

/- A single deed. -/
inductive Deed
  | query (ask : Ask) (place : Place)
  | batch (sql : String) (place : Place)
  | block (asks : List Ask)
  | checkout (role : Role) (name : String)
  | checkoutRouted
      (intent : Intent)
      (inTransaction : Bool)
      (name : String)
  | wait
      (role : Role)
      (name : String)
      (dropped : Option String)
  | checkin (name : String)
  | drop (name : String)
  | spoil (name : String)
  | ping (name : String)
  | look (name : String)
  | status
  | close
  | isClosed
  | describe (place : Place)
  | setFaults (faults : List Fault)

/- How a scope ends. -/
inductive Ending
  | commit
  | rollback
  | drop
deriving DecidableEq, Repr

/- Deeds and scopes, one after the other. -/
inductive Steps
  | done
  | deed (d : Deed) (next : Steps)
  | scope (body : Steps) (ending : Ending) (next : Steps)

------------------------------------------------------------
-- Outcomes
------------------------------------------------------------

/- What a deed comes to. -/
inductive Outcome
  | failed (e : Error)
  | nothing
  | ok
  | dropped
  | flag (b : Bool)
  | text (s : String)
  | bound (statement : Bound)
  | count (n : Nat)
  | rows (rows : Rows)
  | row (row : Option Row)
  | column (values : List Value)
  | dictionary (rows : Keyed Record)
  | groups (rows : Keyed (List Record))
  | shaped (result : Materialized)
  | connection (conn : Connection)
  | status (pools : List Occupancy)
  | waited
      (pools : List Occupancy)
      (result : Except Error Connection)
  | block
      (body : List Outcome) (result : Except Error Nat)

/- The outcome of a result. -/
def Outcome.ofResult
    {α : Type}
    (outcome : α → Outcome) : Except Error α → Outcome
  | .ok a => outcome a
  | .error e => failed e

/- Whether an outcome is a failure, and which. -/
def Outcome.failure? : Outcome → Option Error
  | failed e => some e
  | _ => none

/-
  The outcomes of steps, each with the events since the one
  before.
-/
inductive Report
  | done
  | deed
      (outcome : Outcome) (events : List Event)
      (next : Report)
  | scope
      (begun : Scope) (beginEvents : List Event)
      (body : Report) (ending : Outcome)
      (events : List Event) (next : Report)

end Rehearsal

end SqlAccess
