import SqlAccess.Rehearsal.Step

/-
  This file carries out the steps of a rehearsal.

  Key definitions include:
    * `Stage`
    * `Play`
    * `Want.run`
    * `Ask.run`
    * `Play.runAt`
    * `Play.deed`
    * `Play.steps`
    * `Play.orphan`
    * `Rehearsal.run`
-/

namespace SqlAccess

namespace Rehearsal

------------------------------------------------------------
-- The Stage
------------------------------------------------------------

/-
  The connections that are held under names, the scope that
  the present step is in, and the number of events that were
  reported already.
-/
structure Stage where
  held : List (String × Connection)
  current : Option Transaction
  reported : Nat

/- Something that is done in a rehearsal. -/
abbrev Play :=
  StateT Stage (Act Script)

namespace Play

/- Do something with the database. -/
def onDatabase
    {α : Type}
    (act : Act Script α) : Play α :=
  StateT.lift act

/- The database as it is. -/
def database : Play (Database Script) :=
  onDatabase get

/- The events since the last report, in their order. -/
def takeEvents : Play (List Event) := do
  let history := (← database).history
  modifyGet fun stage =>
    ((history.take
      (history.length - stage.reported)).reverse,
      { stage with reported := history.length })

------------------------------------------------------------
-- Held Connections
------------------------------------------------------------

/- The connections under other names. -/
def without
    (name : String)
    (held : List (String × Connection)) :
    List (String × Connection) :=
  held.filter fun entry => entry.1 ≠ name

/- The connection that is held under a name. -/
def lookUp (name : String) : Play (Option Connection) := do
  return (← get).held.lookup name

/- Hold a connection under a name that is free. -/
def hold
    (name : String)
    (conn : Connection) : Play Unit :=
  modify fun stage =>
    { stage with
      held := (name, conn) :: without name stage.held }

/- Hold the connection of a name no longer. -/
def letGo (name : String) : Play (Option Connection) :=
  modifyGet fun stage =>
    (stage.held.lookup name,
      { stage with held := without name stage.held })

/- Drop the connection of a name, if there is one. -/
def dropHeld (name : String) : Play Unit := do
  match ← letGo name with
  | some conn => onDatabase (Act.release conn)
  | none => return

/-
  Hold what was checked out.  A connection that had the name
  is dropped.
-/
def keep
    (name : String)
    (result : Except Error Connection) : Play Unit := do
  match result with
  | .ok conn =>
      dropHeld name
      hold name conn
  | .error _ => return

/- Use the connection of a name. -/
def useHeld
    {α : Type}
    (name : String)
    (use : Use Script α) : Play (Option α) := do
  match ← lookUp name with
  | some conn =>
      let (result, used) ← onDatabase (use.run conn)
      hold name used
      return some result
  | none => return none

/- Use the connection of the scope around the step. -/
def useCurrent
    {α : Type}
    (use : Scope → Use Script α) : Play (Option α) := do
  match (← get).current with
  | some transaction =>
      let (result, used) ←
        onDatabase
          ((use transaction.scope).run transaction.conn)
      modify fun stage =>
        { stage with
          current := some
            { transaction with conn := used } }
      return some result
  | none => return none

end Play

------------------------------------------------------------
-- Queries
------------------------------------------------------------

/- Run a query for what is wanted of it. -/
def Want.run
    {m : Type → Type} [Monad m]
    (want : Want)
    (query : Query)
    (db : Database Script)
    (executor : Executor m) : m Outcome := do
  let dialect := db.dialect
  let shape := db.config.defaultShape
  match want with
  | bound => return .ofResult .bound (query.bound dialect)
  | execute =>
      return .ofResult .count
        (← query.execute dialect executor)
  | all =>
      return .ofResult .rows
        (← query.all dialect shape executor)
  | one =>
      return .ofResult .row
        (← query.one dialect shape executor)
  | column =>
      return .ofResult .column
        (← query.column dialect executor)
  | dictionary =>
      return .ofResult .dictionary
        (← query.dictionary dialect executor)
  | groups =>
      return .ofResult .groups
        (← query.groups dialect executor)
  | fetch wanted =>
      return .ofResult .shaped
        (← query.fetch dialect executor wanted)

/- Run a query if there is one. -/
def Ask.run
    {m : Type → Type} [Monad m]
    (ask : Ask)
    (db : Database Script)
    (executor : Executor m) : m Outcome := do
  match ask.query with
  | .ok query => ask.want.run query db executor
  | .error e => return .failed e

/-
  Run queries in a scope until one fails.  What succeeded is
  noted, and the number of queries is the result.
-/
def runAsks
    (db : Database Script)
    (scope : Scope) :
    List Ask →
      Use Script (List Outcome × Except Error Nat)
  | [] => return ([], .ok 0)
  | ask :: rest => do
      let outcome ← ask.run db scope.executor
      match outcome.failure? with
      | some e => return ([], .error e)
      | none =>
          let (outcomes, result) ← runAsks db scope rest
          return (outcome :: outcomes, result.map (· + 1))

namespace Play

------------------------------------------------------------
-- Deeds
------------------------------------------------------------

/- Something that can be done by any executor. -/
abbrev Anywhere :=
  (m : Type → Type) → [Monad m] → Executor m →
    m Outcome

/- Do something at a place. -/
def runAt
    (place : Place)
    (act : Anywhere) : Play Outcome := do
  let onAll := onDatabase (act (Act Script) Act.executor)
  match place with
  | .database => onAll
  | .held name =>
      let result ←
        useHeld name (act (Use Script) Use.executor)
      return result.getD .nothing
  | .here =>
      let result ←
        useCurrent fun scope =>
          act (Use Script) scope.executor
      match result with
      | some outcome => return outcome
      | none => onAll

/- Show what is at a place. -/
def describe (place : Place) : Play Outcome := do
  let db ← database
  let stage ← get
  match place with
  | .database => return .text db.describe
  | .held name =>
      return (stage.held.lookup name).elim .nothing
        fun conn =>
        .text conn.describe
  | .here =>
      return stage.current.elim (.text db.describe)
        fun tx =>
        .text tx.scope.describe

/- Check a connection out and hold it under a name. -/
def checkout
    (name : String)
    (act : Act Script (Except Error Connection)) :
    Play Outcome := do
  let result ← onDatabase act
  keep name result
  return .ofResult .connection result

/-
  Ask for a connection, and drop another one while there is
  nothing to do but wait.
-/
def wait
    (role : Role)
    (name : String)
    (dropped : Option String) : Play Outcome := do
  let started ← onDatabase (Waiter.start role)
  let status := (← database).status
  match dropped with
  | some other => dropHeld other
  | none => pure ()
  let result ←
    match started with
    | .ok result => pure result
    | .error waiter => onDatabase waiter.finish
  keep name result
  return .waited status result

/- Do a deed. -/
def deed : Deed → Play Outcome
  | .query ask place => do
      let db ← database
      runAt place fun _ _ executor => ask.run db executor
  | .batch sql place =>
      runAt place fun _ _ executor => do
        return .ofResult
          (fun () => .ok) (← executor.batch sql)
  | .block asks => do
      let db ← database
      let (body, result) ←
        onDatabase (Transaction.block [] fun scope =>
          runAsks db scope asks)
      return .block body result
  | .checkout role name => checkout name (Act.checkout role)
  | .checkoutRouted intent inTransaction name =>
      checkout name
        (Act.checkoutRouted intent inTransaction)
  | .wait role name dropped => wait role name dropped
  | .checkin name => do
      match ← letGo name with
      | some conn => onDatabase (Act.checkin conn)
      | none => pure ()
      return .nothing
  | .drop name => do
      dropHeld name
      return .nothing
  | .spoil name => do
      let _ ← useHeld name Use.spoil
      return .nothing
  | .ping name => do
      let result ← useHeld name Use.ping
      return result.elim .nothing (.ofResult fun () => .ok)
  | .look name => do
      return (← lookUp name).elim .nothing .connection
  | .status => do
      return .status (← database).status
  | .close => do
      onDatabase Act.close
      return .flag (← database).isClosed
  | .isClosed => do
      return .flag (← database).isClosed
  | .describe place => describe place
  | .setFaults faults => do
      onDatabase <| modify fun db =>
        { db with
          memory := { db.memory with faults := faults } }
      return .nothing

------------------------------------------------------------
-- Scopes
------------------------------------------------------------

/- Begin a scope in the present one, or a transaction. -/
def beginScope : Play (Except Error Transaction) := do
  match (← get).current with
  | none => onDatabase Transaction.begin
  | some outer =>
      let (result, used) ←
        onDatabase (outer.scope.begin.run outer.conn)
      modify fun stage =>
        { stage with
          current := some { outer with conn := used } }
      return result.map fun scope => ⟨scope, used⟩

/- End a transaction. -/
def endRoot
    (transaction : Transaction) : Ending → Play Outcome
  | .commit => do
      return .ofResult (fun () => .ok)
        (← onDatabase transaction.commit)
  | .rollback => do
      return .ofResult (fun () => .ok)
        (← onDatabase transaction.rollback)
  | .drop => do
      onDatabase transaction.drop
      return .dropped

/- End a scope that is nested in another one. -/
def endNested
    (inner : Scope) : Ending → Use Script Outcome
  | .commit => do
      let (result, _) ← inner.commit
      return .ofResult (fun () => .ok) result
  | .rollback => do
      let (result, _) ← inner.rollback
      return .ofResult (fun () => .ok) result
  | .drop => do
      let _ ← inner.abandon
      return .dropped

/-
  End the present scope, after which the scope around it is
  the present one.
-/
def endScope
    (outer : Option Transaction)
    (ending : Ending) : Play Outcome := do
  match (← get).current, outer with
  | none, _ => return .nothing
  | some inner, none =>
      modify fun stage => { stage with current := none }
      endRoot inner ending
  | some inner, some outer =>
      let (outcome, used) ←
        onDatabase
          ((endNested inner.scope ending).run inner.conn)
      modify fun stage =>
        { stage with
          current := some { outer with conn := used } }
      return outcome

/- Carry out steps and report on them. -/
def steps : Steps → Play Report
  | .done => return .done
  | .deed d next => do
      let outcome ← deed d
      let events ← takeEvents
      return .deed outcome events (← steps next)
  | .scope body ending next => do
      match ← beginScope with
      | .error e =>
          let events ← takeEvents
          return .deed (.failed e) events (← steps next)
      | .ok begun =>
          let outer := (← get).current
          modify fun stage => { stage with
            current := some begun }
          let beginEvents ← takeEvents
          let inside ← steps body
          let outcome ← endScope outer ending
          let events ← takeEvents
          let after ← steps next
          return .scope begun.scope beginEvents inside
            outcome events after

------------------------------------------------------------
-- Orphans
------------------------------------------------------------

/- The outcomes of leaving a transaction behind. -/
structure OrphanReport where
  begun : Except Error Scope
  beginEvents : List Event
  dropEvents : List Event
  next : Except Error Connection
  nextEvents : List Event

/- Drop all connections that are held, by their names. -/
def dropAll : Play Unit := do
  let names := (← get).held.map Prod.fst
  (names.mergeSort (· ≤ ·)).forM dropHeld

/-
  Begin a transaction and leave it where nothing can be run
  any more, and then check out another connection.
-/
def orphan : Play OrphanReport := do
  dropAll
  let begun ← onDatabase Transaction.begin
  let beginEvents ← takeEvents
  match begun with
  | .ok transaction => onDatabase transaction.dropIdle
  | .error _ => pure ()
  let dropEvents ← takeEvents
  let next ← onDatabase (Act.checkout .primary)
  let nextEvents ← takeEvents
  return {
    begun := begun.map Transaction.scope
    beginEvents := beginEvents
    dropEvents := dropEvents
    next := next
    nextEvents := nextEvents }

end Play

------------------------------------------------------------
-- Rehearsals
------------------------------------------------------------

/-
  What a whole rehearsal comes to: whether the database
  could be opened, and if so the reports on its steps and on
  a transaction left behind, if one was wanted.
-/
structure Summary where
  opened : Except Error Unit
  openEvents : List Event
  report : Report
  orphan : Option Play.OrphanReport

/- Open a database and carry out steps. -/
def play
    (plan : Steps)
    (wantsOrphan : Bool) : Play Summary := do
  let opened ← Play.onDatabase Act.open
  let openEvents ← Play.takeEvents
  match opened with
  | .error e =>
      return ⟨.error e, openEvents, .done, none⟩
  | .ok () =>
      let report ← Play.steps plan
      if wantsOrphan then
        let orphan ← Play.orphan
        return ⟨.ok (), openEvents, report, some orphan⟩
      else
        return ⟨.ok (), openEvents, report, none⟩

/- Rehearse steps with a backend and a script. -/
def run
    (config : Config)
    (backend : Backend Script)
    (script : Script)
    (plan : Steps)
    (wantsOrphan : Bool) : Summary :=
  let start := Database.new config backend script
  let (summary, _) :=
    ((play plan wantsOrphan).run ⟨[], none, 0⟩).run
      start |>.1
  summary

end Rehearsal

end SqlAccess
