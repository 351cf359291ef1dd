import SqlAccess.Pool.Open

/-
  This file defines transactions and the scopes nested in
  them.  A nested scope is a savepoint on the connection of
  its transaction.  A scope that nobody ends is rolled back:
  a nested one before the next statement, a whole
  transaction at once.

  Key definitions include:
    * `Phase`
    * `Scope`
    * `Scope.beginOutermost`
    * `Scope.begin`
    * `Scope.commit`
    * `Scope.rollback`
    * `Scope.abandon`
    * `Scope.rollbackAbandoned`
-/

namespace SqlAccess

------------------------------------------------------------
-- Scopes
------------------------------------------------------------

/- Where a scope stands. -/
inductive Phase
  | active
  | committed
  | rolledBack
deriving DecidableEq, Repr

namespace Phase

/- The word for a phase. -/
def text : Phase → String
  | active => "active"
  | committed => "committed"
  | rolledBack => "rolled back"

/- A phase as it is shown for debugging. -/
def describe : Phase → String
  | active => "Active"
  | committed => "Committed"
  | rolledBack => "RolledBack"

end Phase

/- A transaction, or a scope with a savepoint in one. -/
structure Scope where
  phase : Phase
  savepoint : Option String
deriving DecidableEq, Repr

namespace Scope

variable {σ : Type}

/- A transaction that has just begun. -/
def root : Scope := ⟨.active, none⟩

/- A scope that has just begun. -/
def nested
    (name : String) :
    Scope := ⟨.active, some name⟩

/- Whether a scope is inside of a transaction. -/
def isNested (scope : Scope) : Bool :=
  scope.savepoint.isSome

/- A scope as it is shown for debugging. -/
def describe (scope : Scope) : String :=
  let savepoint :=
    match scope.savepoint with
    | some name => "Some(" ++ Quoted.quote name ++ ")"
    | none => "None"
  "Transaction \x7b state: " ++ scope.phase.describe ++
    ", savepoint: " ++ savepoint ++ ", .. \x7d"

/- The failure of work in a scope that has ended. -/
def ended (scope : Scope) : Error :=
  .transaction
    ("transaction is already " ++ scope.phase.text)

/- Do something in a scope that has not ended. -/
def whileActive
    {α : Type}
    (scope : Scope)
    (use : Use σ (Except Error α)) :
    Use σ (Except Error α) :=
  if scope.phase = .active then use
  else return .error scope.ended

------------------------------------------------------------
-- Statements of Scopes
------------------------------------------------------------

/- The statement that begins a scope. -/
def savepointSql (name : String) : String :=
  "SAVEPOINT " ++ name

/- The statement that keeps the work of a scope. -/
def releaseSql (name : String) : String :=
  "RELEASE SAVEPOINT " ++ name

/- The statements that undo the work of a scope. -/
def undoSql (name : String) : String :=
  "ROLLBACK TO SAVEPOINT " ++ name ++ "; " ++
    releaseSql name

/- The statement that commits a scope. -/
def commitSql (scope : Scope) : String :=
  match scope.savepoint with
  | some name => releaseSql name
  | none => "COMMIT"

/- The statements that roll a scope back. -/
def rollbackSql (scope : Scope) : String :=
  match scope.savepoint with
  | some name => undoSql name
  | none => "ROLLBACK"

------------------------------------------------------------
-- Beginning
------------------------------------------------------------

/- Begin a transaction on a connection. -/
def beginOutermost : Use σ (Except Error Scope) := do
  match ← Use.batch "BEGIN" with
  | .ok () =>
      Use.setInside true
      return .ok root
  | .error e => return .error e

/- A name that no savepoint of the connection has had. -/
def freshSavepoint : Use σ String :=
  modifyGet fun conn =>
    let number := conn.savepoints + 1
    ("sqlweave_sp_" ++ toString number,
      { conn with savepoints := number })

/- Begin a scope inside of another one. -/
def begin (parent : Scope) : Use σ (Except Error Scope) :=
  parent.whileActive do
    let name ← freshSavepoint
    match ← Use.batch (savepointSql name) with
    | .ok () => return .ok (nested name)
    | .error e => return .error e

------------------------------------------------------------
-- Ending
------------------------------------------------------------

/- The failure of a statement that ends a scope. -/
def endFailed (sql : String) (e : Error) : Error :=
  .transaction (sql ++ " failed: " ++ e.message)

/-
  End a scope with a statement.  If that fails, the scope
  counts as rolled back and the connection is not relied on.
-/
def finish
    (scope : Scope)
    (sql : String)
    (phase : Phase) :
    Use σ (Except Error Unit × Scope) := do
  match ← Use.batch sql with
  | .ok () =>
      if !scope.isNested then Use.setInside false
      return (.ok (), { scope with phase := phase })
  | .error e =>
      Use.spoil
      return (.error (endFailed sql e),
        { scope with phase := .rolledBack })

/- Keep the work of a scope. -/
def commit
    (scope : Scope) : Use σ (Except Error Unit × Scope) :=
  if scope.phase = .active then
    scope.finish scope.commitSql .committed
  else
    return (.error scope.ended, scope)

/-
  Undo the work of a scope.  With a whole transaction all
  that is pending goes, too.
-/
def rollback
    (scope : Scope) :
    Use σ (Except Error Unit × Scope) := do
  if scope.phase = .active then
    if !scope.isNested then Use.forgetPending
    scope.finish scope.rollbackSql .rolledBack
  else
    return (.error scope.ended, scope)

/-
  Leave a scope without an end.  A nested one is rolled back
  before the next statement; a whole transaction forgets
  what is pending, and is still to be rolled back.
-/
def abandon (scope : Scope) : Use σ Scope := do
  if scope.phase = .active then
    match scope.savepoint with
    | some name => Use.defer (undoSql name)
    | none => Use.forgetPending
    return { scope with phase := .rolledBack }
  else
    return scope

/- Roll back a transaction that was left without an end. -/
def rollbackAbandoned : Use σ Unit := do
  match ← Use.batch "ROLLBACK" with
  | .ok () => Use.setInside false
  | .error _ => Use.spoil

end Scope

end SqlAccess
