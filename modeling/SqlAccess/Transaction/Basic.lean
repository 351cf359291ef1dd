import SqlAccess.Transaction.Scope

/-
  This file defines transactions, which own a connection of
  the primary until they end, and blocks that are carried
  out in a transaction as a whole.

  Key definitions include:
    * `Transaction`
    * `Transaction.begin`
    * `Transaction.commit`
    * `Transaction.rollback`
    * `Transaction.drop`
    * `Transaction.settle`
    * `Transaction.block`
-/

namespace SqlAccess

/- A transaction and its connection. -/
structure Transaction where
  scope : Scope
  conn : Connection
deriving DecidableEq, Repr

namespace Transaction

variable {σ : Type}

/- Begin a transaction on a connection of the primary. -/
def begin : Act σ (Except Error Transaction) := do
  match ← Act.checkout .primary with
  | .error e => return .error e
  | .ok conn =>
      match ← Scope.beginOutermost.run conn with
      | (.ok scope, used) => return .ok ⟨scope, used⟩
      | (.error e, used) =>
          Act.release used
          return .error e

/- Keep the work and let go of the connection. -/
def commit
    (transaction : Transaction) :
    Act σ (Except Error Unit) := do
  let ((result, _), used) ←
    transaction.scope.commit.run transaction.conn
  Act.release used
  return result

/- Undo the work and let go of the connection. -/
def rollback
    (transaction : Transaction) :
    Act σ (Except Error Unit) := do
  let ((result, _), used) ←
    transaction.scope.rollback.run transaction.conn
  Act.release used
  return result

/-
  Leave a transaction without an end.  Its work is undone
  before anyone else gets the connection.
-/
def drop (transaction : Transaction) : Act σ Unit := do
  let (_, left) ←
    transaction.scope.abandon.run transaction.conn
  let ((), used) ← Scope.rollbackAbandoned.run left
  Act.release used

/-
  Leave a transaction without an end where nothing can be
  run any more.  The connection is not relied on.
-/
def dropIdle (transaction : Transaction) : Act σ Unit := do
  let (_, left) ←
    transaction.scope.abandon.run transaction.conn
  Act.release left.spoil

/- The failure of a block whose work could not be undone. -/
def blockFailed (e rollbackError : Error) : Error :=
  .transaction
    (e.message ++ " (rollback failed: " ++
      rollbackError.message ++ ")")

/-
  End a transaction by the result of the work in it: keep
  what succeeded, and undo what failed.
-/
def settle
    {α : Type}
    (transaction : Transaction)
    (result : Except Error α) :
    Act σ (Except Error α) := do
  match result with
  | .ok a =>
      match ← transaction.commit with
      | .ok () => return .ok a
      | .error e => return .error e
  | .error e =>
      match ← transaction.rollback with
      | .ok () => return .error e
      | .error other => return .error (blockFailed e other)

/-
  Carry out a block in a transaction.  What the block notes
  is given back beside its result; a transaction that cannot
  begin has the given notes.
-/
def block
    {α ν : Type}
    (noNotes : ν)
    (body : Scope → Use σ (ν × Except Error α)) :
    Act σ (ν × Except Error α) := do
  match ← begin with
  | .error e => return (noNotes, .error e)
  | .ok transaction =>
      let ((notes, result), used) ←
        (body transaction.scope).run transaction.conn
      let result ←
        { transaction with conn := used }.settle result
      return (notes, result)

end Transaction

end SqlAccess
