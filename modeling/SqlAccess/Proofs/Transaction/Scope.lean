import SqlAccess.Proofs.Transaction.Server

/-
  This file says what the operations on scopes ask of the
  backend, and what they leave pending on the connection.

  Key theorems include:
    * `Session.Statement.run_yields`
    * `Scope.begin_yields`
    * `Session.endNested_yields`
    * `Session.endRoot_heard`
-/

namespace SqlAccess

variable {σ : Type}

------------------------------------------------------------
-- Statements
------------------------------------------------------------

namespace Use

/-
  The success of a call is all that is kept of its result.
-/
private theorem perform_isOk_yields
    (call : Call)
    (conn : Connection)
    (db : Database σ) :
    Yields (do return (← perform call).isOk) conn db
      fun ok used calls =>
        Performed call conn.pending calls ok ∧
          Settled conn used := by
  apply (perform_yields call conn db).bind
  rintro result used calls db hPerformed
  apply Yields.pure
  simpa using hPerformed

end Use

/-
  A statement in a scope that has not ended is performed.
-/
theorem Session.Statement.run_yields
    {scope : Scope}
    (hActive : scope.phase = .active)
    (statement : Session.Statement)
    (conn : Connection)
    (db : Database σ) :
    Use.Yields (statement.run scope) conn db
      fun ok used calls =>
        Use.Performed statement.call conn.pending calls
          ok ∧
          Use.Settled conn used := by
  have hUse :
      ∀ {α : Type} (use : Use σ (Except Error α)),
        scope.whileActive use = use := by
    intro α use
    simp [Scope.whileActive, hActive]
  cases statement with
  | select intent statement =>
      simp only [Session.Statement.run, Scope.executor,
        hUse]
      exact Use.perform_isOk_yields
        (.select statement) conn db
  | dml statement =>
      simp only [Session.Statement.run, Scope.executor,
        hUse]
      exact Use.perform_isOk_yields (.dml statement) conn db
  | batch sql =>
      simp only [Session.Statement.run, Scope.executor,
        hUse]
      exact Use.perform_isOk_yields (.batch sql) conn db

------------------------------------------------------------
-- Beginning
------------------------------------------------------------

/-
  Beginning a scope takes the next savepoint name, whether
  the savepoint can be set or not.
-/
theorem Scope.begin_yields
    {parent : Scope}
    (hActive : parent.phase = .active)
    (conn : Connection)
    (db : Database σ) :
    Use.Yields parent.begin conn db fun result used calls =>
      let name := savepointName (conn.savepoints + 1)
      Use.Performed (.batch (Scope.savepointSql name))
          conn.pending calls result.isOk ∧
        (∀ scope, result = .ok scope →
          scope = Scope.nested name) ∧
        used.pending = [] ∧
        used.savepoints = conn.savepoints + 1 := by
  let named : Connection :=
    { conn with savepoints := conn.savepoints + 1 }
  have hFresh :
      Use.Yields (Scope.freshSavepoint : Use σ String)
        conn db
        fun name used calls =>
          name = savepointName (conn.savepoints + 1) ∧
            Use.Untouched named used calls :=
    ⟨[], .of_history_eq rfl, rfl, rfl, rfl, rfl⟩
  simp only [Scope.begin, Scope.whileActive, hActive,
    if_true]
  apply hFresh.bind
  rintro name used _ db ⟨rfl, rfl, rfl⟩
  apply (Use.perform_yields _ named db).bind
  rintro result used calls db ⟨hPerformed, hSettled⟩
  cases result with
  | ok _ =>
      apply Use.Yields.pure
      rw [List.append_nil]
      refine ⟨hPerformed, ?_, hSettled.pending,
        hSettled.savepoints⟩
      rintro scope ⟨⟩
      rfl
  | error e =>
      apply Use.Yields.pure
      rw [List.append_nil]
      exact ⟨hPerformed, by simp, hSettled.pending,
        hSettled.savepoints⟩

------------------------------------------------------------
-- Ending
------------------------------------------------------------

/- Nothing is pending, and no savepoint was named. -/
structure Connection.Cleared
    (conn used : Connection) :
    Prop where
  pending : used.pending = []
  savepoints : used.savepoints = conn.savepoints

/-
  However a scope is finished, its statement is sent behind
  what is pending.
-/
theorem Scope.finish_yields
    (scope : Scope)
    (sql : String)
    (phase : Phase)
    (conn : Connection)
    (db : Database σ) :
    Use.Yields (scope.finish sql phase) conn db
      fun result used calls =>
        Use.Performed (.batch sql) conn.pending calls
            result.1.isOk ∧
          conn.Cleared used := by
  apply (Use.perform_yields (.batch sql) conn db).bind
  rintro result used calls db ⟨hPerformed, hSettled⟩
  cases result with
  | ok _ =>
      cases hNested : scope.isNested with
      | true =>
          simp only [Bool.not_true]
          apply Use.Yields.pure
          rw [List.append_nil]
          exact ⟨hPerformed, hSettled.pending,
            hSettled.savepoints⟩
      | false =>
          have hInside :
              Use.Yields (Use.setInside false) used db
                fun _ =>
                Use.Untouched
                  { used with inTransaction := false } :=
            Use.Yields.modify rfl ⟨rfl, rfl⟩
          apply hInside.bind
          rintro _ _ _ db ⟨rfl, rfl⟩
          apply Use.Yields.pure
          rw [List.append_nil, List.append_nil]
          exact ⟨hPerformed, hSettled.pending,
            hSettled.savepoints⟩
  | error e =>
      apply (Use.spoil_yields used db).bind
      rintro _ _ _ db ⟨rfl, rfl⟩
      apply Use.Yields.pure
      rw [List.append_nil, List.append_nil]
      exact ⟨hPerformed, hSettled.pending,
        hSettled.savepoints⟩

/- An active scope sends its commit. -/
theorem Scope.commit_yields
    {scope : Scope}
    (hActive : scope.phase = .active)
    (conn : Connection)
    (db : Database σ) :
    Use.Yields scope.commit conn db fun result used calls =>
      Use.Performed (.batch scope.commitSql)
        conn.pending calls
          result.1.isOk ∧
        conn.Cleared used := by
  simp only [Scope.commit, hActive, if_true]
  exact scope.finish_yields scope.commitSql .committed
    conn db

/-
  A nested scope runs what is pending before it rolls back.
-/
theorem Scope.rollback_nested_yields
    (name : String)
    (conn : Connection)
    (db : Database σ) :
    Use.Yields (Scope.nested name).rollback conn db
      fun result used calls =>
        Use.Performed (.batch (Scope.undoSql name))
            conn.pending calls result.1.isOk ∧
          conn.Cleared used :=
  (Scope.nested name).finish_yields (Scope.undoSql name)
    .rolledBack conn db

/- A transaction forgets what is pending and rolls back. -/
theorem Scope.rollback_root_yields
    (conn : Connection)
    (db : Database σ) :
    Use.Yields Scope.root.rollback conn db
      fun result used calls =>
        Use.Performed (.batch "ROLLBACK") [] calls
            result.1.isOk ∧
          conn.Cleared used := by
  let forgotten : Connection := { conn with pending := [] }
  have hFinish :
      Use.Yields Scope.root.rollback conn db
        fun result used calls =>
          Use.Performed (.batch "ROLLBACK") [] calls
              result.1.isOk ∧
            forgotten.Cleared used :=
    Scope.root.finish_yields "ROLLBACK" .rolledBack
      forgotten db
  apply hFinish.mono
  rintro result used calls ⟨hPerformed, hCleared⟩
  exact ⟨hPerformed, hCleared.pending,
    hCleared.savepoints⟩

/- A nested scope that is left is rolled back later. -/
theorem Scope.abandon_nested_yields
    (name : String)
    (conn : Connection)
    (db : Database σ) :
    Use.Yields (Scope.nested name).abandon conn db fun _ =>
      Use.Untouched
        { conn with
          pending :=
            conn.pending ++ [Scope.undoSql name] } :=
  ⟨[], .of_history_eq rfl, rfl, rfl, rfl⟩

namespace Session

/-
  What ending a nested scope asks for and leaves pending.
-/
theorem endNested_yields
    (name : String)
    (ending : Ending)
    (conn : Connection)
    (db : Database σ) :
    Use.Yields (endNested (.nested name) ending) conn db
      fun ok used calls =>
        match ending with
        | .commit =>
            Use.Performed (.batch (Scope.releaseSql name))
                conn.pending calls ok ∧
              conn.Cleared used
        | .rollback =>
            Use.Performed (.batch (Scope.undoSql name))
                conn.pending calls ok ∧
              conn.Cleared used
        | .drop _ =>
            ok = true ∧
              Use.Untouched
                { conn with
                  pending :=
                    conn.pending ++ [Scope.undoSql name] }
                used calls := by
  cases ending with
  | commit =>
      have hActive : (Scope.nested name).phase = .active :=
        rfl
      apply (Scope.commit_yields hActive conn db).bind
      rintro ⟨result, ended⟩ used calls db hCommit
      apply Use.Yields.pure
      rw [List.append_nil]
      exact hCommit
  | rollback =>
      apply (Scope.rollback_nested_yields name conn db).bind
      rintro ⟨result, ended⟩ used calls db hRollback
      apply Use.Yields.pure
      rw [List.append_nil]
      exact hRollback
  | drop idle =>
      apply (Scope.abandon_nested_yields name conn db).bind
      rintro ended used _ db ⟨rfl, rfl⟩
      exact Use.Yields.pure ⟨rfl, rfl, rfl⟩

end Session

------------------------------------------------------------
-- Transactions
------------------------------------------------------------

/- Changing a pool is not heard. -/
theorem Database.modifyPool_history
    (db : Database σ)
    (target : Target)
    (change : Pool → Pool) :
    (db.modifyPool target change).history = db.history := by
  cases target <;> rfl

/- A connection that is let go of asks for nothing more. -/
theorem Act.release_heard
    (id : Nat)
    (conn : Connection)
    (db : Database σ) :
    Database.Heard id [] db
      ((Act.release conn).run db).2 := by
  cases hUnanswered : conn.unanswered with
  | true =>
      simp only [Act.release, hUnanswered, if_true]
      exact .of_history_eq rfl
  | false =>
      have hRelease :
          ((Act.release conn).run db).2 =
            if (db.pool? conn.target).any Pool.closed then
              (db.modifyPool conn.target
                Pool.discard).record
                (.closed conn.link.id)
            else
              db.modifyPool conn.target
                fun pool => pool.putBack conn := by
        cases hClosed :
            (db.pool? conn.target).any Pool.closed
        · simp [Act.release, hUnanswered, Act.isPoolClosed,
            hClosed]
          rfl
        · simp [Act.release, hUnanswered, Act.isPoolClosed,
            hClosed, Act.evict]
          rfl
      rw [hRelease]
      split
      · refine ⟨[.closed conn.link.id], ?_, rfl⟩
        simp [Database.record, Database.modifyPool_history]
      · exact .of_history_eq (db.modifyPool_history _ _)

/- Letting go of a connection is not heard as a call. -/
theorem Database.Heard.release
    {id : Nat}
    {calls : List (Call × Fate)}
    {before after : Database σ}
    (hHeard : Database.Heard id calls before after)
    (conn : Connection) :
    Database.Heard id calls before
      ((Act.release conn).run after).2 := by
  simpa using hHeard.trans (Act.release_heard id conn after)

/- A transaction that was left rolls back at once. -/
theorem Scope.rollbackAbandoned_yields
    (conn : Connection)
    (db : Database σ) :
    Use.Yields Scope.rollbackAbandoned conn db
      fun _ _ calls =>
        ∃ ok,
          Use.Performed (.batch "ROLLBACK")
            conn.pending calls
            ok := by
  apply
    (Use.perform_yields (.batch "ROLLBACK") conn db).bind
  rintro result used calls db ⟨hPerformed, hSettled⟩
  cases result with
  | ok _ =>
      refine ⟨[], .of_history_eq rfl, rfl, true, ?_⟩
      rw [List.append_nil]
      exact hPerformed
  | error e =>
      refine ⟨[], .of_history_eq rfl, rfl, false, ?_⟩
      rw [List.append_nil]
      exact hPerformed

namespace Session

/- How a transaction ends, and what it asks for. -/
theorem endRoot_heard
    (conn : Connection)
    (ending : Ending)
    (db : Database σ) :
    let run := (endRoot ⟨.root, conn⟩ ending).run db
    ∃ calls,
      Database.Heard conn.link.id calls db run.2 ∧
        match ending with
        | .commit =>
            Use.Performed (.batch "COMMIT")
              conn.pending calls run.1
        | .rollback =>
            Use.Performed (.batch "ROLLBACK") [] calls run.1
        | .drop false =>
            run.1 = true ∧
              ∃ ok, Use.Performed
                (.batch "ROLLBACK") [] calls ok
        | .drop true => run.1 = true ∧ calls = [] := by
  match ending with
  | .commit =>
      have hActive : Scope.root.phase = .active := rfl
      rcases Scope.commit_yields hActive conn db with
        ⟨calls, hHeard, hLink, hPerformed, hCleared⟩
      exact ⟨calls, hHeard.release _, hPerformed⟩
  | .rollback =>
      rcases Scope.rollback_root_yields conn db with
        ⟨calls, hHeard, hLink, hPerformed, hCleared⟩
      exact ⟨calls, hHeard.release _, hPerformed⟩
  | .drop false =>
      let left : Connection := { conn with pending := [] }
      rcases Scope.rollbackAbandoned_yields left db with
        ⟨calls, hHeard, hLink, hPerformed⟩
      exact ⟨calls, hHeard.release _, rfl, hPerformed⟩
  | .drop true =>
      exact ⟨[], Act.release_heard _ _ _, rfl, rfl⟩

end Session

end SqlAccess
