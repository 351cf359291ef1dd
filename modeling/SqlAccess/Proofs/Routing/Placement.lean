import SqlAccess.Proofs.Routing.Alone

/-
  This file says where statements are run.  What writes, and
  everything in a transaction, is run on the primary; a read
  is run on a replica only if that was chosen for it and was
  healthy then.  Only who holds a connection to a replica
  can write there.

  Key definitions include:
    * `Query.statement`
    * `Journey.Placed`

  Key theorems include:
    * `Query.rowsAs_eq`
    * `Query.reads_iff`
    * `Attempt.chosen_of_writes`
    * `Attempt.Trail.target`
    * `Journey.writes_on_primary`
-/

namespace SqlAccess

variable {σ : Type}

------------------------------------------------------------
-- Queries
------------------------------------------------------------

/- The statement that is run for the rows of a query. -/
def Query.statement
    (query : Query)
    (bound : Bound) : Session.Statement :=
  .select (query.intentOf bound) bound

section Executors

variable {m : Type → Type} [Monad m]
variable (query : Query) (dialect : Dialect)
variable (executor : Executor m)

/- The rows of a query are those of its statement. -/
theorem Query.rowsAs_eq
    {α : Type}
    (wanted : ResultSet → Except Error α) :
    query.rowsAs dialect executor wanted =
      match query.bound dialect with
      | .error e => return .error e
      | .ok bound => do
          let result ←
            executor.run (query.statement bound)
          return named bound (result.bind wanted) := by
  unfold rowsAs
  cases query.bound dialect <;> rfl

/- A query that changes rows is run as it is bound. -/
theorem Query.execute_eq :
    query.execute dialect executor =
      match query.bound dialect with
      | .error e => return .error e
      | .ok bound => do
          return named bound
            (← executor.run (.dml bound)) := by
  unfold execute
  cases query.bound dialect <;> rfl

end Executors

/-
  A query reads if that was said, or found out otherwise.
-/
theorem Query.reads_iff (query : Query) (bound : Bound) :
    (query.statement bound).Reads ↔
      query.intent = some .read ∨
        query.intent = none ∧
          Intent.detect bound.query = .read := by
  unfold Session.Statement.Reads statement intentOf
  cases query.intent <;> simp

/- A query that is to run on the primary does not read. -/
theorem Query.not_reads_onPrimary
    (query : Query)
    (bound : Bound) :
    ¬ (query.onPrimary.statement bound).Reads := by
  rw [reads_iff]
  simp [onPrimary, withIntent]

------------------------------------------------------------
-- Attempts
------------------------------------------------------------

namespace Attempt

variable {statement : Session.Statement}
variable {attempt : Attempt σ} {crowd : Crowd σ}

/- The primary is chosen for what writes. -/
theorem chosen_of_writes
    (hWrites : ¬ statement.Reads)
    (attempt : Attempt σ) :
    (attempt.chosen statement).1 = .primary := by
  cases statement with
  | select intent bound =>
      cases intent with
      | read => exact absurd ⟨bound, rfl⟩ hWrites
      | write => exact Act.pick_write false attempt.asked.db
  | dml bound => exact Act.pick_write false attempt.asked.db
  | batch sql => rfl

/- A replica is chosen for a read, if it is healthy. -/
theorem chosen_replica
    {index : Nat}
    (hChosen :
      (attempt.chosen statement).1 = .replica index) :
    statement.Reads ∧
      ((Act.pick .read false).run attempt.asked.db).1 =
        .replica index ∧
      isHealthyAt
        (attempt.asked.db.health.snapshot
          attempt.asked.db.clock) index = true := by
  by_cases hReads : statement.Reads
  · rcases hReads with ⟨bound, rfl⟩
    have hPick :
        ((Act.pick .read false).run attempt.asked.db).1 =
          .replica index :=
      hChosen
    exact ⟨⟨bound, rfl⟩, hPick,
      Act.isHealthyAt_of_pick hPick⟩
  · rw [chosen_of_writes hReads] at hChosen
    cases hChosen

/-
  All calls of an attempt are made on the primary, or on the
  replica that was chosen.
-/
theorem Trail.target
    (hTrail : attempt.Trail statement crowd)
    {entry : Crowd.Entry}
    (hEntry :
      entry ∈ Crowd.callsBy attempt.client crowd.log) :
    entry.target = .primary ∨
      entry.target = (attempt.chosen statement).1 := by
  rcases hTrail.call hEntry with
    ⟨conn, hConn, -, hTarget⟩
  rw [hTarget]
  exact (hTrail.place hConn).symm.imp And.right id

end Attempt

------------------------------------------------------------
-- Runs
------------------------------------------------------------

/-
  Where the calls of a journey are made, with all calls on
  all connections noted: those of transactions on the
  primary; those for a statement that writes, too; and those
  for a read on a replica only if that was chosen and was
  healthy then.
-/
structure Journey.Placed
    (statement : Session.Statement)
    (journey : Journey σ) : Prop where
  noted :
    ∀ id,
      journey.crowd.db.callsOn id =
        Crowd.callsIn journey.crowd.log id
  transactions :
    ∀ entry ∈ journey.crowd.log,
      entry.client.purpose = .transaction →
        entry.target = .primary
  writes :
    ¬ statement.Reads →
      ∀ attempt ∈ journey.attempts,
        ∀ entry ∈
            Crowd.callsBy attempt.client journey.crowd.log,
          entry.target = .primary
  reads :
    ∀ attempt ∈ journey.attempts,
      ∀ entry ∈
          Crowd.callsBy attempt.client journey.crowd.log,
        ∀ index, entry.target = .replica index →
          ((Act.pick .read false).run attempt.asked.db).1 =
              .replica index ∧
            isHealthyAt
              (attempt.asked.db.health.snapshot
                attempt.asked.db.clock) index = true

namespace Journey.Sound

variable {statement : Session.Statement} {config : Config}
variable {journey : Journey σ}

/- All calls are noted, and in an order that is kept. -/
theorem owned
    (hSound : journey.Sound statement config) :
    (∀ id,
      journey.crowd.db.callsOn id =
        Crowd.callsIn journey.crowd.log id) ∧
      Crowd.Orderly journey.crowd.log := by
  have hWhole :
      (journey.whole statement).db = journey.crowd.db ∧
        (journey.whole statement).log =
          journey.crowd.log := by
    unfold whole
    split <;> exact ⟨rfl, rfl⟩
  rw [← hWhole.1, ← hWhole.2]
  exact ⟨hSound.lawful.owned.complete,
    hSound.lawful.owned.orderly⟩

/-
  A journey that is sound puts each attempt where it
  belongs.
-/
theorem placed
    (hSound : journey.Sound statement config) :
    journey.Placed statement where
  noted := hSound.owned.1
  transactions entry hEntry hTransaction := by
    rcases List.append_of_mem hEntry with
      ⟨later, earlier, hSplit⟩
    exact (hSound.owned.2.follows hSplit).primary
      hTransaction
  writes hWrites attempt hAttempt entry hEntry := by
    have hTarget :=
      (hSound.trails attempt hAttempt).target hEntry
    rw [Attempt.chosen_of_writes hWrites, or_self]
      at hTarget
    exact hTarget
  reads attempt hAttempt entry hEntry index hReplica := by
    have hTarget :=
      (hSound.trails attempt hAttempt).target hEntry
    rw [hReplica] at hTarget
    rcases hTarget with hPrimary | hChosen
    · cases hPrimary
    · exact (Attempt.chosen_replica hChosen.symm).2

end Journey.Sound

/-
  Wherever any number of clients have brought a database,
  and whatever they and the system do then: all calls of
  their transactions are made on the primary; and so are all
  calls for a statement that is run on the database, unless
  it is a read and a replica was chosen for it that was
  healthy at that moment.  A query reads if it is said to,
  or if it is found to when nothing is said.
-/
theorem Journey.writes_on_primary
    (config : Config)
    (backend : Backend σ)
    (memory : σ)
    (turns : List Crowd.Turn)
    (statement : Session.Statement)
    (moves : List Move) :
    let crowd :=
      (Crowd.new config backend memory).pass turns
    let journey := (start crowd).play statement moves
    journey.Placed statement ∧
      ∀ (query : Query) (bound : Bound),
        ((query.statement bound).Reads ↔
            query.intent = some .read ∨
              query.intent = none ∧
                Intent.detect bound.query = .read) ∧
          ¬ (query.onPrimary.statement bound).Reads := by
  intro crowd journey
  have hSound : journey.Sound statement config :=
    (Sound.start backend memory turns).play moves
  refine ⟨hSound.placed, ?_⟩
  intro query bound
  exact ⟨query.reads_iff bound,
    query.not_reads_onPrimary bound⟩

/-
  Who holds a connection to a replica can write there.  What
  is run on a connection that is held is not routed.
-/
theorem Crowd.held_replica_written :
    let crowd :=
      (Crowd.new sampleConfig (sampleBackend 2) 0).pass
        sampleReading
    let query := Query.new "delete from t"
    let run :=
      ((query.execute crowd.db.dialect Use.executor).run
        sampleReader).run crowd.db
    crowd.holders.map Holder.conn = [sampleReader] ∧
      sampleReader.target = .replica 0 ∧
      run.1.1 = .ok 0 ∧
      run.2.callsOn sampleReader.id =
        [(.dml ⟨"delete from t", []⟩, .done)] := by
  intro crowd query run
  have hBound :
      query.bound crowd.db.dialect =
        .ok ⟨"delete from t", []⟩ := by
    change
      (Query.new "delete from t").bound
        ⟨.numbered, .reject⟩ = _
    with_unfolding_all rfl
  refine ⟨rfl, rfl, ?_⟩
  have hRun :
      run =
        ((query.execute crowd.db.dialect Use.executor).run
          sampleReader).run crowd.db :=
    rfl
  rw [Query.execute_eq, hBound] at hRun
  rw [hRun]
  exact ⟨rfl, rfl⟩

end SqlAccess
