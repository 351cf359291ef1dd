import SqlAccess.Proofs.Pool.Occupancy
import SqlAccess.Proofs.Routing.Passage

/-
  This file says which failures on a replica have it left
  alone.  After a failure of the connection that the system
  reported, nothing is routed to the replica until its rest
  is over or a statement on it is answered; a statement that
  took too long only spoils its connection.

  Key definitions include:
    * `Use.Spoiled`
    * `Request`
    * `Request.serve`

  Key theorems include:
    * `Use.dispatch_spoiled`
    * `Use.perform_spoiled`
    * `Crowd.failed_replica_rests`
-/

namespace SqlAccess

variable {σ : Type}

------------------------------------------------------------
-- What a Failure Leaves Behind
------------------------------------------------------------

/-
  To name a statement does not change what a failure spoils.
-/
@[simp]
theorem Error.spoilsConnection_inStatement
    (e : Error)
    (statement : String) :
    (e.inStatement statement).spoilsConnection =
      e.spoilsConnection := by
  unfold inStatement
  split <;> rfl

namespace Use

/-
  How a call comes to spoil its connection: the system said
  that it failed, and the replica is left alone from then
  on; or the call took too long, and nothing is noted of the
  replica.
-/
inductive Spoiled
    (call : Call)
    (conn : Connection)
    (e : Error)
    (before after : Database σ) : Prop
  | reported
      (cause : Error)
      (hEvent :
        after.history =
          .called conn.link.id call (.failed cause) ::
            before.history)
      (hReplica :
        ∀ index, conn.target = .replica index →
          after.clock = before.clock + 1 ∧
            after.health =
              before.health.fail index before.clock)
  | tookTooLong
      (limit : Duration)
      (hLimit : before.config.statementTimeout = some limit)
      (hError : e = .statementTimeout call.sql limit)
      (hHealth : after.health = before.health)
      (hClock : after.clock = before.clock)

/- A call that the system reports a failure of. -/
theorem Spoiled.of_condemned
    {call : Call}
    {conn : Connection}
    {e : Error}
    {db : Database σ}
    (memory : σ)
    (cause : Error) :
    Spoiled call conn e db
      ((Act.markReplicaDown conn.target).run
        ({ db with memory := memory }.record
          (.called conn.link.id call
            (.failed cause)))).2 := by
  refine .reported cause ?_ ?_
  · exact Act.markReplicaDown_history conn.target _
  · intro index hTarget
    rw [hTarget]
    exact ⟨rfl, rfl⟩

/- A statement that takes too long spoils its connection. -/
theorem giveUp_run
    (sql : String)
    (limit : Duration)
    (conn : Connection)
    (db : Database σ) :
    let run := ((giveUp sql limit).run conn).run db
    run.1 = (.statementTimeout sql limit, conn.spoil) ∧
      run.2.health = db.health ∧
        run.2.clock = db.clock := by
  have hRun :
      ((giveUp sql limit).run conn).run db =
        (((do
          if db.backend.cancellable then
            let _ ← ask .cancel
          spoil
          return .statementTimeout sql limit :
            Use σ Error).run conn).run db) :=
    rfl
  rw [hRun]
  cases db.backend.cancellable <;> exact ⟨rfl, rfl, rfl⟩

/- A call without a reply takes too long, or never ends. -/
theorem outlast_run
    (sql : String)
    (conn : Connection)
    (db : Database σ) :
    ((outlast sql).run conn).run db =
      match db.config.statementTimeout with
      | some limit => ((giveUp sql limit).run conn).run db
      | none => ((neverEnds sql).run conn).run db := by
  have hRun :
      ((outlast sql).run conn).run db =
        (((match db.config.statementTimeout with
          | some limit => giveUp sql limit
          | none => neverEnds sql : Use σ Error).run
            conn).run db) :=
    rfl
  rw [hRun]
  cases db.config.statementTimeout <;> rfl

section Failures

variable {call : Call} {conn used : Connection}
variable {db after : Database σ} {e : Error}

/-
  A statement that fails with its connection spoils it, in
  one of the two ways.
-/
theorem dispatch_spoiled
    (hRun :
      ((dispatch call).run conn).run db =
        ((.error e, used), after))
    (hSpoils : e.spoilsConnection = true)
    (hEnds : used.unanswered = false) :
    used.healthy = false ∧
      Spoiled call conn e db after := by
  rcases hReply :
      db.backend.perform conn.link call db.memory with
    ⟨reply, memory⟩
  rw [dispatch_run hReply] at hRun
  cases reply with
  | done answer => cases hRun
  | failed cause =>
      by_cases hCause : cause.spoilsConnection = true
      · simp only [follow, hCause, if_true] at hRun
        cases hRun
        exact ⟨rfl, .of_condemned memory cause⟩
      · simp only [follow, hCause] at hRun
        cases hRun
        rw [Error.spoilsConnection_inStatement] at hSpoils
        exact absurd hSpoils hCause
  | silent =>
      let asked : Database σ :=
        { db with memory := memory }.record
          (.called conn.link.id call .silent)
      have hFollow :
          ((follow call .silent).run conn).run asked =
            let run :=
              ((outlast call.sql).run conn).run asked
            ((.error run.1.1, run.1.2), run.2) :=
        rfl
      change ((follow call .silent).run conn).run asked = _
        at hRun
      rw [hFollow, outlast_run] at hRun
      cases hLimit : db.config.statementTimeout with
      | some limit =>
          have hSame :
              asked.config.statementTimeout = some limit :=
            hLimit
          rcases giveUp_run call.sql limit conn asked with
            ⟨hGaveUp, hHealth, hClock⟩
          simp only [hSame, hGaveUp] at hRun
          cases hRun
          exact ⟨rfl,
            .tookTooLong limit hLimit rfl hHealth hClock⟩
      | none =>
          have hSame :
              asked.config.statementTimeout = none :=
            hLimit
          simp only [hSame] at hRun
          cases hRun
          cases hEnds

/-
  A sign of life that fails with its connection spoils it.
-/
theorem ping_spoiled
    (hRun :
      (ping.run conn).run db = ((.error e, used), after))
    (hSpoils : e.spoilsConnection = true)
    (hEnds : used.unanswered = false) :
    used.healthy = false ∧
      Spoiled .ping conn e db after := by
  let heed : Reply Unit → Use σ (Except Error Unit)
    | .done () => return .ok ()
    | .failed e => do
        if e.spoilsConnection then condemn
        return .error e
    | .silent => do return .error (← neverEnds "")
  have hPing : (ping : Use σ (Except Error Unit)) =
      ask .ping >>= heed :=
    rfl
  rcases hReply :
      db.backend.perform conn.link .ping db.memory with
    ⟨reply, memory⟩
  rw [hPing, bind_run, ask_run, hReply] at hRun
  cases reply with
  | done answer => cases hRun
  | failed cause =>
      by_cases hCause : cause.spoilsConnection = true
      · simp only [heed, hCause, if_true] at hRun
        cases hRun
        exact ⟨rfl, .of_condemned memory _⟩
      · simp only [heed, hCause] at hRun
        cases hRun
        exact absurd hSpoils hCause
  | silent =>
      cases hRun
      cases hEnds

/-
  What fails before a statement is not about its connection.
-/
theorem flushAll_error
    {pending : List String}
    (hRun :
      ((flushAll pending).run conn).run db =
        ((.error e, used), after)) :
    e.spoilsConnection = false := by
  induction pending generalizing conn db with
  | nil => cases hRun
  | cons sql rest ih =>
      rw [flushAll, bind_run] at hRun
      rcases hFirst :
          ((dispatch (.batch sql)).run conn).run db with
        ⟨⟨result, next⟩, middle⟩
      rw [hFirst] at hRun
      cases result with
      | ok _ => exact ih hRun
      | error _ =>
          cases hRun
          rfl

/-
  What was pending has been run before a statement fails
  with its connection.
-/
theorem perform_spoiled
    (hRun :
      ((perform call).run conn).run db =
        ((.error e, used), after))
    (hSpoils : e.spoilsConnection = true)
    (hEnds : used.unanswered = false) :
    ∃ flushed middle,
      (flush.run conn).run db =
        ((.ok (), flushed), middle) ∧
        used.healthy = false ∧
        Spoiled call flushed e middle after := by
  rw [perform, bind_run] at hRun
  rcases hFlush : (flush.run conn).run db with
    ⟨⟨result, flushed⟩, middle⟩
  rw [hFlush] at hRun
  cases result with
  | ok _ =>
      exact ⟨flushed, middle, rfl,
        dispatch_spoiled hRun hSpoils hEnds⟩
  | error _ =>
      cases hRun
      have hAbout : e.spoilsConnection = false :=
        flushAll_error hFlush
      rw [hAbout] at hSpoils
      cases hSpoils

/- Nothing happens where nothing is pending. -/
theorem flush_run_of_nil (hPending : conn.pending = []) :
    (flush.run conn).run db = ((.ok (), conn), db) := by
  cases conn
  cases hPending
  rfl

end Failures

end Use

------------------------------------------------------------
-- What Clients Ask of a Connection
------------------------------------------------------------

/-
  What a client can have done with a connection that it
  holds: run a statement, or ask for a sign of life.
-/
inductive Request
  | run (statement : Session.Statement)
  | ping

namespace Request

/- The call that is made in the end. -/
def call : Request → Call
  | run statement => statement.call
  | ping => .ping

/- Do what is asked for. -/
def serve :
    (request : Request) →
      Use σ (Except Error request.call.Answer)
  | run (.select _ statement) => Use.select statement
  | run (.dml statement) => Use.dml statement
  | run (.batch sql) => Use.batch sql
  | ping => Use.ping

/- Every statement is run after what is pending. -/
theorem serve_run (statement : Session.Statement) :
    ((run statement).serve :
      Use σ (Except Error statement.call.Answer)) =
      Use.perform statement.call := by
  cases statement <;> rfl

/-
  What fails with its connection spoils it, in a state that
  was reached by running what was pending.
-/
theorem serve_spoiled
    {request : Request}
    {conn used : Connection}
    {db after : Database σ}
    {e : Error}
    (hRun :
      (request.serve.run conn).run db =
        ((.error e, used), after))
    (hSpoils : e.spoilsConnection = true)
    (hEnds : used.unanswered = false) :
    used.healthy = false ∧
      ∃ flushed middle,
        db.Passes middle ∧
          (conn.pending = [] → middle = db) ∧
          flushed.link = conn.link ∧
          flushed.target = conn.target ∧
          Use.Spoiled request.call flushed e middle
            after := by
  cases request with
  | ping =>
      rcases Use.ping_spoiled hRun hSpoils hEnds with
        ⟨hHealthy, hSpoiled⟩
      exact ⟨hHealthy, conn, db, .refl db,
        fun _ => rfl, rfl, rfl, hSpoiled⟩
  | run statement =>
      rw [serve_run] at hRun
      rcases Use.perform_spoiled hRun hSpoils hEnds with
        ⟨flushed, middle, hFlush, hHealthy, hSpoiled⟩
      rcases Use.Ages.takePending.bind
        Use.flushAll_ages conn
          db with
        ⟨hTarget, hPasses, -, -, hLink, -⟩
      change ((Use.flush.run conn).run db).1.2.target = _
        at hTarget
      change db.Passes ((Use.flush.run conn).run db).2
        at hPasses
      change ((Use.flush.run conn).run db).1.2.link = _
        at hLink
      rw [hFlush] at hTarget hPasses hLink
      refine ⟨hHealthy, flushed, middle, hPasses, ?_,
        hLink, hTarget, hSpoiled⟩
      intro hPending
      rw [Use.flush_run_of_nil hPending] at hFlush
      cases hFlush
      rfl

end Request

------------------------------------------------------------
-- Runs
------------------------------------------------------------

namespace Crowd

/-
  Every failure that spoils a connection of a replica leaves
  that connection unhealthy, after whatever any number of
  clients have done.  If the system reported it, the replica
  is unhealthy from that time on, and nothing is routed to
  it for as long as a rest takes unless a statement on it is
  answered before, whatever the clients do then.  If it was
  a statement that took too long, nothing is noted of the
  replica.
-/
theorem failed_replica_rests
    (config : Config)
    (backend : Backend σ)
    (memory : σ)
    (turns : List Turn)
    {request : Request}
    {conn used : Connection}
    {index : Nat}
    {e : Error}
    {after : Database σ}
    (hCooldown : config.cooldownMillis ≠ 0)
    (hTarget : conn.target = .replica index)
    (hRun :
      let crowd :=
        (Crowd.new config backend memory).pass turns
      (request.serve.run conn).run crowd.db =
        ((.error e, used), after))
    (hSpoils : e.spoilsConnection = true)
    (hEnds : used.unanswered = false) :
    let crowd :=
      (Crowd.new config backend memory).pass turns
    used.healthy = false ∧
      ((∃ cause earlier time,
          after.history =
              .called conn.id request.call
                (.failed cause) ::
                earlier ∧
            after.clock = time + 1 ∧
            isHealthyAt (after.health.snapshot time) index =
              false ∧
            ∀ next : Crowd σ, next.db = after →
              ∀ later,
                let last := next.pass later
                answersAt index last.log =
                    answersAt index next.log →
                  last.db.clock <
                      time + config.cooldownMillis →
                    ∀ intent inTransaction,
                      ((Act.pick intent inTransaction).run
                        last.db).1 ≠ .replica index) ∨
        ∃ limit,
          config.statementTimeout = some limit ∧
            e = .statementTimeout request.call.sql limit ∧
            (conn.pending = [] →
              after.health = crowd.db.health ∧
                after.clock = crowd.db.clock)) := by
  intro crowd
  have hStart :
      (Crowd.new config backend memory).db.Passes
        crowd.db :=
    (pass_ages _ index turns).passes
  have hCooling :
      crowd.db.health.cooldown = config.cooldownMillis :=
    hStart.cooldown
  rcases Request.serve_spoiled hRun hSpoils hEnds with
    ⟨hHealthy, flushed, middle, hPasses, hSame, hLink,
      hPlace, hSpoiled⟩
  refine ⟨hHealthy, ?_⟩
  cases hSpoiled with
  | reported cause hEvent hReplica =>
      rw [hLink] at hEvent
      rw [hPlace] at hReplica
      rcases hReplica index hTarget with
        ⟨hClock, hHealth⟩
      have hRest :
          middle.health.cooldown = config.cooldownMillis :=
        hPasses.cooldown.trans hCooling
      have hRests :
          after.health.RestsUntil index
            (middle.clock + config.cooldownMillis) := by
        rw [hHealth, ← hRest]
        exact Health.restsUntil_fail _ _ _
      refine .inl
        ⟨cause, _, middle.clock, hEvent, hClock, ?_, ?_⟩
      · exact Health.not_healthy_of_rests hRests (by omega)
      · intro next hNext later last hAnswers hTime intent
          inTransaction
        subst hNext
        have hAges :=
          (next.pass_ages index later).rests hAnswers
        have hLater :
            last.db.health.RestsUntil index
              (middle.clock + config.cooldownMillis) := by
          apply hAges.rests _ ?_ hRests
          have hKept :
              next.db.health.cooldown =
                config.cooldownMillis := by
            rw [hHealth]
            exact hRest
          omega
        exact Act.pick_ne_of_rests hLater hTime _ _
  | tookTooLong limit hLimit hError hHealth hClock =>
      refine .inr ⟨limit, ?_, hError, ?_⟩
      · rw [hPasses.config.trans hStart.config] at hLimit
        exact hLimit
      · intro hPending
        cases hSame hPending
        exact ⟨hHealth, hClock⟩

section Sample

/- A backend whose replica answers statements in one way. -/
def sampleFaulty
    (reply : (call : Call) → Reply call.Answer) :
    Backend Nat :=
  { sampleBackend 2 with
    perform := fun link call count =>
      (if link.address = "r" then reply call
        else .done call.plainAnswer, count) }

/- A client has a connection to the replica. -/
def sampleReading : List Turn :=
  [.move (.ask (.role .replica)), .move (.await 0 true)]

/- The connection of that client. -/
def sampleReader : Connection :=
  .new ⟨1, "r"⟩ (.replica 0)

/- What the client runs on it. -/
def sampleRead : Request :=
  .run (.select .read ⟨"select 1", []⟩)

/-
  A replica that loses its connection is left for the
  primary, and one that only takes too long is read again.
-/
theorem failed_replica_rests_sample :
    let crowd :=
      (Crowd.new sampleConfig
        (sampleFaulty fun _ =>
          .failed (.connection "" "no"))
        0).pass sampleReading
    let run :=
      (sampleRead.serve.run sampleReader).run crowd.db
    let next : Crowd Nat := { crowd with db := run.2 }
    run.1.1 = .error (.connection "select 1" "no") ∧
      run.1.2.healthy = false ∧
      ((Act.pick .read false).run
        (next.pass [.wait 1000]).db).1 ≠ .replica 0 := by
  intro crowd run next
  have hTarget : sampleReader.target = .replica 0 := rfl
  have hRun :
      (sampleRead.serve.run sampleReader).run crowd.db =
        ((.error (.connection "select 1" "no"), run.1.2),
          run.2) :=
    rfl
  rcases failed_replica_rests sampleConfig
      (sampleFaulty fun _ => .failed (.connection "" "no"))
        0
      sampleReading (by decide) hTarget hRun rfl rfl with
    ⟨hHealthy, hReported | ⟨limit, hLimit, -⟩⟩
  · rcases hReported with
      ⟨-, -, time, -, hTime, -, hRests⟩
    refine ⟨rfl, hHealthy, ?_⟩
    apply hRests next rfl [.wait 1000] rfl
    change 2 = time + 1 at hTime
    change 1002 < time + 30000
    omega
  · cases hLimit

/-
  A statement that took too long does not have its replica
  left alone: the next read is routed there at once.
-/
theorem slow_replica_chosen :
    let crowd :=
      (Crowd.new
        { sampleConfig with statementMillis := some 100 }
        (sampleFaulty fun _ => .silent)
          0).pass sampleReading
    let run :=
      (sampleRead.serve.run sampleReader).run crowd.db
    let e : Error :=
      .statementTimeout "select 1" (.ofMillis 100)
    run.1.1 = .error e ∧ e.spoilsConnection = true ∧
      run.1.2.healthy = false ∧
      run.1.2.unanswered = false ∧
      isHealthyAt (run.2.health.snapshot run.2.clock) 0 =
        true ∧
      ((Act.pick .read false).run run.2).1 =
        .replica 0 := by
  exact ⟨rfl, rfl, rfl, rfl, rfl, rfl⟩

end Sample

end Crowd

end SqlAccess
