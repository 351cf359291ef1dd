import SqlAccess.Proofs.Pool.Occupancy
import SqlAccess.Proofs.Pool.Waiting
import SqlAccess.Proofs.Routing.Rest

/-
  This file follows a read to a replica whose connection
  does not open.  Only a failure that spoils connections
  sends the read to the primary and has the replica rest:
  the checkout is then one at the primary, and gets what the
  primary has.  Any other failure is what the checkout ends
  with, and nothing is noted of the replica.

  Key definitions include:
    * `Database.Unreachable`
    * `Database.unopened`
    * `Database.rested`
    * `Database.Provides`
    * `World.Demand.HasToOpen`

  Key theorems include:
    * `Act.checkoutAt_of_provides`
    * `World.Demand.serve_of_unreachable`
    * `Waiter.proceed_of_unreachable`
    * `World.Demand.failover`
-/

namespace SqlAccess

variable {σ : Type}

------------------------------------------------------------
-- Connections That Do Not Open
------------------------------------------------------------

namespace Database

/- A connection to a place does not open, with a failure. -/
def Unreachable
    (db : Database σ)
    (target : Target)
    (e : Error) : Prop :=
  ∃ pool, db.pool? target = some pool ∧
    (db.backend.connect pool.address db.memory).1 =
      .failed e

/- A database after a connection was to be opened. -/
def unopened
    (db : Database σ)
    (target : Target) : Database σ :=
  ((Act.openNew target).run db).2

/- A database with one more replica that is left alone. -/
def rested
    (db : Database σ)
    (index : Nat) : Database σ :=
  ((Act.markReplicaDown (.replica index)).run db).2

/-
  The primary can hand out a connection at once: it is open
  and has a place, and the connection is the first idle one
  that may be used, or there is none and a new one opens.
-/
structure Provides
    (db : Database σ)
    (conn : Connection) : Prop where
  isOpen : db.primary.closed = false
  room :
    db.primary.held + db.primary.opening < db.primary.limit
  source :
    db.primary.reuse.found = some conn ∨
      db.primary.reuse.found = none ∧
        (db.backend.connect db.primary.address
          db.memory).1 =
          .done () ∧
        conn =
          .new ⟨db.opened + 1, db.primary.address⟩
            .primary

section Unreachable

variable {db : Database σ} {target : Target} {e : Error}

/-
  What cannot be reached fails to open, and only what the
  backend remembers and the log change.
-/
theorem Unreachable.openNew_run
    (hUnreachable : db.Unreachable target e) :
    ∃ memory history,
      (Act.openNew target).run db =
        (.finished (.error e),
          { db with
            memory := memory
            history := history }.modifyPool target
              Pool.abandon) := by
  rcases hUnreachable with ⟨pool, hPool, hReply⟩
  have hConnect :=
    Act.connect_run_failed (Prod.ext hReply rfl)
  refine
    ⟨(db.backend.connect pool.address db.memory).2,
      .connecting pool.address (.failed e) :: db.history,
        ?_⟩
  change Act.openNew target db = _
  unfold Act.openNew
  rw [Act.get_bind_run]
  simp only [hPool]
  refine
    (Act.bind_run (Act.connect pool.address) _ db).trans ?_
  rw [hConnect]
  rfl

variable {index : Nat}

/- Nothing is noted of a replica that does not open. -/
theorem Unreachable.unopened_spec
    (hUnreachable : db.Unreachable (.replica index) e) :
    let unopened := db.unopened (.replica index)
    (Act.openNew (.replica index)).run db =
        (.finished (.error e), unopened) ∧
      unopened.health = db.health ∧
      unopened.clock = db.clock ∧
      unopened.primary = db.primary := by
  rcases hUnreachable.openNew_run with
    ⟨memory, history, hRun⟩
  simp only [unopened, hRun, true_and]
  exact ⟨rfl, rfl, rfl⟩

end Unreachable

end Database

------------------------------------------------------------
-- Checkouts at the Primary
------------------------------------------------------------

namespace Act

/- Connections that are closed are noted in the log only. -/
theorem destroy_run
    (conns : List Connection)
    (db : Database σ) :
    (destroy conns).run db =
      ((),
        { db with
          history :=
            Event.closings conns ++ db.history }) := by
  induction conns generalizing db with
  | nil => rfl
  | cons conn rest ih =>
      refine (ih (db.record (.closed conn.link.id))).trans
        ?_
      simp [Event.closings, Database.record, Connection.id]

/- Those that are passed over are closed. -/
theorem take_run
    {db : Database σ}
    {target : Target}
    {pool : Pool}
    (hPool : db.pool? target = some pool) :
    let passed : Database σ :=
      { db.modifyPool target fun _ => pool.reuse.pool with
        history :=
          Event.closings pool.reuse.spoiled ++ db.history }
    (take target).run db =
      match pool.reuse.found with
      | some conn =>
          (some conn, passed.modifyPool target Pool.deliver)
      | none => (none, passed) := by
  intro passed
  have hDestroy :
      (destroy pool.reuse.spoiled).run
          (db.modifyPool target fun _ => pool.reuse.pool) =
        ((), passed) := by
    rw [destroy_run, Database.history_modifyPool]
  change take target db = _
  unfold take
  rw [get_bind_run]
  simp only [hPool]
  change
    (match pool.reuse.found with
      | some conn => do
          modifyPool target Pool.deliver
          return some conn
      | none =>
          return none : Act σ (Option Connection)).run
        ((destroy pool.reuse.spoiled).run
          (db.modifyPool target fun _ =>
            pool.reuse.pool)).2 = _
  rw [hDestroy]
  cases pool.reuse.found <;> rfl

variable {db : Database σ} {conn : Connection}

/- With a place that is free, a user takes what there is. -/
theorem enter_primary_run
    (hOpen : db.primary.closed = false)
    (hRoom :
      db.primary.held + db.primary.opening <
        db.primary.limit) :
    (enter .primary).run db =
      (take .primary >>= fun found =>
        match found with
        | some conn => return .finished (.ok conn)
        | none => return .paused .forConnection :
          Act σ Progress).run
        { db with
          primary :=
            { db.primary with
              opening := db.primary.opening + 1 } } := by
  have hReserve :
      db.primary.reserve =
        .ok { db.primary with
          opening := db.primary.opening + 1 } := by
    simp [Pool.reserve, hOpen, hRoom]
  change enter .primary db = _
  unfold enter seat reserve
  rw [bind_assoc, get_bind_run]
  simp only [Database.pool?, hReserve]
  rfl

/- An idle connection is handed out at once. -/
theorem enter_primary_found
    (hOpen : db.primary.closed = false)
    (hRoom :
      db.primary.held + db.primary.opening <
        db.primary.limit)
    (hFound : db.primary.reuse.found = some conn) :
    ((enter .primary).run db).1 = .finished (.ok conn) := by
  rw [enter_primary_run hOpen hRoom, StateT.run_bind,
    take_run rfl]
  have hSame :
      { db.primary with
        opening := db.primary.opening + 1 }.reuse.found =
          some conn :=
    hFound
  simp only [hSame]
  rfl

/- Without an idle connection, one is to be opened. -/
theorem enter_primary_none
    (hOpen : db.primary.closed = false)
    (hRoom :
      db.primary.held + db.primary.opening <
        db.primary.limit)
    (hFound : db.primary.reuse.found = none) :
    ∃ after,
      (enter .primary).run db =
          (.paused .forConnection, after) ∧
        after.backend = db.backend ∧
        after.memory = db.memory ∧
        after.opened = db.opened ∧
        after.primary.address = db.primary.address := by
  rw [enter_primary_run hOpen hRoom, StateT.run_bind,
    take_run rfl]
  have hSame :
      { db.primary with
        opening := db.primary.opening + 1 }.reuse.found =
          none :=
    hFound
  simp only [hSame]
  exact ⟨_, rfl, rfl, rfl, rfl, rfl⟩

/- A connection to the primary that opens is handed out. -/
theorem openNew_primary_done
    (hReply :
      (db.backend.connect db.primary.address db.memory).1 =
        .done ()) :
    ((openNew .primary).run db).1 =
      .finished (.ok
        (.new ⟨db.opened + 1, db.primary.address⟩
          .primary)) := by
  have hConnect := connect_run_done (Prod.ext hReply rfl)
  change (openNew .primary db).1 = _
  unfold openNew
  rw [get_bind_run]
  simp only [Database.pool?]
  refine Eq.trans
    (congrArg Prod.fst
      (bind_run (connect db.primary.address) _ db)) ?_
  rw [hConnect]
  rfl

/- The primary hands out what it can provide. -/
theorem checkoutAt_of_provides
    (hProvides : db.Provides conn) :
    ((checkoutAt .primary).run db).1 = .ok conn := by
  rcases hProvides with ⟨hOpen, hRoom, hSource⟩
  rw [checkoutAt_eq, StateT.run_bind]
  rcases hSource with hIdle | ⟨hNone, hReply, rfl⟩
  · have hEnter := enter_primary_found hOpen hRoom hIdle
    rcases hRun : (enter .primary).run db with
      ⟨progress, after⟩
    rw [hRun] at hEnter
    cases hEnter
    rfl
  · rcases enter_primary_none hOpen hRoom hNone with
      ⟨after, hEnter, hBackend, hMemory, hOpened,
        hAddress⟩
    rw [← hBackend, ← hMemory, ← hAddress] at hReply
    have hNew := openNew_primary_done hReply
    rw [hOpened, hAddress] at hNew
    rcases hRun : (openNew .primary).run after with
      ⟨progress, last⟩
    rw [hRun] at hNew
    cases hNew
    rw [hEnter]
    change
      (((openNew .primary >>= settle .primary).run
        after).1 =
        _)
    rw [StateT.run_bind, hRun]
    rfl

end Act

------------------------------------------------------------
-- Reads of an Unreachable Replica
------------------------------------------------------------

/- To ask for the primary is to ask for a place there. -/
theorem Waiter.begin_primary :
    (Waiter.begin (.role .primary) :
      Act σ (Except Waiter (Except Error Connection))) = do
      return standing .primary false
        (← Act.enter .primary) := by
  unfold Waiter.begin World.Demand.choose
  simp only [pure_bind]
  congr 1
  funext progress
  cases progress <;> rfl

namespace Waiter

variable {db : Database σ} {index : Nat}

/-
  A part of a checkout in which the connection to a replica
  does not open goes on at the primary, or fails.
-/
theorem proceed_of_unreachable
    {e : Error}
    (hUnreachable : db.Unreachable (.replica index) e) :
    let waiter : Waiter :=
      ⟨.replica index, .forConnection, true⟩
    let unopened := db.unopened (.replica index)
    (waiter.proceed true).run db =
      if e.spoilsConnection then
        (begin (.role .primary)).run (unopened.rested index)
      else (.ok (.error e), unopened) := by
  rcases hUnreachable.unopened_spec with ⟨hRun, -⟩
  intro waiter unopened
  change
    (resume (.replica index) true
      ((Act.openNew (.replica index)).run db).1).run
        ((Act.openNew (.replica index)).run db).2 = _
  rw [hRun, begin_primary]
  cases hSpoils : e.spoilsConnection <;>
  · simp only [resume, Act.fallsBack, hSpoils]
    rfl

/-
  One that takes too long to open is left for the primary.
-/
theorem proceed_of_late (index : Nat) (db : Database σ) :
    let waiter : Waiter :=
      ⟨.replica index, .forConnection, true⟩
    let late :=
      ((Act.outlastConnect (.replica index)).run db).2
    (waiter.proceed false).run db =
      (begin (.role .primary)).run (late.rested index) := by
  rw [begin_primary]
  rfl

end Waiter

namespace World.Demand

/-
  A read that is routed to a replica and finds a place
  there, but no connection: the database when it is to be
  opened.
-/
structure HasToOpen
    (demand : World.Demand)
    (start : Database σ)
    (index : Nat)
    (db : Database σ) : Prop where
  reads :
    demand = .role .replica ∨ demand = .routed .read false
  routed :
    ((Act.pick .read false).run start).1 = .replica index
  enters :
    (Act.enter (.replica index)).run
        ((Act.pick .read false).run start).2 =
      (.paused .forConnection, db)

variable {demand : World.Demand} {start db : Database σ}
variable {index : Nat} {e : Error}

/-
  A read that has to open a connection was sent to a
  replica.
-/
theorem HasToOpen.choose_run
    (hOpen : demand.HasToOpen start index db) :
    demand.choose.run start =
      ((.replica index, true),
        ((Act.pick .read false).run start).2) := by
  rcases hOpen with ⟨rfl | rfl, hRouted, -⟩ <;>
  · rw [← hRouted]
    rfl

/-
  A whole checkout goes on at the primary, or fails, in the
  same way if nobody comes in between.
-/
theorem serve_of_unreachable
    (hOpen : demand.HasToOpen start index db)
    (hUnreachable : db.Unreachable (.replica index) e) :
    let unopened := db.unopened (.replica index)
    demand.serve.run start =
      if e.spoilsConnection then
        (Act.checkout .primary).run (unopened.rested index)
      else (.error e, unopened) := by
  rcases hUnreachable.unopened_spec with ⟨hRun, -⟩
  intro unopened
  have hCheckout :
      (Act.checkoutAt (.replica index)).run
          ((Act.pick .read false).run start).2 =
        (.error e, unopened) := by
    rw [Act.checkoutAt_eq, StateT.run_bind, hOpen.enters]
    change
      (Act.settle (.replica index)
        ((Act.openNew (.replica index)).run db).1).run
          ((Act.openNew (.replica index)).run db).2 = _
    rw [hRun]
    rfl
  rw [demand.serve_eq, StateT.run_bind, hOpen.choose_run]
  change
    (Act.fallBack (.replica index)
      ((Act.checkoutAt (.replica index)).run _).1).run
        ((Act.checkoutAt (.replica index)).run _).2 = _
  rw [hCheckout]
  cases hSpoils : e.spoilsConnection <;>
  · simp only [Act.fallBack, Act.fallsBack, hSpoils]
    rfl

/-
  A read is routed to a replica whose connection has to be
  opened and does not open.  If the failure spoils
  connections, the replica rests from then on, and the
  checkout is one at the primary, whether others come in
  between or not; it ends with the connection that the
  primary can provide.  With any other failure the checkout
  ends, and nothing is noted of the replica, whatever the
  primary can provide.  A connection that takes too long to
  open is as one that spoils connections.
-/
theorem failover
    {db : Database σ}
    {index : Nat}
    {e : Error}
    (hUnreachable : db.Unreachable (.replica index) e) :
    let waiter : Waiter :=
      ⟨.replica index, .forConnection, true⟩
    let unopened := db.unopened (.replica index)
    let rested := unopened.rested index
    (e.spoilsConnection = true →
      rested.health.RestsUntil index
          (db.clock + db.health.cooldown) ∧
        (waiter.proceed true).run db =
          (Waiter.begin (.role .primary)).run rested ∧
        ∀ demand start,
          HasToOpen demand start index db →
            demand.serve.run start =
                (Act.checkout .primary).run rested ∧
              ∀ conn, rested.Provides conn →
                (demand.serve.run start).1 = .ok conn) ∧
      (e.spoilsConnection = false →
        unopened.health = db.health ∧
          unopened.primary = db.primary ∧
          (waiter.proceed true).run db =
            (.ok (.error e), unopened) ∧
          ∀ demand start,
            HasToOpen demand start index db →
              demand.serve.run start =
                (.error e, unopened)) ∧
      (waiter.proceed false).run db =
        (Waiter.begin (.role .primary)).run
          (((Act.outlastConnect (.replica index)).run
            db).2.rested index) := by
  intro waiter unopened rested
  have hProceed :=
    Waiter.proceed_of_unreachable hUnreachable
  rcases hUnreachable.unopened_spec with
    ⟨-, hHealth, hClock, hPrimary⟩
  refine ⟨?_, ?_, Waiter.proceed_of_late index db⟩
  · intro hSpoils
    refine ⟨?_, ?_, fun demand start hOpen => ?_⟩
    · rw [← hHealth, ← hClock]
      exact Health.restsUntil_fail _ _ _
    · rw [hProceed, if_pos hSpoils]
    · have hServe :=
        serve_of_unreachable hOpen hUnreachable
      rw [hServe, if_pos hSpoils]
      exact ⟨rfl,
        fun conn => Act.checkoutAt_of_provides⟩
  · intro hStays
    have hNot : ¬ e.spoilsConnection = true := by
      rw [hStays]
      exact Bool.false_ne_true
    refine
      ⟨hHealth, hPrimary, ?_,
        fun demand start hOpen => ?_⟩
    · rw [hProceed, if_neg hNot]
    · have hServe :=
        serve_of_unreachable hOpen hUnreachable
      rw [hServe, if_neg hNot]

section Sample

/-
  A backend that opens one connection to the replica, and
  then fails to in one way.
-/
def sampleRefusing (e : Error) : Backend Nat :=
  { Crowd.sampleBackend 2 with
    connect := fun address count =>
      (if address = "r" && count ≠ 0 then .failed e
        else .done (), count + 1) }

/- Somebody holds the connection to the replica. -/
def sampleReplicaHeld (e : Error) : Database Nat :=
  ((Act.checkout .replica).run
    (.new { Crowd.sampleConfig with maxConnections := 2 }
      (sampleRefusing e) 0)).2

/- The same when another is to be opened. -/
def sampleReplicaEntered (e : Error) : Database Nat :=
  ((Act.enter (.replica 0)).run
    ((Act.pick .read false).run (sampleReplicaHeld e)).2).2

/- A failure that spoils connections. -/
def sampleRefusal : Error :=
  .connection "" "no"

/-
  A replica that refuses a second connection leaves a
  checkout to the primary.
-/
theorem failover_sample :
    (sampleReplicaEntered sampleRefusal).Unreachable
        (.replica 0) sampleRefusal ∧
      ((Act.checkout .replica).run
          (sampleReplicaHeld sampleRefusal)).1 =
        .ok (.new ⟨2, "p"⟩ .primary) := by
  have hOpen :
      HasToOpen (.role .replica)
        (sampleReplicaHeld sampleRefusal) 0
        (sampleReplicaEntered sampleRefusal) :=
    ⟨.inl rfl, rfl, Prod.ext rfl rfl⟩
  have hUnreachable :
      (sampleReplicaEntered sampleRefusal).Unreachable
        (.replica 0) sampleRefusal :=
    ⟨_, rfl, rfl⟩
  have hProvides :
      (((sampleReplicaEntered sampleRefusal).unopened
        (.replica 0)).rested 0).Provides
          (.new ⟨2, "p"⟩ .primary) :=
    ⟨rfl, by decide, .inr ⟨rfl, rfl, rfl⟩⟩
  rcases (failover hUnreachable).1 rfl with
    ⟨-, -, hServes⟩
  exact ⟨hUnreachable,
    (hServes _ _ hOpen).2 _ hProvides⟩

/-
  A replica that refuses a connection with another failure
  fails the read, and is chosen for the next one, though the
  primary has a connection.
-/
theorem refused_read_fails :
    let e : Error := .query "" "no"
    let run :=
      (Act.checkout .replica).run (sampleReplicaHeld e)
    run.1 = .error e ∧
      ((Act.checkout .primary).run run.2).1 =
        .ok (.new ⟨2, "p"⟩ .primary) ∧
      isHealthyAt (run.2.health.snapshot run.2.clock) 0 =
        true ∧
      ((Act.pick .read false).run run.2).1 = .replica 0 :=
  ⟨rfl, rfl, rfl, rfl⟩

end Sample

end World.Demand

end SqlAccess
