import SqlAccess.Proofs.Pool.Seeking
import SqlAccess.Proofs.Routing.Choice

/-
  This file follows how long a replica that failed is left
  alone.  Whatever is done with the pools, time goes on, and
  a replica that rests goes on to do so for as long as it
  was to; and a read is never routed to a replica that
  rests.

  Key definitions include:
    * `Health.RestsUntil`
    * `Database.Passes`
    * `Database.Ages`
    * `Act.Ages`

  Key theorems include:
    * `Target.isHealthyAt_of_route`
    * `Act.pick_ne_of_rests`
    * `Waiter.begin_ages`
    * `Waiter.proceed_ages`
    * `Act.release_ages`
-/

namespace SqlAccess

------------------------------------------------------------
-- Healthy Replicas
------------------------------------------------------------

/- A policy only chooses a replica that is healthy. -/
theorem Balancing.isHealthyAt_of_choose?
    {policy : Balancing}
    {replicas : List Candidate}
    {cursor : UInt64}
    {index : Nat}
    (hChosen :
      policy.choose? replicas cursor = .ok (some index)) :
    isHealthyAt replicas index = true := by
  cases policy with
  | roundRobin =>
      exact (roundRobin?_eq_some_iff.1 hChosen).1.healthy
  | leastRecentlyUsed =>
      exact isHealthyAt_of_leastRecentlyUsed?
        (Except.ok.inj hChosen)

/-
  A statement is only routed to a replica that is healthy.
-/
theorem Target.isHealthyAt_of_route
    {intent : Intent}
    {inTransaction : Bool}
    {replicas : List Candidate}
    {cursor : UInt64}
    {policy : Balancing}
    {index : Nat}
    (hRoute :
      route intent inTransaction replicas cursor policy =
        .ok (.replica index)) :
    isHealthyAt replicas index = true := by
  unfold route at hRoute
  split at hRoute
  · cases hRoute
  · cases hChosen : policy.choose? replicas cursor with
    | error fault =>
        rw [hChosen] at hRoute
        cases hRoute
    | ok chosen =>
        rw [hChosen] at hRoute
        cases chosen with
        | none => cases hRoute
        | some found =>
            cases hRoute
            exact Balancing.isHealthyAt_of_choose? hChosen

/- What writes is routed to the primary. -/
theorem Target.route_write
    (inTransaction : Bool)
    (replicas : List Candidate)
    (cursor : UInt64)
    (policy : Balancing) :
    route .write inTransaction replicas cursor policy =
      .ok .primary := by
  simp [route]

/- A read has the place that its policy chooses. -/
theorem Target.route_read_eq
    {replicas : List Candidate}
    {cursor : UInt64}
    {policy : Balancing} :
    route .read false replicas cursor policy =
      (policy.choose? replicas cursor).map ofChoice := by
  cases replicas with
  | nil => cases policy <;> rfl
  | cons view views => simp [route]

------------------------------------------------------------
-- Rests
------------------------------------------------------------

namespace Health

/- A replica is left alone until some time or longer. -/
def RestsUntil
    (health : Health)
    (index time : Nat) : Prop :=
  ∀ state ∈ health.states[index]?,
    ∃ last ∈ state.restsUntil, time ≤ last

variable {health : Health} {index : Nat}

/- A replica that rests is not healthy. -/
theorem not_healthy_of_rests
    {time now : Nat}
    (hRests : health.RestsUntil index time)
    (hNow : now < time) :
    isHealthyAt (health.snapshot now) index = false := by
  unfold isHealthyAt snapshot
  rw [List.getElem?_map]
  cases hState : health.states[index]? with
  | none => rfl
  | some state =>
      rcases hRests state hState with
        ⟨last, hLast, hTime⟩
      rw [Option.mem_def] at hLast
      have hLate : ¬ last ≤ now := by omega
      simp [ReplicaState.view, hLast, hLate]

/- What else is noted of a replica does not matter. -/
theorem RestsUntil.modifyState
    {time other : Nat}
    {change : ReplicaState → ReplicaState}
    (hRests : health.RestsUntil index time)
    (hChange :
      ∀ state, other = index →
        (∃ last ∈ state.restsUntil, time ≤ last) →
          ∃ last ∈ (change state).restsUntil,
            time ≤ last) :
    (health.modifyState other change).RestsUntil index
      time := by
  intro state hState
  simp only [Health.modifyState, List.getElem?_modify,
    Option.mem_def, Option.map_eq_map,
    Option.map_eq_some_iff] at hState
  rcases hState with ⟨old, hOld, rfl⟩
  by_cases hSame : other = index
  · rw [if_pos hSame]
    exact hChange old hSame (hRests old hOld)
  · rw [if_neg hSame]
    exact hRests old hOld

/- A replica that fails rests from then on. -/
theorem restsUntil_fail
    (health : Health)
    (index now : Nat) :
    (health.fail index now).RestsUntil index
      (now + health.cooldown) := by
  intro state hState
  simp only [fail, Health.modifyState, List.getElem?_modify,
    Option.mem_def, if_true, Option.map_eq_map,
    Option.map_eq_some_iff] at hState
  rcases hState with ⟨old, -, rfl⟩
  exact ⟨_, rfl, Nat.le_refl _⟩

end Health

------------------------------------------------------------
-- The Passage of Time
------------------------------------------------------------

namespace Database

variable {σ : Type}

/-
  Between two states of a database, time has gone on and the
  settings are the same.
-/
structure Passes (before after : Database σ) : Prop where
  config : after.config = before.config
  cooldown : after.health.cooldown = before.health.cooldown
  clock : before.clock ≤ after.clock

/-
  Time has gone on, and a replica that was left alone for no
  longer than a failure lasts is still to be for as long.
-/
structure Ages
    (index : Nat)
    (before after : Database σ) : Prop where
  passes : before.Passes after
  rests :
    ∀ time,
      time ≤ before.clock + before.health.cooldown →
      before.health.RestsUntil index time →
        after.health.RestsUntil index time

theorem Passes.refl (db : Database σ) : db.Passes db :=
  ⟨rfl, rfl, Nat.le_refl _⟩

/- Time goes on and on. -/
theorem Passes.trans
    {before middle after : Database σ}
    (hMiddle : before.Passes middle)
    (hAfter : middle.Passes after) : before.Passes after :=
  ⟨hAfter.config.trans hMiddle.config,
    hAfter.cooldown.trans hMiddle.cooldown,
    Nat.le_trans hMiddle.clock hAfter.clock⟩

namespace Ages

variable {index : Nat}

/- What is noted of the replicas is the same. -/
theorem of_health_eq
    {before after : Database σ}
    (hConfig : after.config = before.config)
    (hClock : before.clock ≤ after.clock)
    (hHealth : after.health = before.health) :
    Ages index before after := by
  refine ⟨⟨hConfig, congrArg _ hHealth, hClock⟩, ?_⟩
  intro time _ hRests
  rw [hHealth]
  exact hRests

theorem refl (db : Database σ) : Ages index db db :=
  .of_health_eq rfl (Nat.le_refl _) rfl

/- A replica that rests in between rests on. -/
theorem trans
    {before middle after : Database σ}
    (hMiddle : Ages index before middle)
    (hAfter : Ages index middle after) :
    Ages index before after := by
  refine ⟨hMiddle.passes.trans hAfter.passes, ?_⟩
  intro time hTime hRests
  apply hAfter.rests time ?_
    (hMiddle.rests time hTime hRests)
  have hClock := hMiddle.passes.clock
  rw [hMiddle.passes.cooldown]
  omega

end Ages

end Database

namespace Act

variable {σ α β : Type}

/- An act that lets every replica rest that is to. -/
def Ages (act : Act σ α) : Prop :=
  ∀ (index : Nat) (db : Database σ),
    db.Ages index (act.run db).2

namespace Ages

theorem pure (a : α) : Ages (pure a : Act σ α) :=
  fun _ db => .refl db

/- Replicas rest step by step. -/
theorem bind
    {act : Act σ α}
    {next : α → Act σ β}
    (hAct : Ages act)
    (hNext : ∀ a, Ages (next a)) :
    Ages (act >>= next) := by
  intro index db
  exact (hAct index db).trans (hNext _ index _)

/- An act may look at the database before it goes on. -/
theorem of_get
    {next : Database σ → Act σ α}
    (hNext : ∀ seen, Ages (next seen)) :
    Ages (get >>= next) :=
  fun index db => hNext db index db

end Ages

------------------------------------------------------------
-- Acts
------------------------------------------------------------

/- Pools change while replicas rest. -/
theorem modifyPool_ages
    (target : Target)
    (change : Pool → Pool) :
    Ages (modifyPool target change : Act σ Unit) := by
  intro index db
  cases target <;>
  exact .of_health_eq rfl (Nat.le_refl _) rfl

/- Connections are closed while replicas rest. -/
theorem destroy_ages (conns : List Connection) :
    Ages (destroy conns : Act σ Unit) := by
  intro index db
  change db.Ages index (conns.foldl _ db)
  induction conns generalizing db with
  | nil => exact .refl db
  | cons conn rest ih =>
      have hRecord :
          db.Ages index
            (db.record (.closed conn.link.id)) :=
        .of_health_eq rfl (Nat.le_refl _) rfl
      exact hRecord.trans (ih _)

/- A replica that fails again rests for longer. -/
theorem markReplicaDown_ages (target : Target) :
    Ages (markReplicaDown target : Act σ Unit) := by
  intro index db
  cases target with
  | primary => exact .refl db
  | replica other =>
      refine ⟨⟨rfl, rfl, Nat.le_succ _⟩, ?_⟩
      intro time hTime hRests
      apply hRests.modifyState
      intro state _ _
      exact ⟨_, rfl, hTime⟩

/- A replica that works is left alone no longer. -/
theorem markReplicaUp_ages
    {target : Target}
    {index : Nat}
    (hOther : target ≠ .replica index)
    (db : Database σ) :
    db.Ages index ((markReplicaUp target).run db).2 := by
  cases target with
  | primary => exact .refl db
  | replica other =>
      refine ⟨⟨rfl, rfl, Nat.le_refl _⟩, ?_⟩
      intro time _ hRests
      apply hRests.modifyState
      rintro state rfl
      exact absurd rfl hOther

/- That a replica answers is noted with the time. -/
theorem markReplicaUp_passes
    (target : Target)
    (db : Database σ) :
    db.Passes ((markReplicaUp target).run db).2 := by
  cases target <;> exact ⟨rfl, rfl, Nat.le_refl _⟩

/- A replica that is chosen counts as used, nothing else. -/
theorem pick_ages (intent : Intent) (inTransaction : Bool) :
    Ages (pick intent inTransaction : Act σ Target) := by
  intro index db
  rcases hCursor :
      db.health.cursorFor intent db.config.balancing with
    ⟨cursor, moved⟩
  have hMoved :
      moved.states = db.health.states ∧
        moved.cooldown = db.health.cooldown := by
    unfold Health.cursorFor at hCursor
    split at hCursor <;> cases hCursor <;>
      exact ⟨rfl, rfl⟩
  have hPick :
      (((pick intent inTransaction).run db).2).health =
        (db.health.pick intent inTransaction
          db.config.balancing db.clock).2 :=
    rfl
  have hHealth :
      (db.health.pick intent inTransaction
          db.config.balancing db.clock).2.cooldown =
        db.health.cooldown ∧
      ∀ time, db.health.RestsUntil index time →
        (db.health.pick intent inTransaction
          db.config.balancing db.clock).2.RestsUntil index
            time := by
    simp only [Health.pick, hCursor]
    have hStill :
        ∀ time, db.health.RestsUntil index time →
          moved.RestsUntil index time := by
      intro time hRests
      unfold Health.RestsUntil
      rw [hMoved.1]
      exact hRests
    split
    · refine ⟨hMoved.2, ?_⟩
      intro time hRests
      apply (hStill time hRests).modifyState
      intro state _ hState
      exact hState
    · exact ⟨hMoved.2, hStill⟩
  refine ⟨⟨rfl, ?_, Nat.le_succ _⟩, ?_⟩
  · rw [hPick]
    exact hHealth.1
  · intro time _ hRests
    rw [hPick]
    exact hHealth.2 time hRests

/-
  The place that is chosen is the one that a route leads to.
-/
theorem pick_eq_route
    (intent : Intent)
    (inTransaction : Bool)
    (db : Database σ) :
    ∃ cursor,
      ((pick intent inTransaction).run db).1 =
        (Target.route intent inTransaction
          (db.health.snapshot db.clock) cursor
          db.config.balancing).toOption.getD .primary := by
  refine ⟨(db.health.cursorFor intent
    db.config.balancing).1, ?_⟩
  change (db.health.pick intent inTransaction
    db.config.balancing db.clock).1.toOption.getD _ = _
  simp only [Health.pick]
  split <;> rfl

/- A replica is only chosen if it is healthy then. -/
theorem isHealthyAt_of_pick
    {intent : Intent}
    {inTransaction : Bool}
    {db : Database σ}
    {index : Nat}
    (hPick :
      ((pick intent inTransaction).run db).1 =
        .replica index) :
    isHealthyAt (db.health.snapshot db.clock) index =
      true := by
  rcases pick_eq_route intent inTransaction db with
    ⟨cursor, hRoute⟩
  rw [hPick] at hRoute
  cases hChosen :
      Target.route intent inTransaction
        (db.health.snapshot db.clock) cursor
        db.config.balancing with
  | error fault =>
      rw [hChosen] at hRoute
      cases hRoute
  | ok target =>
      rw [hChosen] at hRoute
      cases hRoute
      exact Target.isHealthyAt_of_route hChosen

/- What writes is sent to the primary. -/
theorem pick_write
    (inTransaction : Bool)
    (db : Database σ) :
    ((pick .write inTransaction).run db).1 = .primary := by
  rcases pick_eq_route .write inTransaction db with
    ⟨cursor, hRoute⟩
  rw [hRoute, Target.route_write]
  rfl

/- Nothing is routed to a replica that rests. -/
theorem pick_ne_of_rests
    {db : Database σ}
    {index time : Nat}
    (hRests : db.health.RestsUntil index time)
    (hTime : db.clock < time)
    (intent : Intent)
    (inTransaction : Bool) :
    ((pick intent inTransaction).run db).1 ≠
      .replica index := by
  intro hPick
  have hHealthy := isHealthyAt_of_pick hPick
  rw [Health.not_healthy_of_rests hRests hTime] at hHealthy
  cases hHealthy

/- A connection is opened while replicas rest. -/
theorem connect_ages (address : String) :
    Ages (connect address : Act σ (Reply Link)) := by
  intro index db
  rcases hReply : db.backend.connect address db.memory with
    ⟨reply, memory⟩
  cases reply with
  | done answer =>
      rw [connect_run_done hReply]
      exact .of_health_eq rfl (Nat.le_refl _) rfl
  | failed e =>
      rw [connect_run_failed hReply]
      exact .of_health_eq rfl (Nat.le_refl _) rfl
  | silent =>
      rw [connect_run_silent hReply]
      exact .of_health_eq rfl (Nat.le_refl _) rfl

------------------------------------------------------------
-- Checkouts
------------------------------------------------------------

section Checkouts

variable (target : Target)

/- A connection is handed out while replicas rest. -/
theorem deliver_ages (conn : Connection) :
    Ages (deliver target conn : Act σ Progress) :=
  (modifyPool_ages target _).bind fun _ => .pure _

/-
  Whether a connection opens or not, no replica is woken by
  it.
-/
theorem openNew_ages :
    Ages (openNew target : Act σ Progress) := by
  apply Ages.of_get
  intro db
  cases hPool : db.pool? target with
  | none => exact .pure _
  | some pool =>
      apply (connect_ages pool.address).bind
      intro reply
      cases reply with
      | done link => exact deliver_ages target _
      | failed e =>
          exact (modifyPool_ages target _).bind fun _ =>
            .pure _
      | silent => exact .pure _

theorem reserve_ages :
    Ages
      (reserve target :
        Act σ (Except Pool.Refusal Unit)) := by
  apply Ages.of_get
  intro db
  cases hPool : db.pool? target with
  | none => exact .pure _
  | some pool =>
      dsimp only
      cases pool.reserve with
      | error refusal => exact .pure _
      | ok reserved =>
          exact (modifyPool_ages target _).bind fun _ =>
            .pure _

theorem take_ages :
    Ages (take target : Act σ (Option Connection)) := by
  apply Ages.of_get
  intro db
  cases hPool : db.pool? target with
  | none => exact .pure _
  | some pool =>
      apply (modifyPool_ages target _).bind
      intro _
      apply (destroy_ages pool.reuse.spoiled).bind
      intro _
      cases pool.reuse.found with
      | none => exact .pure _
      | some conn =>
          exact (modifyPool_ages target _).bind fun _ =>
            .pure _

theorem exhausted_ages :
    Ages (exhausted target : Act σ Error) :=
  fun _ db => .refl db

theorem giveUp_ages :
    Ages (giveUp target : Act σ Progress) :=
  (exhausted_ages target).bind fun _ => .pure _

theorem queueUp_ages :
    Ages (queueUp target : Act σ Progress) := by
  apply Ages.of_get
  intro db
  by_cases hWait : db.config.checkoutMillis = 0
  · simp only [hWait, if_true]
    exact giveUp_ages target
  · simp only [hWait, if_false]
    exact (modifyPool_ages target _).bind fun _ => .pure _

/- A seat is found while replicas rest. -/
theorem seat_ages
    {whenFull : Act σ Progress}
    (hFull : Ages whenFull) :
    Ages (seat target whenFull) := by
  apply (reserve_ages target).bind
  intro reserved
  cases reserved with
  | ok _ =>
      apply (take_ages target).bind
      intro found
      cases found <;> exact .pure _
  | error refusal =>
      cases refusal with
      | closed => exact .pure _
      | full => exact hFull

/- A checkout comes in while replicas rest. -/
theorem enter_ages :
    Ages (enter target : Act σ Progress) :=
  seat_ages target (queueUp_ages target)

/- Who is woken in a queue wakes no replica. -/
theorem wake_ages : Ages (wake target : Act σ Progress) :=
  (modifyPool_ages target _).bind
    fun _ => seat_ages target (giveUp_ages target)

/- An opening that takes too long wakes no replica. -/
theorem outlastConnect_ages :
    Ages
      (outlastConnect target :
        Act σ (Except Error Connection)) := by
  have hTimedOut :
      Ages (connectTimedOut target : Act σ Error) :=
    fun _ db => .refl db
  apply (modifyPool_ages target _).bind
  intro _
  exact hTimedOut.bind fun _ => .pure _

end Checkouts

------------------------------------------------------------
-- Giving Back
------------------------------------------------------------

section GivingBack

variable (conn : Connection)

theorem evict_ages : Ages (evict conn : Act σ Unit) :=
  (modifyPool_ages conn.target _).bind
    fun _ => destroy_ages [conn]

/- A connection is let go of while replicas rest. -/
theorem release_ages :
    Ages (release conn : Act σ Unit) := by
  have hClosed : Ages (isPoolClosed conn : Act σ Bool) :=
    fun _ db => .refl db
  unfold release
  split
  · exact .pure ()
  · apply hClosed.bind
    intro closed
    cases closed with
    | true => exact evict_ages conn
    | false => exact modifyPool_ages conn.target _

theorem checkin_ages :
    Ages (checkin conn : Act σ Unit) := by
  unfold checkin
  split
  · exact release_ages conn
  · exact evict_ages conn

theorem closePool_ages (target : Target) :
    Ages (closePool target : Act σ Unit) := by
  apply Ages.of_get
  intro db
  cases db.pool? target with
  | none => exact .pure ()
  | some pool =>
      exact (modifyPool_ages target _).bind
        fun _ => destroy_ages pool.idle

/- The pools are closed while replicas rest. -/
theorem close_ages : Ages (close : Act σ Unit) := by
  apply Ages.of_get
  intro db
  apply (closePool_ages .primary).bind
  intro _
  generalize List.range db.replicas.length = indices
  induction indices with
  | nil => exact .pure ()
  | cons index rest ih =>
      exact (closePool_ages (.replica index)).bind
        fun _ => ih

end GivingBack

end Act

------------------------------------------------------------
-- Checkouts in Parts
------------------------------------------------------------

section Parts

variable {σ : Type}

/- A place is chosen while replicas rest. -/
theorem World.Demand.choose_ages (demand : World.Demand) :
    Act.Ages (demand.choose : Act σ (Target × Bool)) := by
  cases demand with
  | target place => exact .pure _
  | role wanted =>
      cases wanted with
      | primary => exact .pure _
      | replica =>
          exact (Act.pick_ages .read false).bind fun _ =>
            .pure _
  | routed intent inTransaction =>
      exact (Act.pick_ages intent inTransaction).bind
        fun _ => .pure _

namespace Waiter

/- A checkout that goes on wakes no replica. -/
theorem resume_ages
    (target : Target)
    (mayFallBack : Bool)
    (progress : Progress) :
    Act.Ages
      (resume target mayFallBack progress :
        Act σ
          (Except Waiter (Except Error Connection))) := by
  cases progress with
  | paused pause => exact .pure _
  | finished result =>
      simp only [resume]
      split
      · apply (Act.markReplicaDown_ages target).bind
        intro _
        exact (Act.enter_ages .primary).bind fun _ =>
          .pure _
      · exact .pure _

/- A checkout that begins wakes no replica. -/
theorem begin_ages (demand : World.Demand) :
    Act.Ages
      (begin demand :
        Act σ
          (Except Waiter (Except Error Connection))) := by
  apply demand.choose_ages.bind
  rintro ⟨target, mayFallBack⟩
  exact (Act.enter_ages target).bind
    fun progress => resume_ages target mayFallBack progress

/- A checkout that waited wakes no replica. -/
theorem proceed_ages
    (waiter : Waiter)
    (inTime : Bool) :
    Act.Ages
      (waiter.proceed inTime :
        Act σ
          (Except Waiter (Except Error Connection))) := by
  unfold proceed
  cases waiter.pause with
  | forPlace =>
      exact (Act.wake_ages waiter.target).bind
        fun progress => resume_ages _ _ progress
  | forConnection =>
      cases inTime with
      | true =>
          exact (Act.openNew_ages waiter.target).bind
            fun progress => resume_ages _ _ progress
      | false =>
          exact (Act.outlastConnect_ages waiter.target).bind
            fun result => resume_ages _ _ (.finished result)

end Waiter

end Parts

end SqlAccess
