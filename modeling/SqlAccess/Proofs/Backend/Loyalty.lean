import SqlAccess.Proofs.Routing.Passage

/-
  This file shows that nothing that clients do with a
  database changes the system behind it: whatever is asked
  for, run and given back, all further calls are answered by
  the same backend.

  Key definitions include:
    * `Act.Loyal`
    * `Use.Loyal`

  Key theorems include:
    * `Use.perform_loyal`
    * `Waiter.proceed_loyal`
    * `Crowd.step_loyal`
    * `Crowd.pass_loyal`
-/

namespace SqlAccess

variable {σ : Type}

------------------------------------------------------------
-- Acts
------------------------------------------------------------

namespace Act

variable {α β : Type}

/- An act that leaves the backend of the database alone. -/
def Loyal (act : Act σ α) : Prop :=
  ∀ db, (act.run db).2.backend = db.backend

namespace Loyal

/- What asks for nothing leaves the backend as it is. -/
theorem pure (a : α) : Loyal (pure a : Act σ α) :=
  fun _ => rfl

/- The backend stays the same step by step. -/
theorem bind
    {act : Act σ α}
    {next : α → Act σ β}
    (hAct : Loyal act)
    (hNext : ∀ a, Loyal (next a)) :
    Loyal (act >>= next) :=
  fun db => (hNext _ _).trans (hAct db)

/- An act that looks at the database first. -/
theorem of_get
    {next : Database σ → Act σ α}
    (hNext : ∀ db, Loyal (next db)) :
    Loyal (get >>= next) :=
  fun db => hNext db db

end Loyal

theorem modifyPool_loyal
    (target : Target)
    (change : Pool → Pool) :
    Loyal (modifyPool target change : Act σ Unit) := by
  intro db
  cases target <;> rfl

/- Connections are closed without a new backend. -/
theorem destroy_loyal (conns : List Connection) :
    Loyal (destroy conns : Act σ Unit) := by
  intro db
  induction conns generalizing db with
  | nil => rfl
  | cons conn rest ih =>
      exact ih (db.record (.closed conn.link.id))

theorem markReplicaDown_loyal (target : Target) :
    Loyal (markReplicaDown target : Act σ Unit) := by
  intro db
  cases target <;> rfl

theorem markReplicaUp_loyal (target : Target) :
    Loyal (markReplicaUp target : Act σ Unit) := by
  intro db
  cases target <;> rfl

/- Choosing a place only takes notes of the replicas. -/
theorem pick_loyal
    (intent : Intent)
    (inTransaction : Bool) :
    Loyal (pick intent inTransaction : Act σ Target) :=
  fun _ => rfl

/-
  An answer changes what the backend remembers, but not how
  it answers.
-/
theorem ask_loyal (link : Link) (call : Call) :
    Loyal (ask link call : Act σ (Reply call.Answer)) :=
  fun _ => rfl

/- A connection is opened by the backend that is there. -/
theorem connect_loyal (address : String) :
    Loyal (connect address : Act σ (Reply Link)) := by
  intro db
  rcases hReply : db.backend.connect address db.memory with
    ⟨reply, memory⟩
  cases reply with
  | done answer => rw [connect_run_done hReply]
  | failed e => rw [connect_run_failed hReply]
  | silent => rw [connect_run_silent hReply]

------------------------------------------------------------
-- Checkouts
------------------------------------------------------------

section Checkouts

variable (target : Target)

/- Whether a connection opens or not, the backend stays. -/
theorem openNew_loyal :
    Loyal (openNew target : Act σ Progress) := by
  apply Loyal.of_get
  intro db
  cases db.pool? target with
  | none => exact .pure _
  | some pool =>
      apply (connect_loyal pool.address).bind
      intro reply
      cases reply with
      | silent => exact .pure _
      | _ =>
          exact (modifyPool_loyal target _).bind
            fun _ => .pure _

theorem reserve_loyal :
    Loyal
      (reserve target :
        Act σ (Except Pool.Refusal Unit)) := by
  apply Loyal.of_get
  intro db
  cases db.pool? target with
  | none => exact .pure _
  | some pool =>
      dsimp only
      cases pool.reserve with
      | error refusal => exact .pure _
      | ok reserved =>
          exact (modifyPool_loyal target _).bind
            fun _ => .pure _

theorem take_loyal :
    Loyal (take target : Act σ (Option Connection)) := by
  apply Loyal.of_get
  intro db
  cases db.pool? target with
  | none => exact .pure _
  | some pool =>
      apply (modifyPool_loyal target _).bind
      intro _
      apply (destroy_loyal pool.reuse.spoiled).bind
      intro _
      cases pool.reuse.found with
      | none => exact .pure _
      | some conn =>
          exact (modifyPool_loyal target _).bind
            fun _ => .pure _

theorem giveUp_loyal :
    Loyal (giveUp target : Act σ Progress) :=
  fun _ => rfl

theorem queueUp_loyal :
    Loyal (queueUp target : Act σ Progress) := by
  apply Loyal.of_get
  intro db
  split
  · exact giveUp_loyal target
  · exact (modifyPool_loyal target _).bind fun _ => .pure _

/-
  A seat is found in a pool, or what is done when there is
  none keeps the backend.
-/
theorem seat_loyal
    {whenFull : Act σ Progress}
    (hFull : Loyal whenFull) :
    Loyal (seat target whenFull) := by
  apply (reserve_loyal target).bind
  intro reserved
  cases reserved with
  | ok _ =>
      apply (take_loyal target).bind
      intro found
      cases found <;> exact .pure _
  | error refusal =>
      cases refusal with
      | closed => exact .pure _
      | full => exact hFull

/- A checkout comes in, or waits for its turn. -/
theorem enter_loyal :
    Loyal (enter target : Act σ Progress) :=
  seat_loyal target (queueUp_loyal target)

theorem wake_loyal :
    Loyal (wake target : Act σ Progress) :=
  (modifyPool_loyal target _).bind
    fun _ => seat_loyal target (giveUp_loyal target)

/- An opening that takes too long is given up. -/
theorem outlastConnect_loyal :
    Loyal
      (outlastConnect target :
        Act σ (Except Error Connection)) :=
  (modifyPool_loyal target _).bind fun _ _ => rfl

end Checkouts

------------------------------------------------------------
-- Giving Back
------------------------------------------------------------

section GivingBack

variable (conn : Connection)

/- A connection that is not given back is closed. -/
theorem evict_loyal : Loyal (evict conn : Act σ Unit) :=
  (modifyPool_loyal conn.target _).bind
    fun _ => destroy_loyal [conn]

/- Letting go of a connection changes its pool only. -/
theorem release_loyal :
    Loyal (release conn : Act σ Unit) := by
  have hClosed : Loyal (isPoolClosed conn : Act σ Bool) :=
    fun _ => rfl
  unfold release
  split
  · exact .pure ()
  · apply hClosed.bind
    intro closed
    cases closed with
    | true => exact evict_loyal conn
    | false => exact modifyPool_loyal conn.target _

theorem checkin_loyal :
    Loyal (checkin conn : Act σ Unit) := by
  unfold checkin
  split
  · exact release_loyal conn
  · exact evict_loyal conn

/- The idle connections of a pool are closed. -/
theorem closePool_loyal (target : Target) :
    Loyal (closePool target : Act σ Unit) := by
  apply Loyal.of_get
  intro db
  cases db.pool? target with
  | none => exact .pure ()
  | some pool =>
      exact (modifyPool_loyal target _).bind
        fun _ => destroy_loyal pool.idle

/- All pools are closed, one after the other. -/
theorem close_loyal : Loyal (close : Act σ Unit) := by
  apply Loyal.of_get
  intro db
  apply (closePool_loyal .primary).bind
  intro _
  generalize List.range db.replicas.length = indices
  induction indices with
  | nil => exact .pure ()
  | cons index rest ih =>
      exact (closePool_loyal (.replica index)).bind
        fun _ => ih

end GivingBack

end Act

------------------------------------------------------------
-- Checkouts in Parts
------------------------------------------------------------

/-
  Whatever a checkout demands, its place is chosen with the
  backend that is there.
-/
theorem World.Demand.choose_loyal (demand : World.Demand) :
    Act.Loyal
      (demand.choose : Act σ (Target × Bool)) := by
  rcases demand with
    place | wanted | ⟨intent, inTransaction⟩
  · exact .pure _
  · cases wanted with
    | primary => exact .pure _
    | replica =>
        exact (Act.pick_loyal .read false).bind fun _ =>
          .pure _
  · exact (Act.pick_loyal intent inTransaction).bind
      fun _ => .pure _

namespace Waiter

/- A checkout that goes on may ask the primary instead. -/
theorem resume_loyal
    (target : Target)
    (mayFallBack : Bool)
    (progress : Progress) :
    Act.Loyal
      (resume target mayFallBack progress :
        Act σ
          (Except Waiter (Except Error Connection))) := by
  cases progress with
  | paused pause => exact .pure _
  | finished result =>
      simp only [resume]
      split
      · apply (Act.markReplicaDown_loyal target).bind
        intro _
        exact (Act.enter_loyal .primary).bind fun _ =>
          .pure _
      · exact .pure _

/- A checkout begins with the same backend. -/
theorem begin_loyal (demand : World.Demand) :
    Act.Loyal
      (begin demand :
        Act σ
          (Except Waiter (Except Error Connection))) := by
  apply demand.choose_loyal.bind
  rintro ⟨target, mayFallBack⟩
  exact (Act.enter_loyal target).bind
    fun progress => resume_loyal target mayFallBack progress

/- A checkout that waits goes on with the same backend. -/
theorem proceed_loyal (waiter : Waiter) (inTime : Bool) :
    Act.Loyal
      (waiter.proceed inTime :
        Act σ
          (Except Waiter (Except Error Connection))) := by
  unfold proceed
  cases waiter.pause with
  | forPlace =>
      exact (Act.wake_loyal waiter.target).bind
        fun progress => resume_loyal _ _ progress
  | forConnection =>
      cases inTime with
      | true =>
          exact (Act.openNew_loyal waiter.target).bind
            fun progress => resume_loyal _ _ progress
      | false =>
          exact
            (Act.outlastConnect_loyal waiter.target).bind
            fun result =>
              resume_loyal _ _ (.finished result)

end Waiter

------------------------------------------------------------
-- Uses of a Connection
------------------------------------------------------------

namespace Use

variable {α β : Type}

/- A use that leaves the backend of the database alone. -/
def Loyal (use : Use σ α) : Prop :=
  ∀ conn, Act.Loyal (use.run conn)

namespace Loyal

theorem pure (a : α) : Loyal (pure a : Use σ α) :=
  fun _ _ => rfl

/-
  What is done with a connection keeps the backend step by
  step.
-/
theorem bind
    {use : Use σ α}
    {next : α → Use σ β}
    (hUse : Loyal use)
    (hNext : ∀ a, Loyal (next a)) :
    Loyal (use >>= next) :=
  fun conn => (hUse conn).bind fun run => hNext run.1 run.2

/-
  What keeps the backend does so for the owner of a
  connection as well.
-/
theorem onDatabase
    {act : Act σ α}
    (hAct : Act.Loyal act) : Loyal (onDatabase act) :=
  fun _ => hAct.bind fun _ => .pure _

/- A change of the connection alone. -/
theorem modify (change : Connection → Connection) :
    Loyal (modify change : Use σ Unit) :=
  fun _ _ => rfl

end Loyal

theorem ask_loyal (call : Call) :
    Loyal (ask call : Use σ (Reply call.Answer)) :=
  fun conn => Act.ask_loyal conn.link call

theorem condemn_loyal : Loyal (condemn : Use σ Unit) :=
  (Loyal.modify _).bind fun _ conn =>
    Loyal.onDatabase (Act.markReplicaDown_loyal conn.target)
      conn

theorem outlast_loyal (sql : String) :
    Loyal (outlast sql : Use σ Error) := by
  have hDatabase :
      Loyal (database : Use σ (Database σ)) :=
    fun _ _ => rfl
  apply hDatabase.bind
  intro db
  cases db.config.statementTimeout with
  | none => exact (Loyal.modify _).bind fun _ => .pure _
  | some limit =>
      apply hDatabase.bind
      intro seen
      have hSpoil :
          Loyal
            (do
              spoil
              return .statementTimeout sql limit :
              Use σ Error) :=
        (Loyal.modify _).bind fun _ => .pure _
      cases seen.backend.cancellable with
      | true =>
          exact (ask_loyal .cancel).bind fun _ => hSpoil
      | false => exact hSpoil

/-
  What follows a failure, which may spoil the connection.
-/
theorem condemnIf_loyal (spoils : Bool) (a : α) :
    Loyal
      (do
        if spoils then condemn
        return a : Use σ α) := by
  cases spoils with
  | true => exact condemn_loyal.bind fun _ => .pure a
  | false => exact .pure a

/- What follows the reply to a statement. -/
theorem follow_loyal
    (call : Call)
    (reply : Reply call.Answer) :
    Loyal
      (follow call reply :
        Use σ (Except Error call.Answer)) :=
  by
  cases reply with
  | done answer =>
      intro conn
      have hAnswered :
          Loyal
            (do
              onDatabase (Act.markReplicaUp conn.target)
              return .ok answer :
              Use σ (Except Error call.Answer)) :=
        (Loyal.onDatabase
          (Act.markReplicaUp_loyal conn.target)).bind
            fun _ => .pure _
      exact hAnswered conn
  | failed e => exact condemnIf_loyal e.spoilsConnection _
  | silent =>
      exact (outlast_loyal call.sql).bind fun _ => .pure _

/- A call may be answered, fail or be given up. -/
theorem dispatch_loyal (call : Call) :
    Loyal
      (dispatch call : Use σ (Except Error call.Answer)) :=
  (ask_loyal call).bind (follow_loyal call)

/- All that is pending is run, up to the first failure. -/
theorem flushAll_loyal (pending : List String) :
    Loyal
      (flushAll pending : Use σ (Except Error Unit)) := by
  induction pending with
  | nil => exact .pure _
  | cons sql rest ih =>
      apply (dispatch_loyal (.batch sql)).bind
      intro result
      cases result with
      | ok _ => exact ih
      | error e =>
          exact (Loyal.modify _).bind fun _ => .pure _

theorem takePending_loyal :
    Loyal (takePending : Use σ (List String)) :=
  fun _ _ => rfl

/- A statement runs behind what is pending. -/
theorem perform_loyal (call : Call) :
    Loyal (perform call :
      Use σ (Except Error call.Answer)) := by
  apply (takePending_loyal.bind flushAll_loyal).bind
  intro result
  cases result with
  | ok _ => exact dispatch_loyal call
  | error e => exact .pure _

theorem ping_loyal :
    Loyal (ping : Use σ (Except Error Unit)) := by
  apply (ask_loyal .ping).bind
  intro reply
  cases reply with
  | done answer => exact .pure _
  | failed e => exact condemnIf_loyal e.spoilsConnection _
  | silent =>
      exact (Loyal.modify _).bind fun _ => .pure _

end Use

/- A scope that is left runs nothing. -/
theorem Scope.abandon_loyal (scope : Scope) :
    Use.Loyal (scope.abandon : Use σ Scope) := by
  unfold Scope.abandon
  split
  · split
    · exact (Use.Loyal.modify _).bind fun _ => .pure _
    · exact (Use.Loyal.modify _).bind fun _ => .pure _
  · exact .pure _

------------------------------------------------------------
-- Parts of Uses
------------------------------------------------------------

namespace Handling

/- A client submits what it aims at. -/
theorem submit_loyal (aim : Aim) :
    Use.Loyal (submit aim : Use σ Activity) :=
  Use.takePending_loyal.bind fun _ => .pure _

/- What is submitted in a transaction keeps the backend. -/
theorem submitWithin_loyal
    (scope : Scope)
    (aim : Aim)
    (otherwise : Engagement) :
    Use.Loyal
      (submitWithin scope aim otherwise :
        Use σ Activity) := by
  unfold submitWithin
  split
  · exact submit_loyal aim
  · exact .pure _

/- A client may undo its transaction. -/
theorem prepareRollback_loyal
    (scope : Scope)
    (next : Engagement) :
    Use.Loyal
      (prepareRollback scope next : Use σ Activity) := by
  unfold prepareRollback
  split
  · cases scope.isNested with
    | true => exact submit_loyal _
    | false =>
        exact (Use.Loyal.modify _).bind
          fun _ => submit_loyal _
  · exact .pure _

/-
  However a client handles its connection, it prepares for
  that with the same backend.
-/
theorem prepare_loyal
    (handling : Handling)
    (engagement : Engagement) :
    Use.Loyal
      (handling.prepare engagement : Use σ Activity) := by
  fun_cases prepare handling engagement
  case case1 statement => exact submit_loyal _
  case case2 statement scope outer =>
    exact submitWithin_loyal scope _ _
  case case3 => exact submit_loyal _
  case case4 scope outer hActive =>
    have hFresh :
        Use.Loyal (Scope.freshSavepoint : Use σ String) :=
      fun _ _ => rfl
    exact hFresh.bind fun _ => submit_loyal _
  case case5 scope outer hEnded => exact .pure _
  case case6 scope outer =>
    exact submitWithin_loyal scope _ _
  case case7 scope outer =>
    exact prepareRollback_loyal scope _
  case case8 => exact submit_loyal _
  case case9 => exact Use.ping_loyal.bind fun _ => .pure _
  case case10 =>
    exact (Use.Loyal.modify _).bind fun _ => .pure _
  case case11 idle scope =>
    have hEnd :
        Use.Loyal
          (endOutermost scope (.drop idle) :
            Use σ Engagement) := by
      cases idle with
      | false =>
          exact scope.abandon_loyal.bind fun _ => .pure _
      | true =>
          apply scope.abandon_loyal.bind
          intro _
          exact (Use.Loyal.modify _).bind fun _ => .pure _
    exact hEnd.bind fun _ => .pure _
  case case12 idle scope parent outer =>
    exact scope.abandon_loyal.bind fun _ => .pure _
  case case13 => exact .pure _

end Handling

/- A client concludes what it aimed at. -/
theorem Aim.conclude_loyal (aim : Aim) (ok : Bool) :
    Use.Loyal (aim.conclude ok : Use σ Engagement) := by
  have hEnd (scope : Scope) (next : Engagement) :
      Use.Loyal
        (concludeEnd scope next ok :
          Use σ Engagement) := by
    unfold concludeEnd
    cases ok with
    | false =>
        exact (Use.Loyal.modify _).bind fun _ => .pure _
    | true =>
        cases scope.isNested with
        | true => exact .pure next
        | false =>
            exact (Use.Loyal.modify _).bind fun _ => .pure _
  cases aim with
  | run statement engagement => exact .pure _
  | begin =>
      cases ok with
      | true =>
          exact (Use.Loyal.modify _).bind fun _ => .pure _
      | false => exact .pure _
  | nest name scope outer => cases ok <;> exact .pure _
  | commit scope next => exact hEnd scope next
  | rollback scope next => exact hEnd scope next

/- An errand goes on by one call. -/
theorem Errand.advance_loyal (errand : Errand) :
    Use.Loyal (errand.advance : Use σ Activity) := by
  unfold advance
  cases errand.pending with
  | nil =>
      apply (Use.dispatch_loyal errand.aim.call).bind
      intro result
      exact (errand.aim.conclude_loyal _).bind fun _ =>
        .pure _
  | cons sql rest =>
      apply (Use.dispatch_loyal (.batch sql)).bind
      intro result
      cases result with
      | ok answer => exact .pure _
      | error e =>
          apply (Use.Loyal.modify _).bind
          intro _
          exact (errand.aim.conclude_loyal false).bind
            fun _ => .pure _

------------------------------------------------------------
-- Crowds
------------------------------------------------------------

namespace Crowd

/-
  A client who looks for a connection keeps the backend of
  the crowd.
-/
theorem seek_loyal
    (crowd : Crowd σ)
    (client : Client)
    {part :
      Act σ (Except Waiter (Except Error Connection))}
    (hPart : Act.Loyal part) :
    (crowd.seek client part).2.db.backend =
      crowd.db.backend := by
  have hSame := hPart crowd.db
  unfold seek
  rcases hRun : part.run crowd.db with ⟨answer, db⟩
  rw [hRun] at hSame
  cases answer with
  | error waiter => exact hSame
  | ok result => cases result <;> exact hSame

/- No move changes the backend. -/
theorem step_loyal
    {crowd : Crowd σ}
    {outcome : Option (Except Error Connection) × Crowd σ}
    (hStep : Step crowd outcome) :
    outcome.2.db.backend = crowd.db.backend := by
  cases hStep with
  | nothing => rfl
  | asked purpose demand _ =>
      exact seek_loyal _ _ (Waiter.begin_loyal demand)
  | @awaited place seeker inTime _ =>
      exact seek_loyal _ _
        (seeker.waiter.proceed_loyal inTime)
  | @handled place holder engagement handling =>
      exact handling.prepare_loyal engagement holder.conn
        crowd.db
  | @advanced place holder errand =>
      exact errand.advance_loyal holder.conn crowd.db
  | @released place holder release _ _ hRelease =>
      rcases hRelease with rfl | rfl
      · exact Act.checkin_loyal holder.conn crowd.db
      · exact Act.release_loyal holder.conn crowd.db
  | suspected target =>
      exact Act.markReplicaDown_loyal target crowd.db
  | closed => exact Act.close_loyal crowd.db

/- Whatever happens, the backend stays the same. -/
theorem pass_loyal
    (crowd : Crowd σ)
    (turns : List Turn) :
    (crowd.pass turns).db.backend = crowd.db.backend := by
  refine @pass_keeps _ (fun after =>
    after.db.backend = crowd.db.backend) ?_ ?_ turns _ rfl
  · intro _ _ hKept hStep
    exact (step_loyal hStep).trans hKept
  · intro _ _ hKept
    exact hKept

end Crowd

end SqlAccess
