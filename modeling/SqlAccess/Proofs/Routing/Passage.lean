import SqlAccess.Proofs.Pool.Chronicle
import SqlAccess.Proofs.Routing.Rest

/-
  This file lets time go by while any number of clients
  share a database, and shows that a replica that rests goes
  on to do so until a statement on it is answered.

  Key definitions include:
    * `Call.Revives`
    * `Use.Ages`
    * `Crowd.answersAt`
    * `Crowd.Ages`
    * `Crowd.Turn`
    * `Crowd.turn`
    * `Crowd.pass`

  Key theorems include:
    * `Use.dispatch_ages`
    * `Use.perform_ages`
    * `Crowd.step_ages`
    * `Crowd.pass_ages`
    * `Crowd.pass_keeps`
-/

namespace SqlAccess

variable {σ : Type}

------------------------------------------------------------
-- Uses of a Connection
------------------------------------------------------------

/- Whatever a session runs is a statement. -/
theorem Session.Statement.isStatement_call
    (statement : Session.Statement) :
    statement.call.isStatement = true := by
  cases statement <;> rfl

/- A statement on a replica was answered. -/
def Call.Revives
    (index : Nat)
    (target : Target)
    (calls : List (Call × Fate)) : Prop :=
  target = .replica index ∧
    ∃ call, call.isStatement = true ∧
      (call, .done) ∈ calls

namespace Use

variable {α β : Type}

/-
  A use that stays on its connection and lets every replica
  rest that is to, but for the one on which it has a
  statement answered.
-/
def Ages (use : Use σ α) : Prop :=
  ∀ (conn : Connection) (db : Database σ),
    let run := (use.run conn).run db
    run.1.2.target = conn.target ∧ db.Passes run.2 ∧
      Yields use conn db fun _ _ calls =>
        ∀ index,
          ¬ Call.Revives index conn.target calls →
          db.Ages index run.2

namespace Ages

theorem pure (a : α) : Ages (pure a : Use σ α) :=
  fun _ db =>
    ⟨rfl, .refl db, Yields.pure fun _ _ => .refl db⟩

/- Replicas rest step by step. -/
theorem bind
    {use : Use σ α}
    {next : α → Use σ β}
    (hUse : Ages use)
    (hNext : ∀ a, Ages (next a)) :
    Ages (use >>= next) := by
  intro conn db
  rcases hUse conn db with
    ⟨hTarget, hPasses, calls, hHeard, hLink, hAges⟩
  rcases hNext ((use.run conn).run db).1.1
      ((use.run conn).run db).1.2
      ((use.run conn).run db).2 with
    ⟨hLast, hLater, more, hMore, hStays, hRest⟩
  refine ⟨hLast.trans hTarget, hPasses.trans hLater,
    calls ++ more, hHeard.trans ?_,
      hStays.trans hLink, ?_⟩
  · rw [hLink] at hMore
    exact hMore
  · intro index hNot
    have hFirst :
        ¬ Call.Revives index conn.target calls := by
      rintro ⟨hHere, call, hCall, hDone⟩
      exact hNot
        ⟨hHere, call, hCall,
          List.mem_append_left _ hDone⟩
    refine (hAges index hFirst).trans (hRest index ?_)
    rw [hTarget]
    rintro ⟨hHere, call, hCall, hDone⟩
    exact hNot
      ⟨hHere, call, hCall,
        List.mem_append_right _ hDone⟩

/- A change of the connection alone. -/
theorem changing
    {change : Connection → Connection}
    (hLink : ∀ conn, (change conn).link = conn.link)
    (hTarget :
      ∀ conn, (change conn).target = conn.target) :
    Ages (modify change : Use σ Unit) :=
  fun conn db =>
    ⟨hTarget conn, .refl db,
      Yields.modify (hLink conn) fun _ _ => .refl db⟩

/- What leaves the calls and the replicas alone. -/
theorem onDatabase
    {act : Act σ α}
    (hHistory :
      ∀ db : Database σ,
        (act.run db).2.history = db.history)
    (hAct : Act.Ages act) : Ages (onDatabase act) := by
  intro conn db
  refine ⟨rfl, (hAct 0 db).passes, [],
    .of_history_eq (hHistory db), rfl, ?_⟩
  intro index _
  exact hAct index db

theorem spoil : Ages (spoil : Use σ Unit) :=
  changing (fun _ => rfl) fun _ => rfl

theorem setInside (inside : Bool) :
    Ages (setInside inside : Use σ Unit) :=
  changing (fun _ => rfl) fun _ => rfl

theorem defer
    (sql : String) :
    Ages (defer sql : Use σ Unit) :=
  changing (fun _ => rfl) fun _ => rfl

theorem forgetPending :
    Ages (forgetPending : Use σ Unit) :=
  changing (fun _ => rfl) fun _ => rfl

theorem takePending :
    Ages (takePending : Use σ (List String)) :=
  fun _ db =>
    ⟨rfl, .refl db, [], .of_history_eq rfl, rfl,
      fun _ _ => .refl db⟩

/- A savepoint is counted while replicas rest. -/
theorem freshSavepoint :
    Ages (Scope.freshSavepoint : Use σ String) :=
  fun _ db =>
    ⟨rfl, .refl db, [], .of_history_eq rfl, rfl,
      fun _ _ => .refl db⟩

theorem connection :
    Ages (connection : Use σ Connection) :=
  fun _ db =>
    ⟨rfl, .refl db, [], .of_history_eq rfl, rfl,
      fun _ _ => .refl db⟩

theorem database : Ages (database : Use σ (Database σ)) :=
  fun _ db =>
    ⟨rfl, .refl db, [], .of_history_eq rfl, rfl,
      fun _ _ => .refl db⟩

/- A call alone does not matter, whatever comes of it. -/
theorem ask (call : Call) :
    Ages (ask call : Use σ (Reply call.Answer)) := by
  intro conn db
  have hSame :
      ∀ index,
        db.Ages index ((Act.ask conn.link call).run db).2 :=
    fun index => .of_health_eq rfl (Nat.le_refl _) rfl
  rcases ask_yields call conn db with
    ⟨calls, hHeard, hLink, -⟩
  exact ⟨rfl, (hSame 0).passes, calls, hHeard, hLink,
    fun index _ => hSame index⟩

theorem condemn : Ages (condemn : Use σ Unit) := by
  apply spoil.bind
  intro _
  apply connection.bind
  intro conn
  exact onDatabase (Act.markReplicaDown_history conn.target)
    (Act.markReplicaDown_ages conn.target)

theorem neverEnds (sql : String) :
    Ages (neverEnds sql : Use σ Error) := by
  have hModify :
      Ages
        (modify fun conn =>
          { conn with unanswered := true } :
          Use σ Unit) :=
    changing (fun _ => rfl) fun _ => rfl
  exact hModify.bind fun _ => pure _

/- A call that is given up wakes no replica. -/
theorem giveUp (sql : String) (limit : Duration) :
    Ages (giveUp sql limit : Use σ Error) := by
  apply database.bind
  intro db
  by_cases hCancel : db.backend.cancellable
  · simp only [hCancel, if_true]
    apply (ask .cancel).bind
    intro _
    exact spoil.bind fun _ => pure _
  · simp only [hCancel]
    exact spoil.bind fun _ => pure _

/- A call that takes too long wakes no replica. -/
theorem outlast (sql : String) :
    Ages (outlast sql : Use σ Error) := by
  apply database.bind
  intro db
  cases db.config.statementTimeout with
  | some limit => exact giveUp sql limit
  | none => exact neverEnds sql

/-
  What follows a failure, which may spoil the connection.
-/
theorem condemnIf (spoils : Bool) (a : α) :
    Ages
      (do
        if spoils then Use.condemn
        return a : Use σ α) := by
  cases spoils with
  | true => exact condemn.bind fun _ => pure a
  | false => exact pure a

end Ages

/- What follows the reply to a statement. -/
def follow (call : Call) :
    Reply call.Answer → Use σ (Except Error call.Answer)
  | .done answer => do
      let conn ← connection
      onDatabase (Act.markReplicaUp conn.target)
      return .ok answer
  | .failed e => do
      if e.spoilsConnection then condemn
      return .error (e.inStatement call.sql)
  | .silent => do return .error (← outlast call.sql)

/-
  A statement is run by a call and what follows its reply.
-/
theorem dispatch_eq (call : Call) :
    (dispatch call : Use σ (Except Error call.Answer)) =
      ask call >>= follow call :=
  rfl

/- The reply of the system decides what follows. -/
theorem dispatch_run
    {call : Call}
    {conn : Connection}
    {db : Database σ}
    {reply : Reply call.Answer}
    {memory : σ}
    (hReply :
      db.backend.perform conn.link call db.memory =
        (reply, memory)) :
    ((dispatch call).run conn).run db =
      ((follow call reply).run conn).run
        ({ db with memory := memory }.record
          (.called conn.link.id call reply.fate)) := by
  rw [dispatch_eq, bind_run, ask_run, hReply]

/- A replica rests no longer when it answers a statement. -/
theorem dispatch_ages
    {call : Call}
    (hStatement : call.isStatement = true) :
    Ages
      (dispatch call :
        Use σ (Except Error call.Answer)) := by
  intro conn db
  rcases hReply :
      db.backend.perform conn.link call db.memory with
    ⟨reply, memory⟩
  have hDispatch :
      ((dispatch call).run conn).run db =
        ((ask call >>= fun _ => follow call reply).run
          conn).run db := by
    rw [dispatch_run hReply, bind_run, ask_run, hReply]
  cases reply with
  | done answer =>
      let asked : Database σ :=
        { db with memory := memory }.record
          (.called conn.link.id call .done)
      have hRun :
          ((dispatch call).run conn).run db =
            ((.ok answer, conn),
              ((Act.markReplicaUp conn.target).run
                asked).2) := by
        rw [dispatch_run hReply]
        rfl
      have hAsked : ∀ index, db.Ages index asked :=
        fun index => .of_health_eq rfl (Nat.le_refl _) rfl
      have hHeard :
          Database.Heard conn.link.id [(call, .done)] db
            ((Act.markReplicaUp conn.target).run
              asked).2 := by
        refine ⟨[.called conn.link.id call .done],
          ?_, ?_⟩
        · exact Act.markReplicaUp_history conn.target asked
        · simp [Event.callOn?]
      unfold Yields
      rw [hRun]
      refine ⟨rfl,
        (hAsked 0).passes.trans
          (Act.markReplicaUp_passes conn.target asked),
        [(call, .done)], hHeard, rfl, ?_⟩
      intro index hNot
      apply (hAsked index).trans
      apply Act.markReplicaUp_ages
      intro hHere
      exact hNot ⟨hHere, call, hStatement,
        List.mem_singleton_self _⟩
  | failed e =>
      unfold Yields
      rw [hDispatch]
      exact (Ages.ask call).bind
        (fun _ => Ages.condemnIf e.spoilsConnection _)
          conn db
  | silent =>
      unfold Yields
      rw [hDispatch]
      exact (Ages.ask call).bind
        (fun _ => (Ages.outlast call.sql).bind fun _ =>
          .pure _)
        conn db

/- A sign of life wakes no replica. -/
theorem ping_ages :
    Ages (ping : Use σ (Except Error Unit)) := by
  apply (Ages.ask .ping).bind
  intro reply
  cases reply with
  | done answer => exact .pure _
  | failed e => exact .condemnIf e.spoilsConnection _
  | silent =>
      exact (Ages.neverEnds "").bind fun _ => .pure _

/- What is pending wakes at most its own replica. -/
theorem flushAll_ages (pending : List String) :
    Ages
      (flushAll pending : Use σ (Except Error Unit)) := by
  induction pending with
  | nil => exact .pure _
  | cons sql rest ih =>
      have hDispatch :
          Ages
            (dispatch (.batch sql) :
              Use σ (Except Error Unit)) :=
        dispatch_ages rfl
      apply hDispatch.bind
      intro result
      cases result with
      | ok answer => exact ih
      | error e => exact Ages.spoil.bind fun _ => .pure _

/- A statement wakes at most its own replica. -/
theorem perform_ages
    {call : Call}
    (hStatement : call.isStatement = true) :
    Ages
      (perform call :
        Use σ (Except Error call.Answer)) := by
  apply (Ages.takePending.bind flushAll_ages).bind
  intro result
  cases result with
  | ok answer => exact dispatch_ages hStatement
  | error e => exact .pure _

end Use

/- A scope that is left runs nothing. -/
theorem Scope.abandon_ages (scope : Scope) :
    Use.Ages (scope.abandon : Use σ Scope) := by
  unfold Scope.abandon
  split
  · split
    · exact (Use.Ages.defer _).bind fun _ => .pure _
    · exact Use.Ages.forgetPending.bind fun _ => .pure _
  · exact .pure _

------------------------------------------------------------
-- Parts of Uses
------------------------------------------------------------

namespace Handling

/- To submit something wakes no replica. -/
theorem submit_ages (aim : Aim) :
    Use.Ages (submit aim : Use σ Activity) :=
  Use.Ages.takePending.bind fun _ => .pure _

/- To submit something in a scope wakes no replica. -/
theorem submitWithin_ages
    (scope : Scope)
    (aim : Aim)
    (otherwise : Engagement) :
    Use.Ages
      (submitWithin scope aim otherwise :
        Use σ Activity) := by
  unfold submitWithin
  split
  · exact submit_ages aim
  · exact .pure _

/- To prepare a rollback wakes no replica. -/
theorem prepareRollback_ages
    (scope : Scope)
    (next : Engagement) :
    Use.Ages
      (prepareRollback scope next : Use σ Activity) := by
  unfold prepareRollback
  split
  · cases scope.isNested with
    | true => exact submit_ages _
    | false =>
        exact Use.Ages.forgetPending.bind fun _ =>
          submit_ages _
  · exact .pure _

/- A transaction that is dropped wakes no replica. -/
theorem endOutermost_drop_ages
    (scope : Scope)
    (idle : Bool) :
    Use.Ages
      (endOutermost scope (.drop idle) :
        Use σ Engagement) := by
  cases idle with
  | false => exact scope.abandon_ages.bind fun _ => .pure _
  | true =>
      apply scope.abandon_ages.bind
      intro _
      exact Use.Ages.spoil.bind fun _ => .pure _

/- Up to the first call nothing changes for the replicas. -/
theorem prepare_ages
    (handling : Handling)
    (engagement : Engagement) :
    Use.Ages
      (handling.prepare engagement : Use σ Activity) := by
  fun_cases prepare handling engagement
  case case1 statement => exact submit_ages _
  case case2 statement scope outer =>
    exact submitWithin_ages scope _ _
  case case3 => exact submit_ages _
  case case4 scope outer hActive =>
    exact Use.Ages.freshSavepoint.bind fun _ =>
      submit_ages _
  case case5 scope outer hEnded => exact .pure _
  case case6 scope outer =>
    exact submitWithin_ages scope _ _
  case case7 scope outer =>
    exact prepareRollback_ages scope _
  case case8 => exact submit_ages _
  case case9 => exact Use.ping_ages.bind fun _ => .pure _
  case case10 => exact Use.Ages.spoil.bind fun _ => .pure _
  case case11 scope idle =>
    exact (endOutermost_drop_ages _ _).bind fun _ => .pure _
  case case12 scope parent outer idle =>
    exact (Scope.abandon_ages _).bind fun _ => .pure _
  case case13 => exact .pure _

end Handling

namespace Aim

/- Whatever a client aims at is a statement. -/
theorem isStatement_call (aim : Aim) :
    aim.call.isStatement = true := by
  cases aim with
  | run statement engagement =>
      exact statement.isStatement_call
  | _ => rfl

/- The end of a scope wakes no replica. -/
theorem concludeEnd_ages
    (scope : Scope)
    (next : Engagement)
    (ok : Bool) :
    Use.Ages
      (concludeEnd scope next ok : Use σ Engagement) := by
  cases ok with
  | false => exact Use.Ages.spoil.bind fun _ => .pure next
  | true =>
      unfold concludeEnd
      cases scope.isNested with
      | true => exact .pure next
      | false =>
          exact (Use.Ages.setInside false).bind
            fun _ => .pure next

/- To conclude something wakes no replica. -/
theorem conclude_ages (aim : Aim) (ok : Bool) :
    Use.Ages (aim.conclude ok : Use σ Engagement) := by
  cases aim with
  | run statement engagement => exact .pure _
  | begin =>
      cases ok with
      | true =>
          exact (Use.Ages.setInside true).bind fun _ =>
            .pure _
      | false => exact .pure _
  | nest name scope outer => cases ok <;> exact .pure _
  | commit scope next =>
      exact concludeEnd_ages scope next ok
  | rollback scope next =>
      exact concludeEnd_ages scope next ok

end Aim

/- A call of an errand wakes at most its own replica. -/
theorem Errand.advance_ages (errand : Errand) :
    Use.Ages (errand.advance : Use σ Activity) := by
  unfold advance
  cases errand.pending with
  | nil =>
      apply
        (Use.dispatch_ages errand.aim.isStatement_call).bind
      intro result
      exact (errand.aim.conclude_ages _).bind fun _ =>
        .pure _
  | cons sql rest =>
      have hDispatch :
          Use.Ages
            (Use.dispatch (.batch sql) :
              Use σ (Except Error Unit)) :=
        Use.dispatch_ages rfl
      apply hDispatch.bind
      intro result
      cases result with
      | ok answer => exact .pure _
      | error e =>
          apply Use.Ages.spoil.bind
          intro _
          exact (errand.aim.conclude_ages false).bind
            fun _ => .pure _

------------------------------------------------------------
-- Crowds
------------------------------------------------------------

namespace Crowd

variable {index : Nat}

/- A statement on a replica that was answered. -/
def Entry.Revives (index : Nat) (entry : Entry) : Bool :=
  entry.target = .replica index && entry.call.isStatement &&
    entry.fate.isDone

/- The number of statements answered on a replica. -/
def answersAt (index : Nat) (log : List Entry) : Nat :=
  log.countP (Entry.Revives index)

/-
  Between two states of a crowd, time has gone on.  A
  replica that was to rest is still to do so if no statement
  on it was answered.
-/
structure Ages
    (index : Nat)
    (before after : Crowd σ) : Prop where
  passes : before.db.Passes after.db
  answers :
    answersAt index before.log ≤ answersAt index after.log
  rests :
    answersAt index after.log =
      answersAt index before.log →
      before.db.Ages index after.db

namespace Ages

/- No calls are made. -/
theorem of_log_eq
    {before after : Crowd σ}
    (hLog : after.log = before.log)
    (hAges : before.db.Ages index after.db) :
    Ages index before after :=
  ⟨hAges.passes, Nat.le_of_eq (congrArg _ hLog.symm),
    fun _ => hAges⟩

theorem refl (crowd : Crowd σ) : Ages index crowd crowd :=
  .of_log_eq rfl (.refl crowd.db)

/- Replicas that rest in between rest on. -/
theorem trans
    {before middle after : Crowd σ}
    (hMiddle : Ages index before middle)
    (hAfter : Ages index middle after) :
    Ages index before after := by
  have hFirst := hMiddle.answers
  have hSecond := hAfter.answers
  refine ⟨hMiddle.passes.trans hAfter.passes,
    Nat.le_trans hFirst hSecond, ?_⟩
  intro hSame
  exact (hMiddle.rests (by omega)).trans
    (hAfter.rests (by omega))

end Ages

/-
  What is done with a connection revives its replica only if
  it is noted that a statement was answered.
-/
theorem Holder.entries_ages
    (holder : Holder)
    (part : Part)
    (index : Nat)
    {α : Type}
    {use : Use σ α}
    (hConfined : use.Confined)
    (hAges : use.Ages)
    (db : Database σ)
    (log : List Entry) :
    let run := (use.run holder.conn).run db
    let new := holder.entries part db run.2
    db.Passes run.2 ∧
      answersAt index log ≤
        answersAt index (new ++ log) ∧
      (answersAt index (new ++ log) =
        answersAt index log →
        db.Ages index run.2) := by
  intro run new
  rcases hAges holder.conn db with
    ⟨-, hPasses, calls, hHeard, -, hRests⟩
  rcases holder.entries_of_apart part
      (hConfined holder.conn db).2 hHeard with
    ⟨hOwn, hMade⟩
  have hSplit :
      answersAt index (new ++ log) =
        answersAt index new + answersAt index log :=
    List.countP_append
  refine ⟨hPasses, by omega, ?_⟩
  intro hSame
  apply hRests
  rintro ⟨hHere, call, hCall, hDone⟩
  have hNone : new.countP (Entry.Revives index) = 0 := by
    unfold answersAt at hSplit hSame
    omega
  rw [← hMade, List.mem_reverse, List.mem_map] at hDone
  rcases hDone with ⟨entry, hEntry, hEnd⟩
  rcases Prod.mk.inj hEnd with ⟨rfl, hFate⟩
  apply List.countP_eq_zero.1 hNone entry hEntry
  simp [Entry.Revives, (hOwn entry hEntry).target, hHere,
    hCall, hFate, Fate.isDone]

/- Work on a connection wakes at most its own replica. -/
theorem work_ages
    (crowd : Crowd σ)
    (place : Nat)
    (holder : Holder)
    {part : Part}
    (submits : Activity → List Call)
    {use : Use σ Activity}
    (hConfined : use.Confined)
    (hAges : use.Ages) :
    Ages index crowd
      (crowd.work place holder part submits use) := by
  rcases holder.entries_ages part index hConfined hAges
    crowd.db
      crowd.log with
    ⟨hPasses, hAnswers, hRests⟩
  exact ⟨hPasses, hAnswers, hRests⟩

/- A client who seeks a connection wakes no replica. -/
theorem seek_ages
    (crowd : Crowd σ)
    (client : Client)
    {part :
      Act σ (Except Waiter (Except Error Connection))}
    (hPart : Act.Ages part) :
    Ages index crowd (crowd.seek client part).2 := by
  have hAges := hPart index crowd.db
  unfold Crowd.seek
  rcases hRun : part.run crowd.db with ⟨answer, db⟩
  rw [hRun] at hAges
  cases answer with
  | error waiter => exact .of_log_eq rfl hAges
  | ok result =>
      cases result with
      | error e => exact .of_log_eq rfl hAges
      | ok conn => exact .of_log_eq rfl hAges

/- Every move lets a replica rest until it is revived. -/
theorem step_ages
    {crowd : Crowd σ}
    {outcome : Option (Except Error Connection) × Crowd σ}
    (hStep : Step crowd outcome) :
    Ages index crowd outcome.2 := by
  cases hStep with
  | nothing => exact .refl crowd
  | asked purpose demand _ =>
      have hJoined :
          Ages index crowd
            { crowd with joined := crowd.joined + 1 } :=
        .of_log_eq rfl (.refl crowd.db)
      exact hJoined.trans
        (seek_ages _ _ (Waiter.begin_ages demand))
  | @awaited place seeker inTime hSeeker =>
      have hCalled :
          Ages index crowd
            { crowd with
              seekers := crowd.seekers.eraseIdx place } :=
        .of_log_eq rfl (.refl crowd.db)
      exact hCalled.trans
        (seek_ages _ _ (seeker.waiter.proceed_ages inTime))
  | @handled place holder engagement handling =>
      exact crowd.work_ages place _ Activity.calls
        (handling.prepare_tracking engagement).1
        (handling.prepare_ages engagement)
  | @advanced place holder errand =>
      exact crowd.work_ages place holder (fun _ => [])
        errand.advance_confined errand.advance_ages
  | @released place holder release _ _ hRelease =>
      refine .of_log_eq rfl ?_
      rcases hRelease with rfl | rfl
      · exact Act.checkin_ages holder.conn index crowd.db
      · exact Act.release_ages holder.conn index crowd.db
  | suspected target =>
      exact .of_log_eq rfl
        (Act.markReplicaDown_ages target index crowd.db)
  | closed =>
      exact .of_log_eq rfl (Act.close_ages index crowd.db)

------------------------------------------------------------
-- Turns
------------------------------------------------------------

/- Somebody makes a move, or some time goes by. -/
inductive Turn
  | move (move : Move)
  | wait (time : Nat)

/- Some time goes by. -/
def wait (crowd : Crowd σ) (time : Nat) : Crowd σ :=
  { crowd with
    db := { crowd.db with clock := crowd.db.clock + time } }

/- What a turn makes of a crowd. -/
def turn (crowd : Crowd σ) : Turn → Crowd σ
  | .move move => (step move crowd).2
  | .wait time => crowd.wait time

/- The crowd after some turns. -/
def pass
    (crowd : Crowd σ)
    (turns : List Turn) :
    Crowd σ :=
  turns.foldl turn crowd

/- What moves and time keep is kept in the end. -/
theorem pass_keeps
    {kept : Crowd σ → Prop}
    (hStep :
      ∀ crowd outcome,
        kept crowd → Step crowd outcome →
        kept outcome.2)
    (hWait :
      ∀ crowd time, kept crowd → kept (crowd.wait time))
    (turns : List Turn)
    {crowd : Crowd σ}
    (hKept : kept crowd) :
    kept (crowd.pass turns) := by
  induction turns generalizing crowd with
  | nil => exact hKept
  | cons first rest ih =>
      apply ih
      cases first with
      | move move =>
          exact hStep crowd _ hKept (crowd.step_cases move)
      | wait time => exact hWait crowd time hKept

/- Replicas rest while time goes by. -/
theorem wait_ages (crowd : Crowd σ) (time : Nat) :
    Ages index crowd (crowd.wait time) :=
  .of_log_eq
    rfl (.of_health_eq rfl (Nat.le_add_right _ _) rfl)

/- Whatever happens, a replica rests until it is revived. -/
theorem pass_ages
    (crowd : Crowd σ)
    (index : Nat)
    (turns : List Turn) :
    Ages index crowd (crowd.pass turns) := by
  refine @pass_keeps _ (Ages index crowd) ?_ ?_ turns _
    (.refl crowd)
  · intro _ _ hAges hStep
    exact hAges.trans (step_ages hStep)
  · intro middle time hAges
    exact hAges.trans (middle.wait_ages time)

end Crowd

end SqlAccess
