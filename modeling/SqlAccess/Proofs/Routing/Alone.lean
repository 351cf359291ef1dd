import SqlAccess.Proofs.Pool.Waiting
import SqlAccess.Proofs.Routing.Journey

/-
  This file shows that a statement on its way is run as the
  library runs it if nobody else does anything: its client
  waits to the end for a connection, runs the statement,
  lets go of the connection, and does so once more if the
  statement is to be tried again.

  Key definitions include:
    * `Executor.run`
    * `Session.Statement.once`
    * `Journey.Leads`

  Key theorems include:
    * `Session.Statement.run_run`
    * `Journey.attempt_leads`
    * `Journey.alone`
-/

namespace SqlAccess

variable {σ : Type}

------------------------------------------------------------
-- Statements to the End
------------------------------------------------------------

/- Run a statement, whatever kind it is. -/
def Executor.run
    {m : Type → Type}
    (executor : Executor m) :
    (statement : Session.Statement) →
      m (Except Error statement.call.Answer)
  | .select intent bound => executor.select intent bound
  | .dml bound => executor.dml bound
  | .batch sql => executor.batch sql

namespace Session.Statement

/-
  One attempt from beginning to end.  It fails if there is
  no connection, and otherwise has the answer of the
  statement.
-/
def once
    (statement : Session.Statement) :
    Act σ
      (Except Error (Except Error statement.call.Answer)) :=
  do
    match ← statement.demand.serve with
    | .error e => return .error e
    | .ok conn =>
        let (answer, used) ←
          (Use.perform statement.call).run conn
        Act.release used
        return .ok answer

section Ends

variable {db after : Database σ}

/-
  A statement that gets no connection fails as its checkout
  does.
-/
theorem once_refused
    (statement : Session.Statement)
    {e : Error}
    (hServe :
      statement.demand.serve.run db = (.error e, after)) :
    statement.once.run db = (.error e, after) := by
  unfold once
  rw [StateT.run_bind, hServe]
  rfl

/-
  A statement that gets a connection runs on it and lets go
  of it.
-/
theorem once_performed
    (statement : Session.Statement)
    {conn : Connection}
    (hServe :
      statement.demand.serve.run db = (.ok conn, after)) :
    statement.once.run db =
      let run :=
        ((Use.perform statement.call).run conn).run after
      (.ok run.1.1,
        ((Act.release run.1.2).run run.2).2) := by
  unfold once
  rw [StateT.run_bind, hServe]
  rfl

end Ends

/-
  What is done after an attempt is done at each end of it.
-/
theorem once_bind
    {α : Type}
    (statement : Session.Statement)
    (goOn :
      Except Error (Except Error statement.call.Answer) →
        Act σ α) :
    statement.once >>= goOn =
      (do
        match ← statement.demand.serve with
        | .error e => goOn (.error e)
        | .ok conn =>
            let (answer, used) ←
              (Use.perform statement.call).run conn
            Act.release used
            goOn (.ok answer)) := by
  unfold once
  rw [bind_assoc]
  apply bind_congr
  intro checkedOut
  cases checkedOut with
  | error e => rfl
  | ok conn => rfl

/- The result of an attempt, or why there is none. -/
def settle
    (statement : Session.Statement) :
    Except Error (Except Error statement.call.Answer) →
      Except Error statement.call.Answer
  | .error e => .error (statement.refused e)
  | .ok answer => answer

/- Whether a statement is run once more after an attempt. -/
def isDueAgain
    (statement : Session.Statement)
    (retry : Retry) :
    Except Error (Except Error statement.call.Answer) →
      Bool
  | .ok (.error e) => statement.triesAgain retry e
  | _ => false

/- What the library does for a statement that writes. -/
theorem withConnection_eq
    (statement : Session.Statement)
    (hRefused : ∀ e, statement.refused e = e) :
    (Act.withConnection statement.demand.serve
        (Use.perform statement.call) :
      Act σ (Except Error statement.call.Answer)) = do
      return statement.settle (← statement.once) := by
  rw [once_bind]
  unfold Act.withConnection
  apply bind_congr
  intro checkedOut
  cases checkedOut with
  | error e =>
      exact congrArg
        (fun e =>
          (return .error e : Act σ (Except Error _)))
        (hRefused e).symm
  | ok conn => rfl

/-
  A statement is run on a database in one attempt, or in two
  if it is to be tried again after the first one.
-/
theorem run_eq (statement : Session.Statement) :
    (Act.executor.run statement :
      Act σ (Except Error statement.call.Answer)) = do
      let outcome ← statement.once
      let db ← get
      if statement.isDueAgain db.config.readRetry
        outcome then
        return statement.settle (← statement.once)
      else return statement.settle outcome := by
  cases statement with
  | select intent bound =>
      have hAgain :
          (Act.withConnection
              (Act.checkoutRouted intent false)
              (Use.select bound) : Act σ _) = _ :=
        withConnection_eq (select intent bound) fun _ => rfl
      rw [once_bind]
      change Act.select intent bound = _
      unfold Act.select
      rw [hAgain]
      apply bind_congr
      intro checkedOut
      cases checkedOut with
      | error e => rfl
      | ok conn =>
          apply bind_congr
          rintro ⟨answer, used⟩
          apply bind_congr
          intro _
          cases answer with
          | ok rows => rfl
          | error e => rfl
  | dml bound =>
      refine (withConnection_eq (dml bound) fun _ =>
        rfl).trans ?_
      apply bind_congr
      intro outcome
      rcases outcome with e | e | count <;> rfl
  | batch sql =>
      rw [once_bind]
      change Act.batch sql = _
      unfold Act.batch
      apply bind_congr
      intro checkedOut
      cases checkedOut with
      | error e => rfl
      | ok conn =>
          apply bind_congr
          rintro ⟨answer, used⟩
          cases answer <;> rfl

/- The run of a statement, in one attempt or in two. -/
theorem run_run
    (statement : Session.Statement)
    (db : Database σ) :
    (Act.executor.run statement).run db =
      let first := statement.once.run db
      if statement.isDueAgain first.2.config.readRetry
        first.1
      then
        let second := statement.once.run first.2
        (statement.settle second.1, second.2)
      else (statement.settle first.1, first.2) := by
  rw [run_eq, StateT.run_bind]
  rcases statement.once.run db with ⟨outcome, after⟩
  change StateT.run
    (if statement.isDueAgain after.config.readRetry outcome
      then do return statement.settle (← statement.once)
      else return statement.settle outcome) after = _
  dsimp only
  split <;> rfl

end Session.Statement

------------------------------------------------------------
-- Journeys to the End
------------------------------------------------------------

namespace Attempt

variable (statement : Session.Statement)
variable (attempt : Attempt σ)

/- The call for the statement never ends. -/
def IsStuck : Prop :=
  ∃ report ∈ attempt.report? statement,
    report.used.unanswered = true

/- What came of an attempt that is over. -/
def outcome? :
    Option
      (Except Error (Except Error statement.call.Answer)) :=
  match attempt.stage with
  | .refused e => some (.error e)
  | _ =>
      (attempt.final? statement).map fun report =>
        .ok report.answer

section Outcomes

variable {statement : Session.Statement}
variable {attempt : Attempt σ}
variable
  {outcome :
    Except Error (Except Error statement.call.Answer)}

/- The outcome of an attempt is settled as its result. -/
theorem result?_of_outcome
    (hOutcome : attempt.outcome? statement = some outcome) :
    attempt.result? statement =
      some (statement.settle outcome) := by
  rcases attempt with ⟨number, asked, stage⟩
  cases stage with
  | refused e =>
      cases hOutcome
      rfl
  | performed conn before done =>
      cases done with
      | false => cases hOutcome
      | true =>
          cases hOutcome
          rfl
  | _ => cases hOutcome

/-
  Whether there is another attempt is told from the outcome.
-/
theorem isRetried_of_outcome
    (hOutcome : attempt.outcome? statement = some outcome)
    (retry : Retry) :
    attempt.isRetried statement retry =
      statement.isDueAgain retry outcome := by
  rcases attempt with ⟨number, asked, stage⟩
  cases stage with
  | refused e =>
      cases hOutcome
      rfl
  | performed conn before done =>
      cases done with
      | false => cases hOutcome
      | true =>
          cases hOutcome
          let report :=
            before.report ⟨number, .connection⟩ conn
              statement
          let attempt : Attempt σ :=
            ⟨number, asked, .performed conn before true⟩
          have hAnswer :
              (attempt.final? statement).map Report.answer =
                some report.answer :=
            rfl
          rw [isRetried, hAnswer]
          change _ =
            statement.isDueAgain retry (.ok report.answer)
          cases report.answer <;> rfl
  | _ => cases hOutcome

end Outcomes

end Attempt

namespace Journey

section Alone

variable {statement : Session.Statement}

/-
  A journey comes to another one while nobody but the client
  does anything.
-/
def Leads
    (statement : Session.Statement)
    (journey last : Journey σ) : Prop :=
  ∃ inTimes : List Bool,
    journey.play statement (inTimes.map Move.proceed) = last

namespace Leads

variable {journey middle last : Journey σ}

theorem refl (journey : Journey σ) :
    Leads statement journey journey :=
  ⟨[], rfl⟩

/- A client who is alone goes on by itself. -/
theorem proceed
    (inTime : Bool)
    (hNext :
      Leads statement (journey.proceed statement inTime)
        last) :
    Leads statement journey last := by
  rcases hNext with ⟨inTimes, hPlay⟩
  exact ⟨inTime :: inTimes, hPlay⟩

/- A client who is alone goes on and on. -/
theorem trans
    (hFirst : Leads statement journey middle)
    (hLast : Leads statement middle last) :
    Leads statement journey last := by
  rcases hFirst with ⟨earlier, rfl⟩
  rcases hLast with ⟨later, rfl⟩
  refine ⟨earlier ++ later, ?_⟩
  rw [List.map_append]
  exact List.foldl_append

end Leads

/- No attempt is due while one is not over. -/
theorem not_due
    {attempt : Attempt σ}
    (hFinal : attempt.final? statement = none)
    (crowd : Crowd σ)
    (earlier : List (Attempt σ)) :
    isDue statement ⟨crowd, attempt :: earlier⟩ =
      false := by
  cases earlier with
  | nil => simp [isDue, Attempt.isRetried, hFinal]
  | cons first rest => rfl

/- An attempt is gone on with while it is not over. -/
theorem Leads.goOn
    {attempt : Attempt σ}
    (hFinal : attempt.final? statement = none)
    (crowd : Crowd σ)
    (earlier : List (Attempt σ))
    (inTime : Bool) :
    let run := attempt.proceed statement inTime crowd
    Leads statement ⟨crowd, attempt :: earlier⟩
      ⟨run.2, run.1 :: earlier⟩ := by
  intro run
  refine .proceed inTime ?_
  have hProceed :
      Journey.proceed statement
        ⟨crowd, attempt :: earlier⟩
          inTime =
        ⟨run.2, run.1 :: earlier⟩ := by
    simp only [Journey.proceed, not_due hFinal]
    rfl
  rw [hProceed]
  exact .refl _

/- A client who waits comes to the end of the checkout. -/
theorem seeking_leads
    {answer : Except Waiter (Except Error Connection)}
    {db : Database σ}
    {last : Except Error Connection × Database σ}
    (hReaches : Waiter.Reaches answer db last)
    (number : Nat)
    (asked crowd : Crowd σ)
    (earlier : List (Attempt σ)) :
    Leads statement
      ⟨{ crowd with db := db },
        ⟨number, asked, .ofAnswer answer⟩ :: earlier⟩
      ⟨{ crowd with db := last.2 },
        ⟨number, asked, .ofAnswer (.ok last.1)⟩ ::
          earlier⟩ := by
  induction hReaches with
  | done => exact .refl _
  | wait inTime hNext ih =>
      exact (Leads.goOn rfl _ _ inTime).trans ih

/-
  A client who has a connection runs the statement, and lets
  go of the connection unless the call never ends.
-/
theorem holding_leads
    (statement : Session.Statement)
    (number : Nat)
    (asked crowd : Crowd σ)
    (conn : Connection)
    (earlier : List (Attempt σ)) :
    let report :=
      crowd.report ⟨number, .connection⟩ conn statement
    ∃ done after,
      Leads statement
        ⟨crowd,
          ⟨number, asked, .holding conn⟩ :: earlier⟩
        ⟨after,
          ⟨number, asked, .performed conn crowd done⟩ ::
            earlier⟩ ∧
        (done = false ∧ report.used.unanswered = true ∨
          done = true ∧
            after.db =
              ((Act.release report.used).run
                report.after.db).2) := by
  intro report
  have hPerformed :
      Leads statement
        ⟨crowd,
          ⟨number, asked, .holding conn⟩ :: earlier⟩
        ⟨report.after,
          ⟨number, asked,
            .performed conn crowd false⟩ ::
            earlier⟩ :=
    .goOn rfl _ _ true
  cases hUsed : report.used.unanswered with
  | true =>
      exact ⟨false, _, hPerformed, .inl ⟨rfl, rfl⟩⟩
  | false =>
      let released := (Act.release report.used).run
        report.after.db
      refine ⟨true,
        { report.after with
          db := released.2 }, hPerformed.trans ?_,
          .inr ⟨rfl, rfl⟩⟩
      let attempt : Attempt σ :=
        ⟨number, asked, .performed conn crowd false⟩
      have hFinal : attempt.final? statement = none := rfl
      have hGo :=
        Leads.goOn hFinal report.after earlier true
      rw [Attempt.proceed_performed rfl hUsed] at hGo
      exact hGo

/- An attempt that is due is made from beginning to end. -/
theorem attempt_leads
    {journey : Journey σ}
    (hDue : journey.isDue statement = true) :
    let run := statement.once.run journey.crowd.db
    ∃ attempt after,
      Leads statement journey
        ⟨after, attempt :: journey.attempts⟩ ∧
        (attempt.IsStuck statement ∨
          attempt.outcome? statement = some run.1 ∧
            after.db = run.2) := by
  intro run
  rcases journey with ⟨crowd, attempts⟩
  have hProceed :
      Journey.proceed statement ⟨crowd, attempts⟩ true =
        ⟨(Attempt.begin statement crowd).2,
          (Attempt.begin statement crowd).1 ::
            attempts⟩ := by
    cases attempts with
    | nil => rfl
    | cons attempt earlier =>
        simp only [Journey.proceed, hDue]
        rfl
  have hSought :
      Leads statement ⟨crowd, attempts⟩
        ⟨{ crowd with
            db := (statement.demand.serve.run crowd.db).2
            joined := crowd.joined + 1 },
          ⟨crowd.joined, crowd,
            .ofAnswer
              (.ok
                (statement.demand.serve.run
                  crowd.db).1)⟩ ::
            attempts⟩ := by
    refine .proceed true ?_
    rw [hProceed]
    exact seeking_leads
      (statement.demand.begin_attains crowd.db) crowd.joined
      crowd
      { crowd with joined := crowd.joined + 1 } attempts
  rcases hServe : statement.demand.serve.run crowd.db with
    ⟨result, db⟩
  rw [hServe] at hSought
  cases result with
  | error e =>
      have hRun : run = (.error e, db) :=
        statement.once_refused hServe
      rw [hRun]
      exact ⟨_, _, hSought, .inr ⟨rfl, rfl⟩⟩
  | ok conn =>
      have hRun := statement.once_performed hServe
      rcases holding_leads statement crowd.joined crowd
          { crowd with
            db := db, joined := crowd.joined + 1 }
          conn attempts with
        ⟨done, after, hHeld, hEnd⟩
      refine ⟨_, _, hSought.trans hHeld, ?_⟩
      rcases hEnd with ⟨rfl, hUsed⟩ | ⟨rfl, hAfter⟩
      · exact .inl ⟨_, rfl, hUsed⟩
      · right
        change _ = some (statement.once.run crowd.db).1 ∧
          _ = (statement.once.run crowd.db).2
        rw [hRun]
        exact ⟨rfl, hAfter⟩

/-
  A journey of a client alone ends as the library ends it,
  or with a call that never ends.
-/
theorem alone
    (statement : Session.Statement)
    (crowd : Crowd σ) :
    let run := (Act.executor.run statement).run crowd.db
    ∃ last,
      Leads statement (start crowd) last ∧
        ((∃ attempt ∈ last.attempts.head?,
            attempt.IsStuck statement) ∨
          last.result? statement = some run.1 ∧
            last.crowd.db = run.2) := by
  intro run
  have hStart : isDue statement (start crowd) = true := rfl
  rcases attempt_leads hStart with
    ⟨first, middle, hFirst,
      hStuck | ⟨hOutcome, hMiddle⟩⟩
  · exact ⟨_, hFirst, .inl ⟨first, rfl, hStuck⟩⟩
  have hRun : run = _ := statement.run_run crowd.db
  change middle.db = (statement.once.run crowd.db).2
    at hMiddle
  dsimp only at hRun
  rw [← hMiddle] at hRun
  have hDue :
      isDue statement ⟨middle, [first]⟩ =
        statement.isDueAgain middle.db.config.readRetry
          (statement.once.run crowd.db).1 :=
    Attempt.isRetried_of_outcome hOutcome _
  rw [← hDue] at hRun
  by_cases hAgain :
      isDue statement ⟨middle, [first]⟩ = true
  · rw [if_pos hAgain] at hRun
    rcases attempt_leads hAgain with
      ⟨second, after, hSecond,
        hStuck | ⟨hLast, hAfter⟩⟩
    · exact ⟨_, hFirst.trans hSecond,
        .inl ⟨second, rfl, hStuck⟩⟩
    · refine ⟨_, hFirst.trans hSecond, .inr ?_⟩
      rw [hRun]
      exact ⟨Attempt.result?_of_outcome hLast, hAfter⟩
  · rw [if_neg hAgain] at hRun
    refine ⟨_, hFirst, .inr ?_⟩
    rw [hRun]
    refine ⟨?_, rfl⟩
    change
      (if isDue statement ⟨middle, [first]⟩ then none
      else first.result? statement) = _
    rw [if_neg hAgain]
    exact Attempt.result?_of_outcome hOutcome

end Alone

end Journey

end SqlAccess
