import SqlAccess.Proofs.Pool.Company
import SqlAccess.Query.Basic

/-
  This file follows one attempt to run a statement on a
  database: a client asks for a connection and waits for it,
  runs the statement, and lets go of the connection.  Others
  may do anything between two of these steps.

  Key definitions include:
    * `Session.Statement.demand`
    * `Report`
    * `Crowd.report`
    * `Attempt`
    * `Attempt.begin`
    * `Attempt.proceed`
    * `Attempt.whole`

  Key theorems include:
    * `Attempt.begin_whole`
    * `Attempt.proceed_whole`
-/

namespace SqlAccess

variable {σ : Type}

------------------------------------------------------------
-- Statements
------------------------------------------------------------

namespace Session.Statement

/- A statement that reads; all others write. -/
def Reads (statement : Session.Statement) : Prop :=
  ∃ bound, statement = .select .read bound

/- How a connection is asked for to run a statement. -/
def demand : Session.Statement → World.Demand
  | select intent _ => .routed intent false
  | dml _ => .routed .write false
  | batch _ => .role .primary

/- The failure of a statement that gets no connection. -/
def refused (e : Error) : Session.Statement → Error
  | batch sql => e.inStatement sql
  | _ => e

end Session.Statement

------------------------------------------------------------
-- What Comes of a Statement
------------------------------------------------------------

/-
  What came of a statement: the answer, the connection after
  it, the calls that were noted, and the crowd after it.
-/
structure Report
    (σ : Type)
    (statement : Session.Statement) where
  answer : Except Error statement.call.Answer
  used : Connection
  made : List Crowd.Entry
  after : Crowd σ

namespace Crowd

/-
  A client who has a connection and does nothing with it, at
  one of its turns.
-/
def Holder.resting
    (turn : Nat)
    (client : Client)
    (conn : Connection) : Holder :=
  ⟨client, turn, conn, .resting .free⟩

/- A client runs a statement on a connection. -/
def report
    (crowd : Crowd σ)
    (client : Client)
    (conn : Connection)
    (statement : Session.Statement) : Report σ statement :=
  let run :=
    ((Use.perform statement.call).run conn).run crowd.db
  let made :=
    (Holder.resting 0 client conn).entries .work
      crowd.db run.2
  { answer := run.1.1
    used := run.1.2
    made := made
    after :=
      { crowd with
        db := run.2
        log := made ++ crowd.log
        submitted :=
          (client, statement.call) :: crowd.submitted } }

end Crowd

------------------------------------------------------------
-- Attempts
------------------------------------------------------------

/-
  What an attempt has come to: the client waits, got no
  connection, has one, or has run the statement on one,
  which is the crowd's when it did so, and has let go of it
  or not.
-/
inductive Attempt.Stage (σ : Type)
  | seeking (waiter : Waiter)
  | refused (e : Error)
  | holding (conn : Connection)
  | performed (conn : Connection) (crowd : Crowd σ)
    (done : Bool)

/-
  An attempt to run a statement: the number of the client,
  the crowd when the connection was asked for, and what it
  has come to.
-/
structure Attempt (σ : Type) where
  number : Nat
  asked : Crowd σ
  stage : Attempt.Stage σ

namespace Attempt

/- The client who makes an attempt. -/
def client (attempt : Attempt σ) : Crowd.Client :=
  ⟨attempt.number, .connection⟩

/- What is done after a part of a checkout. -/
def Stage.ofAnswer :
    Except Waiter (Except Error Connection) → Stage σ
  | .error waiter => .seeking waiter
  | .ok (.error e) => .refused e
  | .ok (.ok conn) => .holding conn

/- A new client asks for a connection. -/
def begin
    (statement : Session.Statement)
    (crowd : Crowd σ) : Attempt σ × Crowd σ :=
  let run := (Waiter.begin statement.demand).run crowd.db
  (⟨crowd.joined, crowd, .ofAnswer run.1⟩,
    { crowd with db := run.2, joined := crowd.joined + 1 })

/-
  The client takes the next step.  There is none when the
  attempt is over or a call never ends.
-/
def proceed
    (statement : Session.Statement)
    (inTime : Bool)
    (attempt : Attempt σ)
    (crowd : Crowd σ) : Attempt σ × Crowd σ :=
  match attempt.stage with
  | .seeking waiter =>
      let run := (waiter.proceed inTime).run crowd.db
      ({ attempt with stage := .ofAnswer run.1 },
        { crowd with db := run.2 })
  | .holding conn =>
      ({ attempt with
          stage := .performed conn crowd false },
        (crowd.report attempt.client conn statement).after)
  | .performed conn before false =>
      let used :=
        (before.report attempt.client conn statement).used
      if used.unanswered then (attempt, crowd)
      else
        ({ attempt with
            stage := .performed conn before true },
          { crowd with
            db := ((Act.release used).run crowd.db).2 })
  | _ => (attempt, crowd)

section Steps

variable {statement : Session.Statement}
variable {attempt : Attempt σ}
variable {conn : Connection} {crowd before : Crowd σ}

/- A client whose call never ends does nothing more. -/
theorem proceed_stuck
    (hStage : attempt.stage = .performed conn before false)
    (hUsed :
      (before.report attempt.client conn
        statement).used.unanswered = true)
    (inTime : Bool) :
    attempt.proceed statement inTime crowd =
      (attempt, crowd) := by
  simp only [proceed, hStage, hUsed, if_true]

/- A client who has run the statement lets go. -/
theorem proceed_performed
    (hStage : attempt.stage = .performed conn before false)
    (hUsed :
      (before.report attempt.client conn
        statement).used.unanswered = false)
    (inTime : Bool) :
    attempt.proceed statement inTime crowd =
      let used :=
        (before.report attempt.client conn statement).used
      ({ attempt with
          stage := .performed conn before true },
        { crowd with
          db := ((Act.release used).run crowd.db).2 }) := by
  simp only [proceed, hStage, hUsed]
  rfl

end Steps

/- The connection that was handed out. -/
def conn? (attempt : Attempt σ) : Option Connection :=
  match attempt.stage with
  | .holding conn => some conn
  | .performed conn _ _ => some conn
  | _ => none

section Reports

variable (statement : Session.Statement)
variable (attempt : Attempt σ)

/- What came of the statement, if it was run. -/
def report? : Option (Report σ statement) :=
  match attempt.stage with
  | .performed conn before _ =>
      some (before.report attempt.client conn statement)
  | _ => none

/- What came of the statement, if the client is done. -/
def final? : Option (Report σ statement) :=
  match attempt.stage with
  | .performed conn before true =>
      some (before.report attempt.client conn statement)
  | _ => none

/- What the attempt ended with. -/
def result? :
    Option (Except Error statement.call.Answer) :=
  match attempt.stage with
  | .refused e => some (.error (statement.refused e))
  | _ => (attempt.final? statement).map Report.answer

/- The calls that were made in the attempt. -/
def made : List Crowd.Entry :=
  ((attempt.report? statement).map Report.made).getD []

/- The client, if it waits. -/
def seekers : List Crowd.Seeker :=
  match attempt.stage with
  | .seeking waiter => [⟨attempt.client, waiter⟩]
  | _ => []

/- The client, if it has a connection. -/
def holders : List Crowd.Holder :=
  match attempt.stage with
  | .holding conn => [.resting 0 attempt.client conn]
  | .performed conn before false =>
      [.resting 1 attempt.client
        (before.report attempt.client conn statement).used]
  | _ => []

/- All clients, with the one who makes the attempt. -/
def whole (crowd : Crowd σ) : Crowd σ :=
  crowd.beside attempt.seekers (attempt.holders statement)

end Reports

------------------------------------------------------------
-- All Clients
------------------------------------------------------------

section Whole

variable (statement : Session.Statement)

/- What is waited for, or what the checkout ended with. -/
def Stage.standing :
    Stage σ → Except Waiter (Except Error Connection)
  | seeking waiter => .error waiter
  | refused e => .ok (.error e)
  | holding conn => .ok (.ok conn)
  | performed conn _ _ => .ok (.ok conn)

/- The stage that a checkout leads to tells its answer. -/
@[simp]
theorem Stage.standing_ofAnswer
    (answer : Except Waiter (Except Error Connection)) :
    (ofAnswer answer : Stage σ).standing = answer := by
  cases answer with
  | error waiter => rfl
  | ok result => cases result <;> rfl

/- A part of a checkout is one of a client of the crowd. -/
theorem whole_ofAnswer
    (crowd asked : Crowd σ)
    (number : Nat)
    (part :
      Act σ (Except Waiter (Except Error Connection))) :
    whole statement
        ⟨number, asked, .ofAnswer (part.run crowd.db).1⟩
        { crowd with db := (part.run crowd.db).2 } =
      (crowd.seek ⟨number, .connection⟩ part).2 := by
  unfold Crowd.seek
  rcases part.run crowd.db with ⟨answer, db⟩
  cases answer with
  | error waiter => rfl
  | ok result => cases result <;> rfl

end Whole

end Attempt

namespace Crowd

/- Between a state and itself there are no calls. -/
theorem Holder.entries_self
    (holder : Holder)
    (part : Part)
    (db : Database σ) :
    holder.entries part db db = [] := by
  simp [entries]

variable {crowd : Crowd σ} {conn : Connection}

/-
  To run a statement on a connection is to submit it and to
  make its call.
-/
theorem report_whole
    (number : Nat)
    (statement : Session.Statement)
    (hClear : conn.IsClear) :
    let client : Client := ⟨number, .connection⟩
    let report := crowd.report client conn statement
    report.after.beside [] [.resting 1 client report.used] =
      play [.handle 0 (.run statement), .advance 0]
        (crowd.beside [] [.resting 0 client conn]) := by
  intro client report
  rcases conn with
    ⟨link, target, healthy, inside, pending, count,
      unanswered⟩
  rcases hClear with ⟨hPending, hAnswered⟩
  cases hPending
  cases hAnswered
  let conn : Connection :=
    ⟨link, target, healthy, inside, [], count, false⟩
  let errand : Errand := ⟨[], .run statement .free⟩
  have hHandle :
      (crowd.beside [] [.resting 0 client conn]).handle 0
          (.run statement) =
        { crowd with
          holders :=
            ⟨client, 1, conn, .working errand⟩ ::
              crowd.holders
          submitted :=
            (client, statement.call) ::
              crowd.submitted } := by
    let whole := crowd.beside [] [.resting 0 client conn]
    let use : Use σ Activity :=
      Handling.prepare (.run statement) .free
    have hRun :
        (use.run conn).run whole.db =
          ((.working errand, conn), whole.db) :=
      rfl
    have hWork :
        whole.work 0
          ⟨client, 1, conn, .resting .free⟩ .work
          Activity.calls use = _ :=
      work_eq .work Activity.calls hRun
    rw [Holder.entries_self] at hWork
    exact hWork
  change _ =
    ((crowd.beside [] [.resting 0 client conn]).handle 0
      (.run statement)).advance 0
  rw [hHandle]
  rfl

/- The first client lets go of its connection. -/
theorem letGo_beside
    {turn : Nat}
    {client : Client}
    (hAnswered : conn.unanswered = false)
    (release : Connection → Act σ Unit) :
    (crowd.beside [] [.resting turn client conn]).letGo 0
        release =
      { crowd with
        db := ((release conn).run crowd.db).2 } := by
  change (if conn.unanswered then _ else _) = _
  rw [hAnswered]
  rfl

end Crowd

------------------------------------------------------------
-- Attempts as Moves of a Crowd
------------------------------------------------------------

namespace Attempt

variable {statement : Session.Statement} {limit : Nat}

/- To ask for a connection is a move of a client. -/
theorem begin_whole
    (statement : Session.Statement)
    (crowd : Crowd σ) :
    let run := begin statement crowd
    run.1.whole statement run.2 =
      Crowd.play [.ask statement.demand] crowd :=
  whole_ofAnswer statement
    { crowd with joined := crowd.joined + 1 } _ _ _

/- Every further step is some moves of a client. -/
theorem proceed_whole
    (attempt : Attempt σ)
    (statement : Session.Statement)
    (hClear : ∀ conn ∈ attempt.conn?, conn.IsClear)
    (inTime : Bool)
    (crowd : Crowd σ) :
    ∃ moves,
      let run := attempt.proceed statement inTime crowd
      run.1.whole statement run.2 =
        Crowd.play moves
          (attempt.whole statement crowd) := by
  rcases attempt with ⟨number, asked, stage⟩
  cases stage with
  | seeking waiter =>
      exact ⟨[.await 0 inTime],
        whole_ofAnswer statement crowd asked number
          (waiter.proceed inTime)⟩
  | refused e => exact ⟨[], rfl⟩
  | holding conn =>
      exact ⟨_,
        Crowd.report_whole number statement
          (hClear conn rfl)⟩
  | performed conn before done =>
      cases done with
      | true => exact ⟨[], rfl⟩
      | false =>
          cases hUsed :
              (before.report ⟨number, .connection⟩ conn
                statement).used.unanswered with
          | true =>
              rw [proceed_stuck rfl hUsed]
              exact ⟨[], rfl⟩
          | false =>
              rw [proceed_performed rfl hUsed]
              exact ⟨[.drop 0],
                (Crowd.letGo_beside hUsed
                  Act.release).symm⟩

end Attempt

end SqlAccess
