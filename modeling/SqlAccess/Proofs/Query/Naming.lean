import SqlAccess.Proofs.Backend.Loyalty
import SqlAccess.Proofs.Pool.Waiting
import SqlAccess.Proofs.Routing.Cooldown

/-
  This file says which statement a failure is about.  What
  lies below the statements fails with none, and a statement
  that is run on a connection fails with itself, as far as
  the system reports failures in this way.

  Key definitions include:
    * `Error.IsBlank`
    * `Error.IsReport`
    * `Error.Accepts`
    * `Backend.IsPlain`
    * `Act.Blank`

  Key theorems include:
    * `Use.perform_names`
    * `Waiter.proceed_blank`
    * `World.Demand.serve_blank`
-/

namespace SqlAccess

variable {σ : Type}

------------------------------------------------------------
-- Failures and Statements
------------------------------------------------------------

namespace Error

/-
  A failure from below the statements that names none, but
  can.
-/
inductive IsBlank : Error → Prop
  | poolExhausted (role : Role) (timeout : Duration) :
      IsBlank (.poolExhausted "" role timeout)
  | connection (message : String) :
      IsBlank (.connection "" message)
  | query (message : String) : IsBlank (.query "" message)
  | resultShape (message : String) :
      IsBlank (.resultShape "" message)

/-
  A failure of the connection or of a statement, as a system
  reports it for a text: it names that text, or none.
-/
def IsReport (sql : String) (e : Error) : Prop :=
  ∃ text message,
    (text = "" ∨ text = sql) ∧
      (e = .connection text message ∨
        e = .query text message)

/-
  A failure that is about a statement once that is named.
-/
def Accepts (sql : String) (e : Error) : Prop :=
  (e.inStatement sql).sql? = some sql

section Naming

variable {sql : String} {e : Error}

/- What names no statement can name one. -/
theorem IsBlank.accepts
    (hBlank : e.IsBlank)
    (hSql : sql ≠ "") : e.Accepts sql := by
  cases hBlank <;> simp [Accepts, inStatement, sql?, hSql]

/- A failure about a statement is not about another one. -/
theorem accepts_of_sql?
    (hNamed : e.sql? = some sql) : e.Accepts sql := by
  unfold Accepts inStatement
  split <;> simp_all [sql?]

/- A report about a statement names it or can do so. -/
theorem IsReport.accepts
    (hReport : e.IsReport sql)
    (hSql : sql ≠ "") : e.Accepts sql := by
  rcases hReport with
    ⟨text, message, rfl | rfl, rfl | rfl⟩
  · exact (IsBlank.connection message).accepts hSql
  · exact (IsBlank.query message).accepts hSql
  · exact accepts_of_sql? (by simp [sql?, hSql])
  · exact accepts_of_sql? (by simp [sql?, hSql])

/- A report for no text names none. -/
theorem IsReport.isBlank
    (hReport : e.IsReport "") : e.IsBlank := by
  rcases hReport with
    ⟨text, message, rfl | rfl, rfl | rfl⟩
  · exact .connection message
  · exact .query message
  · exact .connection message
  · exact .query message

end Naming

end Error

/-
  A system that reports all failures as those of connections
  and statements.
-/
structure Backend.IsPlain
    (backend : Backend σ) :
    Prop where
  connect :
    ∀ address memory e,
      (backend.connect address memory).1 = .failed e →
        e.IsReport ""
  perform :
    ∀ link call memory e,
      (backend.perform link call memory).1 = .failed e →
        e.IsReport call.sql

------------------------------------------------------------
-- Statements on a Connection
------------------------------------------------------------

namespace Use

section Failures

variable {call : Call} {conn used : Connection}
variable {db after : Database σ} {e : Error}

/-
  A call without a reply fails with the text that it ran.
-/
theorem outlast_names
    {sql : String}
    (hSql : sql ≠ "")
    (conn : Connection)
    (db : Database σ) :
    (((outlast sql).run conn).run db).1.1.sql? =
      some sql := by
  rw [outlast_run]
  cases db.config.statementTimeout with
  | some limit =>
      dsimp only
      rw [(giveUp_run sql limit conn db).1]
      simp [Error.sql?, hSql]
  | none =>
      change (Error.connection sql "no answer").sql? = _
      simp [Error.sql?, hSql]

/- A call that fails names its statement. -/
theorem dispatch_names
    (hPlain : db.backend.IsPlain)
    (hSql : call.sql ≠ "")
    (hRun :
      ((dispatch call).run conn).run db =
        ((.error e, used), after)) :
    e.sql? = some call.sql := by
  rcases hReply :
      db.backend.perform conn.link call db.memory with
    ⟨reply, memory⟩
  rw [dispatch_run hReply] at hRun
  cases reply with
  | done answer => cases hRun
  | failed cause =>
      have hReport : cause.IsReport call.sql :=
        hPlain.perform conn.link call db.memory cause
          (congrArg Prod.fst hReply)
      by_cases hSpoils : cause.spoilsConnection = true
      · simp only [follow, hSpoils, if_true] at hRun
        cases hRun
        exact hReport.accepts hSql
      · simp only [follow, hSpoils] at hRun
        cases hRun
        exact hReport.accepts hSql
  | silent =>
      have hError := congrArg (fun run => run.1.1) hRun
      have hNamed := outlast_names hSql conn
        ({ db with memory := memory }.record
          (.called conn.link.id call
            (Reply.silent : Reply call.Answer).fate))
      rw [← Except.error.inj hError]
      exact hNamed

/- With nothing pending, all failures name the statement. -/
theorem perform_names
    (hPlain : db.backend.IsPlain)
    (hPending : conn.pending = [])
    (hSql : call.sql ≠ "")
    (hRun :
      ((perform call).run conn).run db =
        ((.error e, used), after)) :
    e.sql? = some call.sql := by
  have hDispatch :
      ((perform call).run conn).run db =
        ((dispatch call).run conn).run db := by
    unfold perform
    rw [bind_run, flush_run_of_nil hPending]
  exact dispatch_names hPlain hSql
    (hDispatch.symm.trans hRun)

end Failures

end Use

------------------------------------------------------------
-- Checkouts
------------------------------------------------------------

/- The failure that a part of a checkout has ended with. -/
def Progress.failure? : Progress → Option Error
  | finished (.error e) => some e
  | _ => none

/- The failure that a checkout has ended with. -/
def Waiter.failure? :
    Except Waiter (Except Error Connection) → Option Error
  | .ok (.error e) => some e
  | _ => none

namespace Act

variable {α β : Type}

/-
  With a system that reports plainly, an act only fails with
  what names no statement.
-/
def Blank
    (failure? : α → Option Error)
    (act : Act σ α) : Prop :=
  ∀ db : Database σ, db.backend.IsPlain →
    ∀ e ∈ failure? (act.run db).1, e.IsBlank

namespace Blank

theorem pure
    {failure? : α → Option Error}
    {a : α}
    (hBlank : ∀ e ∈ failure? a, e.IsBlank) :
    Blank failure? (pure a : Act σ α) :=
  fun _ _ => hBlank

/- What follows is known to follow from what comes first. -/
theorem after
    {failure? : β → Option Error}
    {act : Act σ α}
    {next : α → Act σ β}
    (hAct : Loyal act)
    (hNext :
      ∀ db : Database σ, db.backend.IsPlain →
        Blank failure? (next (act.run db).1)) :
    Blank failure? (act >>= next) := by
  intro db hPlain
  have hStill := hPlain
  rw [← hAct db] at hStill
  exact hNext db hPlain _ hStill

/-
  What comes before does not matter for what is reported.
-/
theorem bind
    {failure? : β → Option Error}
    {act : Act σ α}
    {next : α → Act σ β}
    (hAct : Loyal act)
    (hNext : ∀ a, Blank failure? (next a)) :
    Blank failure? (act >>= next) :=
  after hAct fun _ _ => hNext _

/- An act that looks at the database first. -/
theorem of_get
    {failure? : α → Option Error}
    {next : Database σ → Act σ α}
    (hNext : ∀ db, Blank failure? (next db)) :
    Blank failure? (get >>= next) :=
  fun db => hNext db db

/- An act that ends with one failure. -/
theorem failing
    {e : Error}
    (hBlank : e.IsBlank) :
    Blank Progress.failure?
      (return .finished (.error e) : Act σ Progress) := by
  refine .pure ?_
  rintro _ ⟨⟩
  exact hBlank

/- An act that does not end with a failure. -/
theorem sparing
    {progress : Progress}
    (hNone : progress.failure? = none) :
    Blank Progress.failure?
      (return progress : Act σ Progress) := by
  refine .pure ?_
  rw [hNone]
  nofun

end Blank

section Checkouts

variable (target : Target)

/- A pool that is closed names no statement. -/
theorem poolClosed_isBlank : (poolClosed target).IsBlank :=
  .connection _

/- A failure to open a connection is that of the system. -/
theorem connect_failed
    {db : Database σ}
    {address : String}
    {e : Error}
    (hFailed : ((connect address).run db).1 = .failed e) :
    (db.backend.connect address db.memory).1 =
      .failed e := by
  rcases hReply : db.backend.connect address db.memory with
    ⟨reply, memory⟩
  cases reply with
  | done answer =>
      rw [connect_run_done hReply] at hFailed
      cases hFailed
  | failed reason =>
      rw [connect_run_failed hReply] at hFailed
      cases hFailed
      rfl
  | silent =>
      rw [connect_run_silent hReply] at hFailed
      cases hFailed

/- A connection that does not open names no statement. -/
theorem openNew_blank :
    Blank Progress.failure?
      (openNew target : Act σ Progress) := by
  apply Blank.of_get
  intro db
  cases db.pool? target with
  | none => exact .failing (poolClosed_isBlank target)
  | some pool =>
      apply Blank.after (connect_loyal pool.address)
      intro seen hPlain
      cases hReply :
          ((connect pool.address).run seen).1 with
      | done link =>
          exact .bind (modifyPool_loyal target _) fun _ =>
            .sparing rfl
      | failed e =>
          have hReport :=
            hPlain.connect _ _ e (connect_failed hReply)
          exact .bind (modifyPool_loyal target _) fun _ =>
            .failing hReport.isBlank
      | silent => exact .sparing rfl

theorem giveUp_blank :
    Blank Progress.failure?
      (giveUp target : Act σ Progress) := by
  intro db _
  rintro _ ⟨⟩
  exact .poolExhausted _ _

theorem queueUp_blank :
    Blank Progress.failure?
      (queueUp target : Act σ Progress) := by
  apply Blank.of_get
  intro db
  split
  · exact giveUp_blank target
  · exact .bind (modifyPool_loyal target _) fun _ =>
      .sparing rfl

/- Who finds no seat is told so without a statement. -/
theorem seat_blank
    {whenFull : Act σ Progress}
    (hFull : Blank Progress.failure? whenFull) :
    Blank Progress.failure? (seat target whenFull) := by
  apply Blank.bind (reserve_loyal target)
  intro reserved
  cases reserved with
  | ok _ =>
      apply Blank.bind (take_loyal target)
      intro found
      cases found <;> exact .sparing rfl
  | error refusal =>
      cases refusal with
      | closed => exact .failing (poolClosed_isBlank target)
      | full => exact hFull

/- Who is refused is told so without a statement. -/
theorem enter_blank :
    Blank Progress.failure?
      (enter target : Act σ Progress) :=
  seat_blank target (queueUp_blank target)

/- Who is woken in vain is told so without a statement. -/
theorem wake_blank :
    Blank Progress.failure?
      (wake target : Act σ Progress) :=
  .bind (modifyPool_loyal target _) fun _ =>
    seat_blank target (giveUp_blank target)

end Checkouts

end Act

namespace Waiter

/- A checkout reports what its place does. -/
@[simp]
theorem failure?_standing
    (target : Target)
    (mayFallBack : Bool)
    (progress : Progress) :
    failure? (standing target mayFallBack progress) =
      progress.failure? := by
  rcases progress with pause | conn | e <;> rfl

/-
  What goes on after a part of a checkout fails as the part
  did, or as the primary does.
-/
theorem resume_blank
    (target : Target)
    (mayFallBack : Bool)
    {progress : Progress}
    (hBlank : ∀ e ∈ progress.failure?, e.IsBlank) :
    Act.Blank failure?
      (resume target mayFallBack progress :
        Act σ
          (Except Waiter (Except Error Connection))) := by
  cases progress with
  | paused pause =>
      refine .pure ?_
      rintro _ ⟨⟩
  | finished result =>
      simp only [resume]
      split
      · apply Act.Blank.bind
          (Act.markReplicaDown_loyal target)
        intro _
        apply Act.Blank.after (Act.enter_loyal .primary)
        intro db hPlain
        refine .pure ?_
        rw [failure?_standing]
        exact Act.enter_blank .primary db hPlain
      · refine .pure ?_
        cases result with
        | ok conn => rintro _ ⟨⟩
        | error e => exact hBlank

/- A checkout names no statement when it begins. -/
theorem begin_blank (demand : World.Demand) :
    Act.Blank failure?
      (begin demand :
        Act σ
          (Except Waiter (Except Error Connection))) := by
  apply Act.Blank.bind demand.choose_loyal
  rintro ⟨target, mayFallBack⟩
  apply Act.Blank.after (Act.enter_loyal target)
  intro db hPlain
  exact resume_blank target mayFallBack
    (Act.enter_blank target db hPlain)

/- A checkout names no statement when it goes on. -/
theorem proceed_blank (waiter : Waiter) (inTime : Bool) :
    Act.Blank failure?
      (waiter.proceed inTime :
        Act σ
          (Except Waiter (Except Error Connection))) := by
  unfold proceed
  cases waiter.pause with
  | forPlace =>
      apply Act.Blank.after (Act.wake_loyal waiter.target)
      intro db hPlain
      exact resume_blank _ _
        (Act.wake_blank waiter.target db hPlain)
  | forConnection =>
      cases inTime with
      | true =>
          apply Act.Blank.after
            (Act.openNew_loyal waiter.target)
          intro db hPlain
          exact resume_blank _ _
            (Act.openNew_blank waiter.target db hPlain)
      | false =>
          apply Act.Blank.after
            (Act.outlastConnect_loyal waiter.target)
          intro db _
          refine resume_blank _ _ ?_
          rintro _ ⟨⟩
          exact .connection _

/- A client who waits to the end fails as a part did. -/
theorem Reaches.blank
    {answer : Except Waiter (Except Error Connection)}
    {db : Database σ}
    {last : Except Error Connection × Database σ}
    (hReaches : Reaches answer db last)
    (hPlain : db.backend.IsPlain)
    (hBlank : ∀ e ∈ failure? answer, e.IsBlank) :
    last.2.backend = db.backend ∧
      ∀ e, last.1 = .error e → e.IsBlank := by
  induction hReaches with
  | done =>
      refine ⟨rfl, ?_⟩
      rintro e rfl
      exact hBlank e rfl
  | @wait waiter db last inTime hNext ih =>
      have hSame := waiter.proceed_loyal inTime db
      have hStill := hPlain
      rw [← hSame] at hStill
      rcases ih hStill
        (waiter.proceed_blank inTime db hPlain)
        with ⟨hLast, hFails⟩
      exact ⟨hLast.trans hSame, hFails⟩

end Waiter

/- A whole checkout fails without a statement. -/
theorem World.Demand.serve_blank
    (demand : World.Demand)
    {db : Database σ}
    (hPlain : db.backend.IsPlain) :
    let run := demand.serve.run db
    run.2.backend = db.backend ∧
      ∀ e, run.1 = .error e → e.IsBlank := by
  have hAttains := demand.begin_attains db
  have hSame := Waiter.begin_loyal demand db
  have hStill := hPlain
  rw [← hSame] at hStill
  rcases Waiter.Reaches.blank hAttains hStill
      (Waiter.begin_blank demand db hPlain) with
    ⟨hLast, hFails⟩
  exact ⟨hLast.trans hSame, hFails⟩

end SqlAccess
