import SqlAccess.Proofs.Binding.Outcome
import SqlAccess.Proofs.Query.Naming
import SqlAccess.Proofs.Routing.Placement

/-
  This file says which statement the failure of a query is
  about, whatever is wanted of the query and whatever
  happens on the way.  A failure to bind it is about the
  template, and then nothing was done with the database.
  Any later failure is about the statement that was bound:
  what comes from below names none or that one, and it is
  named on the way up.

  Key definitions include:
    * `Attempt.Plain`
    * `Journey.Plain`
    * `Query.Terminal`

  Key theorems include:
    * `Session.Statement.run_accepts`
    * `Journey.result_accepts`
    * `Query.bound_error`
    * `Query.Terminal.run_eq`
    * `Query.failure_names_statement`
-/

namespace SqlAccess

variable {σ : Type}

------------------------------------------------------------
-- Statements to the End
------------------------------------------------------------

/- What a statement is refused with can be about it. -/
theorem Session.Statement.refused_accepts
    (statement : Session.Statement)
    {e : Error}
    (hBlank : e.IsBlank)
    (hSql : statement.call.sql ≠ "") :
    (statement.refused e).Accepts statement.call.sql := by
  cases statement with
  | batch sql =>
      exact Error.accepts_of_sql? (hBlank.accepts hSql)
  | _ => exact hBlank.accepts hSql

/- A checkout hands out what was idle or is new. -/
theorem World.Demand.serve_supplies
    (demand : World.Demand)
    (db : Database σ) :
    Act.Supplies demand.serve db [] handed := by
  cases demand with
  | target place => exact Act.checkoutAt_supplies place db
  | role wanted => exact Act.checkout_supplies db wanted
  | routed intent inTransaction =>
      exact Act.checkoutRouted_supplies db intent
        inTransaction

namespace Crowd

variable {crowd : Crowd σ}

/- A statement that a client runs fails with its name. -/
theorem report_names
    (client : Client)
    {conn : Connection}
    {statement : Session.Statement}
    {e : Error}
    (hPlain : crowd.db.backend.IsPlain)
    (hPending : conn.pending = [])
    (hSql : statement.call.sql ≠ "")
    (hAnswer :
      (crowd.report client conn statement).answer =
        .error e) :
    e.sql? = some statement.call.sql := by
  let report := crowd.report client conn statement
  have hRun :
      ((Use.perform statement.call).run conn).run crowd.db =
        ((.error e, report.used), report.after.db) := by
    rw [← hAnswer]
    rfl
  exact Use.perform_names hPlain hPending hSql hRun

/-
  One attempt leaves idle connections clear and the system
  as it was, and what it fails with can be about the
  statement.
-/
theorem Ready.once
    (hReady : crowd.Ready)
    (hPlain : crowd.db.backend.IsPlain)
    (statement : Session.Statement) :
    let run := statement.once.run crowd.db
    ({ crowd with db := run.2 } : Crowd σ).Ready ∧
      run.2.backend = crowd.db.backend ∧
      (statement.call.sql ≠ "" →
        ∀ e, statement.settle run.1 = .error e →
          e.Accepts statement.call.sql) := by
  intro run
  have hClear :=
    hReady.supplied
      (statement.demand.serve_supplies crowd.db)
      (List.forall_mem_nil _)
  rcases statement.demand.serve_blank hPlain with
    ⟨hBackend, hBlank⟩
  rcases hServe : statement.demand.serve.run crowd.db with
    ⟨result, db⟩
  rw [hServe, List.forall_mem_append] at hClear
  rw [hServe] at hBackend hBlank
  cases result with
  | error cause =>
      have hRun : run = (.error cause, db) :=
        statement.once_refused hServe
      rw [hRun]
      refine ⟨⟨hClear.2, hReady.holders⟩,
        hBackend, ?_⟩
      rintro hSql _ ⟨⟩
      exact statement.refused_accepts
        (hBlank cause rfl) hSql
  | ok conn =>
      let held : Crowd σ := { crowd with db := db }
      let client : Client := ⟨0, .connection⟩
      let report := held.report client conn statement
      have hRun :
          run =
            (.ok report.answer,
              ((Act.release report.used).run
                report.after.db).2) :=
        statement.once_performed hServe
      have hConn : conn.IsClear := hClear.1 conn (by simp)
      have hPools :=
        (held.report_worked client conn
          statement).apart.pools
      have hWorked : report.after.Ready := by
        refine ⟨?_, hReady.holders⟩
        rw [Database.idle_congr hPools]
        exact hClear.2
      have hReturned :
          ∀ other ∈ Act.returned report.used,
            other.IsClear := by
        intro other hOther
        unfold Act.returned at hOther
        split at hOther
        · cases hOther
        · next hAnswered =>
            rw [List.mem_singleton] at hOther
            subst hOther
            exact ⟨Attempt.report_settled held client conn
              statement, Bool.eq_false_iff.2 hAnswered⟩
      have hKept :=
        hWorked.supplied
          (Act.release_supplies report.used report.after.db)
          hReturned
      have hPerformed :
          report.after.db.backend = db.backend :=
        Use.perform_loyal statement.call conn db
      rw [hRun]
      refine ⟨⟨hKept, hReady.holders⟩, ?_, ?_⟩
      · exact (Act.release_loyal report.used _).trans
          (hPerformed.trans hBackend)
      · intro hSql e hError
        have hHeld : held.db.backend.IsPlain := by
          rw [← hBackend] at hPlain
          exact hPlain
        exact Error.accepts_of_sql?
          (report_names client hHeld hConn.pending hSql
            hError)

end Crowd

/-
  What a statement fails with in the end can be about it.
-/
theorem Session.Statement.run_accepts
    {statement : Session.Statement}
    {crowd : Crowd σ}
    (hReady : crowd.Ready)
    (hPlain : crowd.db.backend.IsPlain)
    (hSql : statement.call.sql ≠ "")
    {e : Error}
    (hError :
      ((Act.executor.run statement).run crowd.db).1 =
        .error e) :
    e.Accepts statement.call.sql := by
  rcases hReady.once hPlain statement with
    ⟨hAfter, hBackend, hFirst⟩
  rw [run_run] at hError
  dsimp only at hError
  split at hError
  · have hStill := hPlain
    rw [← hBackend] at hStill
    rcases hAfter.once hStill statement with
      ⟨-, -, hSecond⟩
    exact hSecond hSql e hError
  · exact hFirst hSql e hError

------------------------------------------------------------
-- Statements on Their Way
------------------------------------------------------------

/-
  An attempt that was refused without a statement, or whose
  statement was run with a system that reports plainly.
-/
def Attempt.Plain (attempt : Attempt σ) : Prop :=
  match attempt.stage with
  | .refused e => e.IsBlank
  | .performed _ before _ => before.db.backend.IsPlain
  | _ => True

namespace Attempt

variable {statement : Session.Statement}
variable {attempt : Attempt σ} {crowd : Crowd σ}

/- An attempt is plain if its checkout fails plainly. -/
theorem Plain.ofAnswer
    {answer : Except Waiter (Except Error Connection)}
    (hBlank : ∀ e ∈ Waiter.failure? answer, e.IsBlank)
    (number : Nat)
    (asked : Crowd σ) :
    Plain ⟨number, asked, .ofAnswer answer⟩ := by
  rcases answer with waiter | e | conn
  · trivial
  · exact hBlank e rfl
  · trivial

/- The first step of an attempt. -/
theorem begin_plain
    (statement : Session.Statement)
    (hPlain : crowd.db.backend.IsPlain) :
    let run := begin statement crowd
    run.1.Plain ∧ run.2.db.backend = crowd.db.backend :=
  ⟨.ofAnswer
      (Waiter.begin_blank statement.demand crowd.db hPlain)
        _ _,
    Waiter.begin_loyal statement.demand crowd.db⟩

/- All further steps. -/
theorem Plain.proceed
    (hAttempt : attempt.Plain)
    (hPlain : crowd.db.backend.IsPlain)
    (statement : Session.Statement)
    (inTime : Bool) :
    let run := attempt.proceed statement inTime crowd
    run.1.Plain ∧
      run.2.db.backend = crowd.db.backend := by
  rcases attempt with ⟨number, asked, stage⟩
  cases stage with
  | seeking waiter =>
      exact ⟨.ofAnswer
          (waiter.proceed_blank inTime crowd.db hPlain) _ _,
        waiter.proceed_loyal inTime crowd.db⟩
  | refused e => exact ⟨hAttempt, rfl⟩
  | holding conn =>
      exact ⟨hPlain,
        Use.perform_loyal statement.call conn crowd.db⟩
  | performed conn before done =>
      cases done with
      | true => exact ⟨hAttempt, rfl⟩
      | false =>
          cases hUsed :
              (before.report ⟨number, .connection⟩ conn
                statement).used.unanswered with
          | true =>
              rw [proceed_stuck rfl hUsed]
              exact ⟨hAttempt, rfl⟩
          | false =>
              rw [proceed_performed rfl hUsed]
              exact ⟨hAttempt,
                Act.release_loyal _ crowd.db⟩

/- What an attempt fails with can be about the statement. -/
theorem Plain.result_accepts
    (hAttempt : attempt.Plain)
    (hClear : ∀ conn ∈ attempt.conn?, conn.IsClear)
    (hSql : statement.call.sql ≠ "")
    {e : Error}
    (hResult :
      attempt.result? statement = some (.error e)) :
    e.Accepts statement.call.sql := by
  rcases attempt with ⟨number, asked, stage⟩
  cases stage with
  | refused cause =>
      cases hResult
      exact statement.refused_accepts hAttempt hSql
  | performed conn before done =>
      cases done with
      | false => cases hResult
      | true =>
          have hAnswer := Option.some.inj hResult
          exact Error.accepts_of_sql?
            (Crowd.report_names ⟨number, .connection⟩
              hAttempt
              (hClear conn rfl).pending hSql hAnswer)
  | _ => cases hResult

end Attempt

/- A journey with a system that reports plainly. -/
structure Journey.Plain (journey : Journey σ) : Prop where
  backend : journey.crowd.db.backend.IsPlain
  attempts : ∀ attempt ∈ journey.attempts, attempt.Plain

namespace Journey

variable {statement : Session.Statement}
variable {journey : Journey σ}

namespace Plain

/- The client begins an attempt. -/
theorem begin
    (hPlain : journey.Plain)
    (statement : Session.Statement) :
    let run := Attempt.begin statement journey.crowd
    Plain ⟨run.2, run.1 :: journey.attempts⟩ := by
  intro run
  rcases Attempt.begin_plain statement hPlain.backend with
    ⟨hAttempt, hBackend⟩
  refine ⟨?_,
    List.forall_mem_cons.2
      ⟨hAttempt, hPlain.attempts⟩⟩
  exact hBackend ▸ hPlain.backend

/- A move leaves the attempts plain. -/
theorem step
    (hPlain : journey.Plain)
    (statement : Session.Statement)
    (move : Move) :
    (journey.step statement move).Plain := by
  rcases journey with ⟨crowd, attempts⟩
  cases move with
  | turn next =>
      refine ⟨?_, hPlain.attempts⟩
      have hBackend :
          (crowd.turn next).db.backend = crowd.db.backend :=
        crowd.pass_loyal [next]
      exact hBackend ▸ hPlain.backend
  | proceed inTime =>
      cases attempts with
      | nil => exact hPlain.begin statement
      | cons attempt earlier =>
          simp only [Journey.step, Journey.proceed]
          split
          · exact hPlain.begin statement
          · rcases List.forall_mem_cons.1
              hPlain.attempts with
              ⟨hAttempt, hEarlier⟩
            rcases hAttempt.proceed hPlain.backend statement
                inTime with
              ⟨hNext, hBackend⟩
            refine ⟨?_,
              List.forall_mem_cons.2
                ⟨hNext, hEarlier⟩⟩
            exact hBackend ▸ hPlain.backend

/- Moves leave the attempts plain. -/
theorem play
    (hPlain : journey.Plain)
    (statement : Session.Statement)
    (moves : List Move) :
    (journey.play statement moves).Plain := by
  induction moves generalizing journey with
  | nil => exact hPlain
  | cons move rest ih =>
      exact ih (hPlain.step statement move)

end Plain

/- What a journey ends with can be about the statement. -/
theorem result_accepts
    {config : Config}
    (hPlain : journey.Plain)
    (hSound : journey.Sound statement config)
    (hSql : statement.call.sql ≠ "")
    {e : Error}
    (hResult :
      journey.result? statement = some (.error e)) :
    e.Accepts statement.call.sql := by
  rcases journey with ⟨crowd, attempts⟩
  cases attempts with
  | nil => cases hResult
  | cons attempt earlier =>
      simp only [result?] at hResult
      split at hResult
      · cases hResult
      · exact (hPlain.attempts attempt
          List.mem_cons_self).result_accepts
          (hSound.trails attempt List.mem_cons_self).clear
          hSql hResult

end Journey

------------------------------------------------------------
-- Bound Queries
------------------------------------------------------------

namespace Query

variable {query : Query} {dialect : Dialect}

/- A query that cannot be bound fails with its template. -/
theorem bound_error
    {e : Error}
    (hError : query.bound dialect = .error e)
    (hSql : query.sql ≠ "") :
    e.sql? = some query.sql := by
  unfold bound bindText at hError
  rcases hCompile : Template.compile query.sql with
    cause | template
  · rw [hCompile] at hError
    cases hError
    unfold Template.compile at hCompile
    split at hCompile
    · cases hCompile
    · cases hCompile
      simp [Error.sql?, Template.refusal, hSql]
  · rw [hCompile] at hError
    have hSource : template.source = query.sql := by
      unfold Template.compile at hCompile
      split at hCompile
      · cases hCompile
        rfl
      · cases hCompile
    have hEnd := Template.bind_eq_error_iff.1 hError
    rw [hSource] at hEnd
    cases hEnd with
    | first hFirst =>
        rcases hFirst with
          ⟨before, demand, after, -, -, hFails⟩
        rcases hFails.source_site with
          ⟨reason, rfl⟩ | ⟨message, rfl⟩ <;>
        simp [Error.sql?, hSql]
    | surplus => simp [Error.sql?, hSql]

/-
  A result is named after a statement if its failures can be
  about it.
-/
theorem sql?_of_named
    {α : Type}
    {bound : Bound}
    {result : Except Error α}
    {e : Error}
    (hAccepts :
      ∀ cause, result = .error cause →
        cause.Accepts bound.query)
    (hError : named bound result = .error e) :
    e.sql? = some bound.query := by
  rcases Except.mapError_eq_error_iff.1 hError with
    ⟨cause, hCause, rfl⟩
  exact hAccepts cause hCause

------------------------------------------------------------
-- What Is Wanted of a Query
------------------------------------------------------------

/-
  What can be wanted of a query: the number of rows that it
  changes, its rows or the first one in the shape of the
  database, or its result in a shape.
-/
inductive Terminal
  | execute
  | all (shape : RowShape)
  | one (shape : RowShape)
  | fetch (shape : Shape)
  | column
  | dictionary
  | groups

namespace Terminal

/- What a query is answered with. -/
@[reducible]
def Result : Terminal → Type
  | execute => Nat
  | all _ => Rows
  | one _ => Option Row
  | fetch _ => Materialized
  | column => List Value
  | dictionary => Keyed Record
  | groups => Keyed (List Record)

/- Run a query for what is wanted of it. -/
def run
    {m : Type → Type}
    [Monad m]
    (query : Query)
    (dialect : Dialect)
    (executor : Executor m) :
    (terminal :
      Terminal) → m (Except Error terminal.Result)
  | execute => query.execute dialect executor
  | all shape => query.all dialect shape executor
  | one shape => query.one dialect shape executor
  | fetch shape => query.fetch dialect executor shape
  | column => query.column dialect executor
  | dictionary => query.dictionary dialect executor
  | groups => query.groups dialect executor

/- The statement that a query is run as once it is bound. -/
@[reducible]
def statement
    (query : Query)
    (bound : Bound) : Terminal → Session.Statement
  | execute => .dml bound
  | _ => query.statement bound

/- What is made of the answer to the statement. -/
def wanted
    (query : Query)
    (bound : Bound) :
    (terminal : Terminal) →
      (terminal.statement query bound).call.Answer →
        Except Error terminal.Result
  | execute => .ok
  | all shape => fun result =>
      .ok (result.toRows (query.shape.getD shape))
  | one shape => fun result =>
      .ok (result.toRows (query.shape.getD shape)).first?
  | fetch shape => fun result =>
      (result.materialize shape).mapError ShapeFault.toError
  | column => fun result =>
      result.column.mapError ShapeFault.toError
  | dictionary => fun result =>
      result.dictionary.mapError ShapeFault.toError
  | groups => fun result =>
      result.groups.mapError ShapeFault.toError

section Runs

variable (query : Query)

/- A query is run as the statement that it is bound to. -/
theorem run_eq
    {m : Type → Type}
    [Monad m]
    [LawfulMonad m]
    (dialect : Dialect)
    (executor : Executor m)
    (terminal : Terminal) :
    terminal.run query dialect executor =
      match query.bound dialect with
      | .error e => return .error e
      | .ok bound => do
          let result ←
            executor.run (terminal.statement query bound)
          return named bound
            (result.bind
              (terminal.wanted query bound)) := by
  cases terminal with
  | execute =>
      refine (query.execute_eq dialect executor).trans ?_
      cases query.bound dialect with
      | error e => rfl
      | ok bound =>
          apply bind_congr
          intro result
          cases result <;> rfl
  | _ => exact query.rowsAs_eq dialect executor _

/- A query that cannot be bound does nothing. -/
theorem run_of_error
    {dialect : Dialect}
    {e : Error}
    (hBound : query.bound dialect = .error e)
    (terminal : Terminal)
    (db : Database σ) :
    (terminal.run query dialect Act.executor).run db =
      (.error e, db) := by
  rw [run_eq, hBound]
  rfl

/-
  A query that is bound runs its statement, and shapes the
  answer.
-/
theorem run_of_ok
    {dialect : Dialect}
    {bound : Bound}
    (hBound : query.bound dialect = .ok bound)
    (terminal : Terminal)
    (db : Database σ) :
    (terminal.run query dialect Act.executor).run db =
      let run :=
        (Act.executor.run
          (terminal.statement query bound)).run
          db
      (named bound
        (run.1.bind (terminal.wanted query bound)),
          run.2) := by
  rw [run_eq, hBound]
  rfl

variable {query} {bound : Bound} {terminal : Terminal}

/- The call of a query runs the text that was bound. -/
theorem sql_statement :
    (terminal.statement query bound).call.sql =
      bound.query := by
  cases terminal <;> rfl

/- A result that does not fit is about no statement yet. -/
theorem wanted_blank
    {answer : (terminal.statement query bound).call.Answer}
    {e : Error}
    (hWanted :
      terminal.wanted query bound answer = .error e) :
    e.IsBlank := by
  have hBlank :
      ∀ {α : Type} {result : Except ShapeFault α},
        result.mapError ShapeFault.toError = .error e →
          e.IsBlank := by
    intro α result hResult
    rcases Except.mapError_eq_error_iff.1 hResult with
      ⟨fault, -, rfl⟩
    exact .resultShape fault.message
  cases terminal with
  | execute => cases hWanted
  | all shape => cases hWanted
  | one shape => cases hWanted
  | _ => exact hBlank hWanted

/-
  What is made of an answer fails as the statement did, or
  because it does not fit.
-/
theorem answer_accepts
    {result :
      Except Error
        (terminal.statement query bound).call.Answer}
    (hSql : bound.query ≠ "")
    (hResult :
      ∀ e, result = .error e → e.Accepts bound.query)
    {e : Error}
    (hError :
      result.bind (terminal.wanted query bound) =
        .error e) :
    e.Accepts bound.query := by
  cases result with
  | error cause =>
      cases hError
      exact hResult e rfl
  | ok answer => exact (wanted_blank hError).accepts hSql

end Runs

end Terminal

end Query

------------------------------------------------------------
-- All Failures
------------------------------------------------------------

/-
  Wherever any number of clients have brought a database
  whose system reports plainly: a query that cannot be bound
  fails with its template, and the database stays as it is.
  Once it is bound, whatever is wanted of it, whether it is
  run alone or while others act, it only fails with its
  statement.
-/
theorem Query.failure_names_statement
    (config : Config)
    (backend : Backend σ)
    (memory : σ)
    (turns : List Crowd.Turn)
    (hPlain : backend.IsPlain)
    (query : Query)
    (dialect : Dialect)
    (terminal : Query.Terminal) :
    let crowd :=
      (Crowd.new config backend memory).pass turns
    let run :=
      (terminal.run query dialect Act.executor).run crowd.db
    (∀ e, query.bound dialect = .error e →
      run = (.error e, crowd.db) ∧
        (query.sql ≠ "" → e.sql? = some query.sql)) ∧
      ∀ bound, query.bound dialect = .ok bound →
        bound.query ≠ "" →
          let statement := terminal.statement query bound
          (∀ e, run.1 = .error e →
            e.sql? = some bound.query) ∧
            ∀ moves,
              let journey :=
                (Journey.start crowd).play statement moves
              ∀ result,
                journey.result? statement = some result →
                ∀ e,
                  named bound
                      (result.bind
                        (terminal.wanted query bound)) =
                    .error e →
                    e.sql? = some bound.query := by
  intro crowd run
  have hReady : crowd.Ready :=
    (Crowd.Ready.new config backend memory).pass turns
  have hCrowd : crowd.db.backend.IsPlain := by
    have hBackend : crowd.db.backend = backend :=
      (Crowd.new config backend memory).pass_loyal turns
    rw [hBackend]
    exact hPlain
  refine ⟨?_, ?_⟩
  · intro e hBound
    exact ⟨Terminal.run_of_error query hBound terminal
      crowd.db, bound_error hBound⟩
  intro bound hBound hSql statement
  have hStatement : statement.call.sql = bound.query :=
    Terminal.sql_statement
  refine ⟨?_, ?_⟩
  · intro e hError
    have hRun : run = _ :=
      Terminal.run_of_ok query hBound terminal crowd.db
    rw [hRun] at hError
    refine sql?_of_named ?_ hError
    intro cause hCause
    refine Terminal.answer_accepts hSql ?_ hCause
    intro first hFirst
    rw [← hStatement] at hSql ⊢
    exact Session.Statement.run_accepts hReady hCrowd hSql
      hFirst
  · intro moves journey result hResult e hError
    have hSound : journey.Sound statement config :=
      (Journey.Sound.start backend memory turns).play moves
    have hJourney : journey.Plain :=
      (Journey.Plain.mk hCrowd (List.forall_mem_nil _)).play
        statement moves
    refine sql?_of_named ?_ hError
    intro cause hCause
    refine Terminal.answer_accepts hSql ?_ hCause
    rintro first rfl
    rw [← hStatement] at hSql ⊢
    exact Journey.result_accepts hJourney hSound hSql
      hResult

section Sample

/- A system that opens no connection reports so plainly. -/
theorem Crowd.sampleBackend_isPlain :
    (Crowd.sampleBackend 0).IsPlain := by
  refine ⟨?_, ?_⟩
  · rintro address count _ ⟨⟩
    exact ⟨"", "no", .inl rfl, .inl rfl⟩
  · rintro link call count _ ⟨⟩

/-
  A query with a name that is not bound fails before
  anything is asked, and one that gets no connection names
  its statement.
-/
theorem Query.failure_names_statement_sample :
    let crowd :=
      (Crowd.new Crowd.sampleConfig (Crowd.sampleBackend 0)
        0).pass []
    let dialect := crowd.db.dialect
    let unbound := Query.new "select :id"
    let query := (Query.new "select 1").withIntent .read
    let failure : Error := .connection "select 1" "no"
    (∃ e, unbound.bound dialect = .error e ∧
      (unbound.column dialect Act.executor).run crowd.db =
        (.error e, crowd.db) ∧
      e.sql? = some "select :id") ∧
      ((query.column dialect Act.executor).run crowd.db).1 =
        .error failure ∧
      failure.sql? = some "select 1" := by
  intro crowd dialect unbound query failure
  have hUnbound :
      unbound.bound dialect =
        .error (.binding "select :id"
          (.named "id") .missing) := by
    change
      (Query.new "select :id").bound
        ⟨.numbered, .reject⟩ = _
    with_unfolding_all rfl
  have hBound :
      query.bound dialect = .ok ⟨"select 1", []⟩ := by
    change
      (Query.new "select 1").bound
        ⟨.numbered, .reject⟩ = _
    with_unfolding_all rfl
  have hNames :=
    failure_names_statement Crowd.sampleConfig
      (Crowd.sampleBackend 0) 0 []
      Crowd.sampleBackend_isPlain
  have hRun :
      ((query.column dialect Act.executor).run crowd.db).1 =
        .error failure := by
    have hColumn :=
      Terminal.run_of_ok query hBound .column crowd.db
    exact (congrArg Prod.fst hColumn).trans rfl
  rcases (hNames unbound dialect .column).1 _ hUnbound with
    ⟨hSame, hNamed⟩
  refine ⟨⟨_, hUnbound, hSame, hNamed (by decide)⟩,
    hRun, ?_⟩
  exact ((hNames query dialect .column).2 _ hBound
    (by decide)).1 _ hRun

end Sample

end SqlAccess
