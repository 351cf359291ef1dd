import SqlAccess.Proofs.Routing.Trail

/-
  This file follows a statement that is run on a database
  until its result is there.  It takes one attempt, or a
  second one if the first failed and the statement is to be
  tried again, while any number of others use the database.

  Key definitions include:
    * `Session.Statement.triesAgain`
    * `Attempt.isRetried`
    * `Journey`
    * `Journey.step`
    * `Journey.play`
    * `Journey.Sound`

  Key theorems include:
    * `Attempt.Trail.statements`
    * `Attempt.Trail.failed`
    * `Journey.Sound.step`
    * `Journey.Sound.play`
-/

namespace SqlAccess

variable {σ : Type}

/- Whether a statement that failed is run once more. -/
def Session.Statement.triesAgain
    (retry : Retry)
    (e : Error) : Session.Statement → Bool
  | select intent _ => Act.triesAgain retry intent e
  | _ => false

/-
  Only a read whose connection broke is run once more, and
  only if that is wanted.
-/
theorem Session.Statement.triesAgain_iff
    {statement : Session.Statement}
    {retry : Retry}
    {e : Error} :
    statement.triesAgain retry e = true ↔
      statement.Reads ∧ retry = .once ∧
        ∃ sql message, e = .connection sql message := by
  unfold Reads
  cases statement with
  | select intent bound =>
      cases e <;>
      cases intent <;>
      simp [triesAgain, Act.triesAgain]
  | dml bound => simp [triesAgain]
  | batch sql => simp [triesAgain]

------------------------------------------------------------
-- The Statement of an Attempt
------------------------------------------------------------

/-
  With nothing pending a statement is the first call, and
  what follows only stops it.
-/
theorem Use.Performed.statement_first
    {call : Call}
    {calls : List (Call × Fate)}
    {ok : Bool}
    (hPerformed : Use.Performed call [] calls ok) :
    ∃ fate cancels,
      calls = (call, fate) :: cancels ∧
        Use.OnlyCancels cancels ∧ fate.isDone = ok := by
  cases hPerformed with
  | sent hSent =>
      cases hSent with
      | answered =>
          exact ⟨.done, [], rfl, Use.onlyCancels_nil,
            rfl⟩
      | @failed fate cancels hFate hCancels =>
          refine ⟨fate, cancels, rfl, hCancels, ?_⟩
          cases fate with
          | done => exact absurd rfl hFate
          | failed e => rfl
          | silent => rfl
  | stuck hStuck =>
      rcases hStuck with
        ⟨before, sql, later, _, hNil, _⟩
      cases before <;> cases hNil

namespace Crowd

/- The statements that were run for a client, in order. -/
def statementsBy
    (client : Client)
    (log : List Entry) : List Entry :=
  ((callsBy client log).filter fun entry =>
    entry.call.isStatement).reverse

/- Statements are calls. -/
theorem mem_of_mem_statementsBy
    {client : Client}
    {log : List Entry}
    {entry : Entry}
    (hEntry : entry ∈ statementsBy client log) :
    entry ∈ callsBy client log :=
  (List.mem_filter.1 (List.mem_reverse.1 hEntry)).1

/-
  With nothing pending, running a statement is one call, and
  perhaps one to stop it.
-/
theorem report_statements
    (crowd : Crowd σ)
    (client : Client)
    {conn : Connection}
    (statement : Session.Statement)
    (hPending : conn.pending = []) :
    let report := crowd.report client conn statement
    ∃ entry,
      (report.made.filter fun entry =>
          entry.call.isStatement).reverse = [entry] ∧
        entry.call = statement.call ∧
        entry.IsBy (.resting 0 client conn) .work ∧
        entry.fate.isDone = report.answer.isOk := by
  intro report
  have hStatement := statement.isStatement_call
  rcases Use.perform_yields statement.call conn
    crowd.db with
    ⟨calls, hHeard, -, hPerformed, -⟩
  rcases (Holder.resting 0 client conn).entries_of_apart
    .work
      ((Use.perform_careful statement.call).confined conn
        crowd.db).2 hHeard with
    ⟨hOwn, hMade⟩
  change ∀ entry ∈ report.made, _ at hOwn
  change (report.made.map Entry.made).reverse = calls
    at hMade
  change Use.Performed _ _ calls report.answer.isOk
    at hPerformed
  rw [hPending] at hPerformed
  rcases hPerformed.statement_first with
    ⟨fate, cancels, rfl, hCancels, hFate⟩
  rw [← List.map_reverse, List.map_eq_cons_iff] at hMade
  rcases hMade with
    ⟨entry, rest, hReverse, hEntry, hRest⟩
  rcases Prod.mk.inj hEntry with ⟨hCall, hDone⟩
  have hMember : entry ∈ report.made := by
    rw [← List.mem_reverse, hReverse]
    exact List.mem_cons_self
  have hNone :
      rest.filter (fun entry => entry.call.isStatement) =
        [] := by
    refine List.filter_eq_nil_iff.2 ?_
    intro other hOther
    have hCancel : other.call = .cancel := by
      apply hCancels other.made
      rw [← hRest]
      exact List.mem_map_of_mem hOther
    rw [hCancel]
    exact Bool.false_ne_true
  refine ⟨entry, ?_, hCall, hOwn entry hMember, ?_⟩
  · rw [← List.filter_reverse, hReverse,
      List.filter_cons_of_pos, hNone]
    rw [hCall]
    exact hStatement
  · rw [hDone]
    exact hFate

end Crowd

namespace Attempt

variable {statement : Session.Statement}
variable {attempt : Attempt σ} {crowd : Crowd σ}

/-
  The statement is run once on the connection, if at all.
-/
theorem Trail.statements
    (hTrail : attempt.Trail statement crowd)
    {report : Report σ statement}
    (hReport : report ∈ attempt.report? statement) :
    ∃ conn ∈ attempt.conn?, ∃ entry,
      Crowd.statementsBy attempt.client crowd.log =
        [entry] ∧
        entry.call = statement.call ∧
        entry.id = conn.id ∧
        entry.target = conn.target ∧
        entry.fate.isDone = report.answer.isOk := by
  have hNoted := hTrail.noted
  have hClear := hTrail.clear
  rcases attempt with ⟨number, asked, stage⟩
  cases stage with
  | performed conn before done =>
      cases hReport
      rcases before.report_statements
        ⟨number, .connection⟩
          statement (hClear conn rfl).pending with
        ⟨entry, hEntry, hCall, hBy, hDone⟩
      refine ⟨conn, rfl, entry, ?_, hCall, hBy.id,
        hBy.target, hDone⟩
      rw [Crowd.statementsBy, hNoted]
      exact hEntry
  | _ => cases hReport

/- Nothing is run in an attempt that did not come to it. -/
theorem Trail.no_statements
    (hTrail : attempt.Trail statement crowd)
    (hReport : attempt.report? statement = none) :
    Crowd.statementsBy attempt.client crowd.log = [] := by
  rw [Crowd.statementsBy, hTrail.noted, made, hReport]
  rfl

------------------------------------------------------------
-- Failed Attempts
------------------------------------------------------------

/- Whether the statement is run again after an attempt. -/
def isRetried
    (statement : Session.Statement)
    (retry : Retry)
    (attempt : Attempt σ) : Bool :=
  match (attempt.final? statement).map Report.answer with
  | some (.error e) => statement.triesAgain retry e
  | _ => false

/-
  What is known after an attempt that is retried: the client
  has let go of a connection that is not relied on, and its
  replica rests from the failure on.
-/
structure Failed
    (statement : Session.Statement)
    (retry : Retry)
    (report : Report σ statement)
    (conn : Connection) : Prop where
  error :
    ∃ e, report.answer = .error e ∧
      statement.triesAgain retry e = true
  id : report.used.id = conn.id
  unhealthy : report.used.healthy = false
  rests :
    ∀ index, conn.target = .replica index →
      ∃ time, report.after.db.clock = time + 1 ∧
        report.after.db.health.RestsUntil index
          (time + report.after.db.health.cooldown)

/-
  An attempt that is made again has failed on its
  connection.
-/
theorem Trail.failed
    (hTrail : attempt.Trail statement crowd)
    {retry : Retry}
    (hRetried : attempt.isRetried statement retry = true) :
    ∃ report ∈ attempt.final? statement,
      ∃ conn ∈ attempt.conn?,
        Failed statement retry report conn := by
  have hClear := hTrail.clear
  have hAnswered := hTrail.answered
  rcases attempt with ⟨number, asked, stage⟩
  unfold isRetried at hRetried
  cases stage with
  | performed conn before done =>
      cases done with
      | false => cases hRetried
      | true =>
          let report :=
            before.report ⟨number, .connection⟩ conn
              statement
          change (match some report.answer with
            | some (.error e) =>
                statement.triesAgain retry e
            | _ => false) = true at hRetried
          refine ⟨report, rfl, conn, rfl, ?_⟩
          have hUsed : report.used.unanswered = false :=
            hAnswered report rfl
          have hId : report.used.id = conn.id :=
            congrArg Link.id
              (before.report_worked _ _ _).link
          cases hError : report.answer with
          | ok answer =>
              rw [hError] at hRetried
              cases hRetried
          | error e =>
              rw [hError] at hRetried
              rcases Session.Statement.triesAgain_iff.1
                  hRetried with
                ⟨-, -, sql, message, rfl⟩
              have hRun :
                  ((Use.perform statement.call).run
                    conn).run before.db =
                    ((.error (.connection sql message),
                      report.used), report.after.db) := by
                rw [← hError]
                rfl
              rcases Use.perform_spoiled hRun rfl hUsed with
                ⟨flushed, middle, hFlush, hHealthy,
                  hSpoiled⟩
              rw [Use.flush_run_of_nil
                (hClear conn rfl).pending]
                at hFlush
              cases hFlush
              refine ⟨⟨_, hError, hRetried⟩, hId,
                hHealthy, ?_⟩
              intro index hTarget
              cases hSpoiled with
              | reported cause _ hReplica =>
                  rcases hReplica index hTarget with
                    ⟨hClock, hHealth⟩
                  refine ⟨before.db.clock, hClock, ?_⟩
                  rw [hHealth]
                  exact Health.restsUntil_fail _ _ _
              | tookTooLong limit _ hOther => cases hOther
  | _ => cases hRetried

end Attempt

------------------------------------------------------------
-- Journeys
------------------------------------------------------------

/-
  A statement on its way: the others, and the attempts to
  run it, with the latest one first.
-/
structure Journey (σ : Type) where
  crowd : Crowd σ
  attempts : List (Attempt σ)

namespace Journey

section Steps

variable (statement : Session.Statement)
variable (journey : Journey σ)

/- Whether a new attempt is to be made. -/
def isDue : Bool :=
  match journey.attempts with
  | [] => true
  | [attempt] =>
      attempt.isRetried statement
        journey.crowd.db.config.readRetry
  | _ => false

/-
  What the statement ended with, if no attempt is to come.
-/
def result? : Option (Except Error statement.call.Answer) :=
  match journey.attempts with
  | [] => none
  | attempt :: _ =>
      if journey.isDue statement then none
      else attempt.result? statement

/- What happens next: others do something, or the client. -/
inductive Move
  | turn (next : Crowd.Turn)
  | proceed (inTime : Bool)

/- The client begins an attempt or goes on with one. -/
def proceed (inTime : Bool) : Journey σ :=
  match journey.attempts with
  | [] =>
      let run := Attempt.begin statement journey.crowd
      ⟨run.2, [run.1]⟩
  | attempt :: earlier =>
      if journey.isDue statement then
        let run := Attempt.begin statement journey.crowd
        ⟨run.2, run.1 :: attempt :: earlier⟩
      else
        let run :=
          attempt.proceed statement inTime journey.crowd
        ⟨run.2, run.1 :: earlier⟩

/- What a move makes of a journey. -/
def step : Move → Journey σ
  | .turn next =>
      { journey with crowd := journey.crowd.turn next }
  | .proceed inTime => journey.proceed statement inTime

/-
  A first attempt is to be made, or a second one after one
  that failed.
-/
theorem due_cases
    (hDue : journey.isDue statement = true) :
    journey.attempts = [] ∨
      ∃ first, journey.attempts = [first] ∧
        first.isRetried statement
          journey.crowd.db.config.readRetry = true := by
  rcases journey with ⟨crowd, attempts⟩
  cases attempts with
  | nil => exact .inl rfl
  | cons first earlier =>
      cases earlier with
      | nil => exact .inr ⟨first, rfl, hDue⟩
      | cons other rest => cases hDue

/- The journey after some moves. -/
def play (moves : List Move) : Journey σ :=
  moves.foldl (step statement) journey

/- All clients, with the one whose statement it is. -/
def whole : Crowd σ :=
  match journey.attempts with
  | [] => journey.crowd
  | attempt :: _ => attempt.whole statement journey.crowd

/- The statements that were run so far, in order. -/
def dispatched : List Crowd.Entry :=
  journey.attempts.reverse.flatMap fun attempt =>
    Crowd.statementsBy attempt.client journey.crowd.log

end Steps

/- Nothing was done for the statement yet. -/
def start (crowd : Crowd σ) : Journey σ :=
  ⟨crowd, []⟩

------------------------------------------------------------
-- What Holds on the Way
------------------------------------------------------------

/-
  What holds of an attempt that was made because another one
  failed: it has another client, replicas have rested since
  the failure when it began, and its connection is another
  one.
-/
structure Follows
    (statement : Session.Statement)
    (retry : Retry)
    (second first : Attempt σ) : Prop where
  retried : first.isRetried statement retry = true
  later : first.number < second.number
  rests :
    ∀ report ∈ first.final? statement,
      ∀ index, Crowd.Ages index report.after second.asked
  apart : ∀ id ∈ second.own, id ∉ first.own

/-
  There is no attempt, or one, or one that follows another.
-/
def Course
    (statement : Session.Statement)
    (retry : Retry) : List (Attempt σ) → Prop
  | [] => True
  | [_] => True
  | [second, first] => Follows statement retry second first
  | _ => False

/- An attempt is the only one, or it follows another one. -/
theorem Course.cases
    {statement : Session.Statement}
    {retry : Retry}
    {attempt : Attempt σ}
    {earlier : List (Attempt σ)}
    (hCourse :
      Course statement retry (attempt :: earlier)) :
    earlier = [] ∨
      ∃ first, earlier = [first] ∧
        Follows statement retry attempt first := by
  cases earlier with
  | nil => exact .inl rfl
  | cons first rest =>
      cases rest with
      | nil => exact .inr ⟨first, rfl, hCourse⟩
      | cons other more => cases hCourse

/-
  All that holds of a journey whatever happens on the way.
-/
structure Sound
    (statement : Session.Statement)
    (config : Config)
    (journey : Journey σ) : Prop where
  settings : journey.crowd.db.config = config
  cooldown :
    journey.crowd.db.health.cooldown = config.cooldownMillis
  lawful :
    (journey.whole statement).Lawful config.maxConnections
  ready : journey.crowd.Ready
  trails :
    ∀ attempt ∈ journey.attempts,
      attempt.Trail statement journey.crowd
  course :
    Course statement config.readRetry journey.attempts

namespace Sound

variable {statement : Session.Statement} {config : Config}

/- A journey begins wherever the others have come to. -/
theorem start
    (backend : Backend σ)
    (memory : σ)
    (turns : List Crowd.Turn) :
    Sound statement config
      (Journey.start
        ((Crowd.new config backend memory).pass
          turns)) := by
  have hPasses :=
    ((Crowd.new config backend memory).pass_ages 0
      turns).passes
  exact ⟨hPasses.config, hPasses.cooldown,
    (Crowd.Lawful.new config backend memory).pass turns,
    (Crowd.Ready.new config backend memory).pass turns,
    List.forall_mem_nil _, trivial⟩

variable {journey : Journey σ}

/- Others do something. -/
theorem turn
    (hSound : journey.Sound statement config)
    (next : Crowd.Turn) :
    (journey.step statement (.turn next)).Sound statement
      config := by
  have hOthers := journey.crowd.turn_meanwhile next
  have hPasses := (hOthers.ages 0).passes
  refine ⟨hPasses.config.trans hSound.settings,
    hPasses.cooldown.trans hSound.cooldown, ?_,
    hSound.ready.turn next, ?_, hSound.course⟩
  · have hLawful := hSound.lawful
    rcases journey with ⟨crowd, attempts⟩
    cases attempts with
    | nil =>
        have hBeside :
            (crowd.beside [] []).Lawful
              config.maxConnections :=
          hLawful
        exact hBeside.beside_turn next
    | cons attempt earlier => exact hLawful.beside_turn next
  · intro attempt hAttempt
    exact (hSound.trails attempt hAttempt).meanwhile hOthers
      List.not_mem_nil fun _ _ => List.not_mem_nil

/- A client who makes an attempt no more has nothing. -/
theorem whole_of_retried
    {attempt : Attempt σ}
    {retry : Retry}
    (hRetried : attempt.isRetried statement retry = true)
    (crowd : Crowd σ) :
    attempt.whole statement crowd = crowd := by
  rcases attempt with ⟨number, asked, stage⟩
  cases stage with
  | performed conn before done =>
      cases done with
      | true => rfl
      | false => cases hRetried
  | _ => cases hRetried

/-
  A connection that failed is not the one that is handed out
  when the statement is run again.
-/
theorem handed_apart
    {first : Attempt σ}
    {crowd asked : Crowd σ}
    {retry : Retry}
    {number : Nat}
    {part :
      Act σ (Except Waiter (Except Error Connection))}
    (hTrail : first.Trail statement crowd)
    (hRetried : first.isRetried statement retry = true)
    (hSupplies :
      Act.Supplies part crowd.db [] Waiter.handed) :
    ∀ id ∈ Attempt.own
        ⟨number, asked,
          .ofAnswer (part.run crowd.db).1⟩,
      id ∉ first.own := by
  rcases hTrail.failed hRetried with
    ⟨report, hReport, conn, hConn, hFailed⟩
  have hGone := hTrail.gone report hReport hFailed.unhealthy
  rw [hFailed.id] at hGone
  have hOwn : first.own = [conn.id] := by
    rw [Attempt.own, Option.mem_def.1 hConn]
    rfl
  intro id hId hSame
  rw [hOwn, List.mem_singleton] at hSame
  unfold Attempt.own at hId
  rcases List.mem_map.1 hId with ⟨other, hOther, rfl⟩
  rw [Option.mem_toList] at hOther
  exact hGone.handed hSupplies other
    (Attempt.mem_handed_of_conn hOther) hSame

/- The client begins an attempt. -/
theorem begin
    (hSound : journey.Sound statement config)
    (hDue : journey.isDue statement = true) :
    let run := Attempt.begin statement journey.crowd
    Sound statement config
      ⟨run.2, run.1 :: journey.attempts⟩ := by
  intro run
  have hCases := due_cases statement journey hDue
  rcases journey with ⟨crowd, attempts⟩
  rcases hSound with
    ⟨hSettings, hCooldown, hWhole, hReady, hTrails, -⟩
  have hLawful : crowd.Lawful config.maxConnections := by
    rcases hCases with hNone | ⟨first, hFirst, hRetried⟩
    · cases hNone
      exact hWhole
    · cases hFirst
      rw [← whole_of_retried hRetried crowd]
      exact hWhole
  have hStepped :
      Attempt.Stepped statement [] [] crowd run :=
    Attempt.begin_stepped hLawful hReady
  have hPasses := (hStepped.others.ages 0).passes
  have hBegun :
      (run.1.whole statement run.2).Lawful
        config.maxConnections := by
    rw [Attempt.begin_whole statement crowd]
    exact hLawful.play _
  refine ⟨hPasses.config.trans hSettings,
    hPasses.cooldown.trans hCooldown, hBegun,
      hStepped.ready,
    ?_, ?_⟩
  · rw [List.forall_mem_cons]
    refine ⟨hStepped.trail, ?_⟩
    intro attempt hAttempt
    exact (hTrails attempt hAttempt).meanwhile
      hStepped.others List.not_mem_nil
      fun _ _ => List.not_mem_nil
  · rcases hCases with
      hNone | ⟨first, hFirst, hRetried⟩
    · cases hNone
      trivial
    · cases hFirst
      have hTrail := hTrails first List.mem_cons_self
      refine ⟨?_, hTrail.stranger.joined, ?_, ?_⟩
      · rw [← hSettings]
        exact hRetried
      · intro report hReport
        exact hTrail.ages report
          (Attempt.mem_report_of_final hReport)
      · exact handed_apart hTrail hRetried
          (Waiter.begin_supplies crowd.db statement.demand)

/- An attempt that goes on still follows the other one. -/
theorem follows_proceed
    {attempt first : Attempt σ}
    {crowd : Crowd σ}
    {retry : Retry}
    (hFollows : Follows statement retry attempt first)
    (hTrail : first.Trail statement crowd)
    (inTime : Bool) :
    Follows statement retry
      (attempt.proceed statement inTime crowd).1 first := by
  rcases attempt with ⟨number, asked, stage⟩
  rcases hFollows with
    ⟨hRetried, hLater, hRests, hApart⟩
  cases stage with
  | seeking waiter =>
      exact ⟨hRetried, hLater, hRests,
        handed_apart hTrail hRetried
          (Waiter.proceed_supplies crowd.db waiter
            inTime)⟩
  | refused e =>
      exact ⟨hRetried, hLater, hRests, hApart⟩
  | holding conn =>
      exact ⟨hRetried, hLater, hRests, hApart⟩
  | performed conn before done =>
      cases done with
      | true => exact ⟨hRetried, hLater, hRests, hApart⟩
      | false =>
          unfold Attempt.proceed
          dsimp only
          split <;>
            exact ⟨hRetried, hLater, hRests, hApart⟩

/- The client goes on with an attempt. -/
theorem goOn
    {attempt : Attempt σ}
    {earlier : List (Attempt σ)}
    (hSound : journey.Sound statement config)
    (hAttempts : journey.attempts = attempt :: earlier)
    (inTime : Bool) :
    let run :=
      attempt.proceed statement inTime journey.crowd
    Sound statement config
      ⟨run.2, run.1 :: earlier⟩ := by
  intro run
  rcases journey with ⟨crowd, attempts⟩
  cases hAttempts
  rcases hSound with
    ⟨hSettings, hCooldown, hLawful, hReady, hTrails,
      hCourse⟩
  rw [List.forall_mem_cons] at hTrails
  have hStepped :=
    Attempt.proceed_stepped hTrails.1 hLawful hReady inTime
  have hPasses := (hStepped.others.ages 0).passes
  have hProceeded :
      (run.1.whole statement run.2).Lawful
        config.maxConnections := by
    rcases attempt.proceed_whole statement hTrails.1.clear
        inTime crowd with
      ⟨moves, hMoves⟩
    rw [hMoves]
    exact hLawful.play moves
  refine ⟨hPasses.config.trans hSettings,
    hPasses.cooldown.trans hCooldown, hProceeded,
    hStepped.ready, ?_, ?_⟩
  · rw [List.forall_mem_cons]
    refine ⟨hStepped.trail, ?_⟩
    intro first hFirst
    rcases hCourse.cases with
      hNone | ⟨other, hOther, hFollows⟩
    · rw [hNone] at hFirst
      cases hFirst
    · rw [hOther, List.mem_singleton] at hFirst
      subst hFirst
      refine (hTrails.2 first ?_).meanwhile
        hStepped.others ?_
        fun id hId hOwn => hFollows.apart id hOwn hId
      · rw [hOther]
        exact List.mem_cons_self
      · rw [List.mem_singleton]
        intro hSame
        have hNumbers := congrArg Crowd.Client.number hSame
        exact absurd hNumbers (Nat.ne_of_lt hFollows.later)
  · rcases hCourse.cases with
      hNone | ⟨first, hFirst, hFollows⟩
    · rw [hNone]
      trivial
    · cases hFirst
      exact follows_proceed hFollows
        (hTrails.2 first List.mem_cons_self) inTime

/- Whatever happens next, it still holds. -/
theorem step
    (hSound : journey.Sound statement config)
    (move : Move) :
    (journey.step statement move).Sound statement
      config := by
  cases move with
  | turn next => exact hSound.turn next
  | proceed inTime =>
      rcases journey with ⟨crowd, attempts⟩
      cases attempts with
      | nil => exact hSound.begin rfl
      | cons attempt earlier =>
          simp only [Journey.step, Journey.proceed]
          split
          · next hDue => exact hSound.begin hDue
          · exact hSound.goOn rfl inTime

/- It holds all the way. -/
theorem play
    (hSound : journey.Sound statement config)
    (moves : List Move) :
    (journey.play statement moves).Sound statement
      config := by
  induction moves generalizing journey with
  | nil => exact hSound
  | cons move rest ih => exact ih (hSound.step move)

end Sound

end Journey

end SqlAccess
