import SqlAccess.Proofs.Routing.Journey

/-
  This file says how often a statement is run.  On a
  database it is run twice at most, the second time only for
  a read whose connection broke, and then on another
  connection and away from the replica that failed.  On a
  connection that is held, and in a transaction, it is run
  once at most.

  Key definitions include:
    * `Attempt.Breaks`
    * `Attempt.EndsWith`
    * `Journey.HasAnother`
    * `Journey.RunsTwice`
    * `Use.SentOnce`

  Key theorems include:
    * `Journey.Sound.dispatched_calls`
    * `Journey.Sound.length_eq_two_iff`
    * `Journey.Sound.moves_away`
    * `Journey.read_retried_once`
-/

namespace SqlAccess

variable {σ : Type}

------------------------------------------------------------
-- Attempts
------------------------------------------------------------

namespace Attempt

variable {statement : Session.Statement}
variable {attempt : Attempt σ} {crowd : Crowd σ}

/- The statement failed since its connection broke. -/
def Breaks
    (statement : Session.Statement)
    (attempt : Attempt σ) : Prop :=
  ∃ report ∈ attempt.final? statement, ∃ sql message,
    report.answer = .error (.connection sql message)

/- Only reads whose connection broke are run again. -/
theorem isRetried_iff
    {retry : Retry} :
    attempt.isRetried statement retry = true ↔
      statement.Reads ∧ retry = .once ∧
        attempt.Breaks statement := by
  unfold isRetried Breaks
  cases attempt.final? statement with
  | none => simp
  | some report =>
      cases hAnswer : report.answer with
      | ok answer => simp [hAnswer]
      | error e =>
          simp [hAnswer, Session.Statement.triesAgain_iff,
            Session.Statement.Reads]

/-
  The last step of an attempt decides about the result: the
  failed checkout, or the statement.
-/
inductive EndsWith
    (statement : Session.Statement)
    (attempt : Attempt σ) :
    Except Error statement.call.Answer → Prop
  | refused {e}
      (hStage : attempt.stage = .refused e) :
      EndsWith statement attempt
        (.error (statement.refused e))
  | performed {report}
      (hReport : report ∈ attempt.final? statement) :
      EndsWith statement attempt report.answer

/- An attempt ends with its result. -/
theorem endsWith_of_result
    {result : Except Error statement.call.Answer}
    (hResult : attempt.result? statement = some result) :
    EndsWith statement attempt result := by
  rcases attempt with ⟨number, asked, stage⟩
  cases stage with
  | seeking waiter => cases hResult
  | refused e =>
      cases hResult
      exact .refused rfl
  | holding conn => cases hResult
  | performed conn before done =>
      cases done with
      | false => cases hResult
      | true =>
          cases hResult
          exact .performed rfl

/-
  Where an attempt has ended, the statement was run if there
  was a connection for it.
-/
theorem conn_of_result
    {result : Except Error statement.call.Answer}
    (hResult : attempt.result? statement = some result) :
    (attempt.report? statement).isSome =
      attempt.conn?.isSome := by
  rcases attempt with ⟨number, asked, stage⟩
  cases stage <;> first | rfl | cases hResult

/- The statement is run in an attempt, or it is not. -/
theorem Trail.calls
    (hTrail : attempt.Trail statement crowd) :
    (Crowd.statementsBy attempt.client crowd.log).map
        Crowd.Entry.call =
      if (attempt.report? statement).isSome
      then [statement.call] else [] := by
  cases hReport : attempt.report? statement with
  | none =>
      rw [hTrail.no_statements hReport]
      rfl
  | some report =>
      rcases hTrail.statements hReport with
        ⟨conn, -, entry, hEntry, hCall, -⟩
      rw [hEntry, List.map_singleton, hCall]
      rfl

/- An attempt runs its statement once at most. -/
theorem Trail.length_statements_le
    (hTrail : attempt.Trail statement crowd) :
    (Crowd.statementsBy attempt.client crowd.log).length ≤
      1 := by
  have hLength := congrArg List.length hTrail.calls
  rw [List.length_map] at hLength
  rw [hLength]
  split
  · exact Nat.le_refl 1
  · exact Nat.zero_le 1

/- What is run in an attempt is run on its connection. -/
theorem Trail.conn_of_mem
    (hTrail : attempt.Trail statement crowd)
    {entry : Crowd.Entry}
    (hEntry :
      entry ∈
        Crowd.statementsBy attempt.client crowd.log) :
    ∃ conn ∈ attempt.conn?,
      entry.id = conn.id ∧ entry.target = conn.target :=
  hTrail.call (Crowd.mem_of_mem_statementsBy hEntry)

end Attempt

------------------------------------------------------------
-- Journeys
------------------------------------------------------------

namespace Journey

namespace Sound

variable {statement : Session.Statement} {config : Config}
variable {journey : Journey σ}

/- There are two attempts at most. -/
theorem length_le
    (hSound : journey.Sound statement config) :
    journey.attempts.length ≤ 2 := by
  have hCourse := hSound.course
  cases hAttempts : journey.attempts with
  | nil => exact Nat.zero_le 2
  | cons attempt earlier =>
      rw [hAttempts] at hCourse
      rcases hCourse.cases with
        hNone | ⟨first, hFirst, -⟩
      · rw [hNone]
        exact Nat.le_succ 1
      · rw [hFirst]
        exact Nat.le_refl 2

/- The statement is all that is run, once in an attempt. -/
theorem dispatched_calls
    (hSound : journey.Sound statement config) :
    (journey.dispatched).map Crowd.Entry.call =
      List.replicate
        (journey.attempts.countP fun attempt =>
          (attempt.report? statement).isSome)
        statement.call := by
  have hTrails := hSound.trails
  unfold dispatched
  generalize journey.crowd = crowd at hTrails
  rw [← (List.reverse_perm journey.attempts).countP_eq]
  have hTrails' :
      ∀ attempt ∈ journey.attempts.reverse,
        attempt.Trail statement crowd := by
    intro attempt hAttempt
    exact hTrails attempt (List.mem_reverse.1 hAttempt)
  generalize journey.attempts.reverse = attempts at hTrails'
  induction attempts with
  | nil => rfl
  | cons attempt rest ih =>
      rw [List.forall_mem_cons] at hTrails'
      rw [List.flatMap_cons, List.map_append,
        ih hTrails'.2, hTrails'.1.calls, List.countP_cons]
      split <;> rfl

/- An attempt that ended is the only one, or the second. -/
theorem ended_cases
    (hSound : journey.Sound statement config)
    {result : Except Error statement.call.Answer}
    (hResult : journey.result? statement = some result) :
    (∃ only, journey.attempts = [only] ∧
        only.isRetried statement config.readRetry =
          false ∧
        only.result? statement = some result) ∨
      ∃ second first,
        journey.attempts = [second, first] ∧
        Follows statement config.readRetry second first ∧
        second.result? statement = some result := by
  have hCourse := hSound.course
  have hSettings := hSound.settings
  rcases journey with ⟨crowd, attempts⟩
  cases attempts with
  | nil => cases hResult
  | cons attempt earlier =>
      rcases hCourse.cases with
        hNone | ⟨first, hFirst, hFollows⟩
      · cases hNone
        left
        unfold result? at hResult
        dsimp only at hResult
        split at hResult
        · cases hResult
        · next hDue =>
            refine ⟨attempt, rfl, ?_, hResult⟩
            rw [← hSettings]
            exact Bool.eq_false_iff.2 hDue
      · cases hFirst
        exact .inr
          ⟨attempt, first, rfl, hFollows, hResult⟩

/- What was run twice was run in two attempts, in order. -/
theorem dispatched_pair
    (hSound : journey.Sound statement config)
    {earlier later : Crowd.Entry}
    (hPair : journey.dispatched = [earlier, later]) :
    ∃ second first, journey.attempts = [second, first] ∧
      Follows statement config.readRetry second first ∧
      (∃ conn ∈ first.conn?,
        earlier.id = conn.id ∧
          earlier.target = conn.target) ∧
      ∃ conn ∈ second.conn?,
        later.id = conn.id ∧
          later.target = conn.target := by
  have hCourse := hSound.course
  have hTrails := hSound.trails
  rcases journey with ⟨crowd, attempts⟩
  change ∀ attempt ∈ attempts,
    attempt.Trail statement crowd
    at hTrails
  cases attempts with
  | nil => cases hPair
  | cons second rest =>
      rcases hCourse.cases with
        hNone | ⟨first, hFirst, hFollows⟩
      · cases hNone
        have hOne :=
          (hTrails second
            List.mem_cons_self).length_statements_le
        have hAll :
            Crowd.statementsBy second.client crowd.log =
              [earlier, later] := by
          simpa [dispatched] using hPair
        rw [hAll] at hOne
        exact absurd hOne (Nat.not_succ_le_self 1)
      · cases hFirst
        have hSecond := hTrails second List.mem_cons_self
        have hOther := hTrails first
          (List.mem_cons_of_mem _ List.mem_cons_self)
        have hSecondOne := hSecond.length_statements_le
        have hOtherOne := hOther.length_statements_le
        have hAll :
            Crowd.statementsBy first.client crowd.log ++
                Crowd.statementsBy second.client crowd.log =
              [earlier, later] := by
          simpa [dispatched] using hPair
        have hLength := congrArg List.length hAll
        rw [List.length_append] at hLength
        have hSplit :
            Crowd.statementsBy first.client crowd.log =
                [earlier] ∧
              Crowd.statementsBy second.client crowd.log =
                [later] := by
          refine List.append_inj hAll ?_
          simp only [List.length_cons, List.length_nil]
            at hLength ⊢
          omega
        refine ⟨second, first, rfl, hFollows,
          hOther.conn_of_mem ?_, hSecond.conn_of_mem ?_⟩
        · rw [hSplit.1]
          exact List.mem_cons_self
        · rw [hSplit.2]
          exact List.mem_cons_self

/-
  A read is not run again on a replica that still rests from
  the failure.
-/
theorem moves_away
    (hSound : journey.Sound statement config)
    {second first : Attempt σ}
    (hAttempts : journey.attempts = [second, first])
    {report : Report σ statement}
    (hReport : report ∈ first.final? statement)
    {conn : Connection}
    (hConn : conn ∈ first.conn?)
    {index : Nat}
    (hTarget : conn.target = .replica index) :
    ∃ time, report.after.db.clock = time + 1 ∧
      (Crowd.answersAt index second.asked.log =
          Crowd.answersAt index report.after.log →
        second.asked.db.clock <
          time + config.cooldownMillis →
          ∀ other ∈ second.conn?,
            other.target ≠ .replica index) := by
  have hCourse := hSound.course
  have hTrails := hSound.trails
  rw [hAttempts] at hCourse hTrails
  have hFollows : Follows statement _ second first :=
    hCourse
  have hFirst := hTrails first
    (List.mem_cons_of_mem _ List.mem_cons_self)
  have hSecond := hTrails second List.mem_cons_self
  rcases hFirst.failed hFollows.retried with
    ⟨same, hSame, there, hThere, hFailed⟩
  rcases Option.some.inj (hReport.symm.trans hSame)
  rcases Option.some.inj (hConn.symm.trans hThere)
  rcases hFailed.rests index hTarget with
    ⟨time, hTime, hRests⟩
  have hPasses :=
    (hFirst.ages report
      (Attempt.mem_report_of_final hReport) index).passes
  have hCooldown :
      report.after.db.health.cooldown =
        config.cooldownMillis :=
    hPasses.cooldown.symm.trans hSound.cooldown
  refine ⟨time, hTime, ?_⟩
  intro hAnswers hClock other hOther hThere
  have hAges :=
    (hFollows.rests report hReport index).rests hAnswers
  have hStill :
      second.asked.db.health.RestsUntil index
        (time + config.cooldownMillis) := by
    rw [← hCooldown]
    apply hAges.rests _ ?_ hRests
    omega
  rcases (Attempt.isRetried_iff.1 hFollows.retried).1 with
    ⟨bound, rfl⟩
  have hPick :=
    Act.pick_ne_of_rests hStill hClock .read false
  rcases hSecond.place hOther with
    hPicked | ⟨-, hPrimary⟩
  · rw [hPicked] at hThere
    exact hPick hThere
  · rw [hPrimary] at hThere
    cases hThere

end Sound

------------------------------------------------------------
-- Statements That Are Run Again
------------------------------------------------------------

/-
  A read has a connection for a second attempt, after its
  first one failed since the connection broke.
-/
def HasAnother
    (statement : Session.Statement)
    (config : Config)
    (journey : Journey σ) : Prop :=
  statement.Reads ∧ config.readRetry = .once ∧
    ∃ second first, journey.attempts = [second, first] ∧
      first.Breaks statement ∧ second.conn?.isSome = true

/-
  How often a statement is run on a database: nothing else
  is run for it, and twice at most; there is a second
  attempt if and only if it is a read, reads are to be run
  again and the connection broke; it is run twice if and
  only if there is a connection for the second attempt, too;
  that is another one, and not of a replica that still rests
  from the failure; and the result is that of the last step.
-/
structure RunsTwice
    (statement : Session.Statement)
    (config : Config)
    (journey : Journey σ) : Prop where
  calls :
    ∃ count ≤ 2,
      journey.dispatched.map Crowd.Entry.call =
        List.replicate count statement.call
  only :
    journey.dispatched.length = 2 →
      journey.HasAnother statement config
  tried :
    ∀ result ∈ journey.result? statement,
      (journey.attempts.length = 2 ↔
        statement.Reads ∧ config.readRetry = .once ∧
          ∃ first ∈ journey.attempts.getLast?,
            first.Breaks statement)
  twice :
    ∀ result ∈ journey.result? statement,
      (journey.dispatched.length = 2 ↔
        journey.HasAnother statement config)
  elsewhere :
    ∀ earlier later,
      journey.dispatched = [earlier, later] →
      later.id ≠ earlier.id ∧
        ∀ index, earlier.target = .replica index →
          ∃ second first,
            journey.attempts = [second, first] ∧
              ∃ report ∈ first.final? statement,
                ∃ time,
                report.after.db.clock = time + 1 ∧
                (Crowd.answersAt index second.asked.log =
                    Crowd.answersAt index
                      report.after.log →
                  second.asked.db.clock <
                      time + config.cooldownMillis →
                    later.target ≠ .replica index)
  last :
    ∀ result ∈ journey.result? statement,
      ∃ attempt ∈ journey.attempts.head?,
        attempt.EndsWith statement result

namespace Sound

variable {statement : Session.Statement} {config : Config}
variable {journey : Journey σ}

/- A statement is run in each attempt with a connection. -/
theorem length_dispatched
    (hSound : journey.Sound statement config) :
    journey.dispatched.length =
      journey.attempts.countP fun attempt =>
        (attempt.report? statement).isSome := by
  rw [← List.length_map (f := Crowd.Entry.call),
    hSound.dispatched_calls, List.length_replicate]

/- What was run twice is a read that had a second chance. -/
theorem hasAnother
    (hSound : journey.Sound statement config)
    (hTwice : journey.dispatched.length = 2) :
    journey.HasAnother statement config := by
  rcases List.length_eq_two.1 hTwice with
    ⟨earlier, later, hPair⟩
  rcases hSound.dispatched_pair hPair with
    ⟨second, first, hBoth, hFollows, -, conn, hConn, -⟩
  rcases Attempt.isRetried_iff.1 hFollows.retried with
    ⟨hReads, hOnce, hBreaks⟩
  exact ⟨hReads, hOnce, second, first, hBoth, hBreaks,
    Option.isSome_iff_exists.2 ⟨conn, hConn⟩⟩

/- When a second attempt was made. -/
theorem tried_iff
    (hSound : journey.Sound statement config)
    {result : Except Error statement.call.Answer}
    (hResult : journey.result? statement = some result) :
    journey.attempts.length = 2 ↔
      statement.Reads ∧ config.readRetry = .once ∧
        ∃ first ∈ journey.attempts.getLast?,
          first.Breaks statement := by
  rcases hSound.ended_cases hResult with
    ⟨only, hOnly, hNot, -⟩ |
      ⟨second, first, hBoth, hFollows, -⟩
  · rw [hOnly]
    constructor
    · intro hLength
      cases hLength
    · rintro ⟨hReads, hOnce, _, ⟨⟩, hBreaks⟩
      have hRetried :
          only.isRetried statement config.readRetry =
            true :=
        Attempt.isRetried_iff.2 ⟨hReads, hOnce, hBreaks⟩
      rw [hNot] at hRetried
      cases hRetried
  · rw [hBoth]
    rcases Attempt.isRetried_iff.1 hFollows.retried with
      ⟨hReads, hOnce, hBreaks⟩
    exact
      ⟨fun _ => ⟨hReads, hOnce, first, rfl, hBreaks⟩,
      fun _ => rfl⟩

/- When the statement was run a second time. -/
theorem twice_iff
    (hSound : journey.Sound statement config)
    {result : Except Error statement.call.Answer}
    (hResult : journey.result? statement = some result) :
    journey.dispatched.length = 2 ↔
      journey.HasAnother statement config := by
  refine ⟨hSound.hasAnother, ?_⟩
  rintro ⟨-, -, second, first, hBoth, hBreaks, hConn⟩
  rw [hSound.length_dispatched]
  rcases hSound.ended_cases hResult with
    ⟨only, hOnly, -⟩ | ⟨_, _, hSame, -, hEnded⟩
  · rw [hOnly] at hBoth
    cases hBoth
  · rw [hSame] at hBoth
    cases hBoth
    have hFirst :
        (first.report? statement).isSome = true := by
      rcases hBreaks with ⟨report, hReport, -⟩
      exact Option.isSome_iff_exists.2
        ⟨report, Attempt.mem_report_of_final hReport⟩
    rw [← Attempt.conn_of_result hEnded] at hConn
    rw [hSame]
    simp only [List.countP_cons, List.countP_nil, hConn,
      hFirst]
    rfl

/- A second run is elsewhere. -/
theorem elsewhere
    (hSound : journey.Sound statement config)
    {earlier later : Crowd.Entry}
    (hPair : journey.dispatched = [earlier, later]) :
    later.id ≠ earlier.id ∧
      ∀ index, earlier.target = .replica index →
        ∃ second first,
          journey.attempts = [second, first] ∧
          ∃ report ∈ first.final? statement, ∃ time,
            report.after.db.clock = time + 1 ∧
            (Crowd.answersAt index second.asked.log =
                Crowd.answersAt index report.after.log →
              second.asked.db.clock <
                  time + config.cooldownMillis →
                later.target ≠ .replica index) := by
  rcases hSound.dispatched_pair hPair with
    ⟨second, first, hBoth, hFollows,
      ⟨here, hHere, hId, hTarget⟩,
      ⟨there, hThere, hOther, hPlace⟩⟩
  refine ⟨?_, ?_⟩
  · rw [hId, hOther]
    intro hSame
    apply hFollows.apart there.id
    · exact List.mem_map_of_mem
        (Option.mem_toList.2 hThere)
    · rw [hSame]
      exact List.mem_map_of_mem (Option.mem_toList.2 hHere)
  · intro index hReplica
    rcases Attempt.isRetried_iff.1 hFollows.retried with
      ⟨-, -, report, hReport, -⟩
    rw [hTarget] at hReplica
    rcases hSound.moves_away hBoth hReport hHere
      hReplica with
      ⟨time, hTime, hAway⟩
    refine ⟨second, first, hBoth, report, hReport, time,
      hTime, ?_⟩
    intro hAnswers hClock
    rw [hPlace]
    exact hAway hAnswers hClock there hThere

/- The result is that of the last step. -/
theorem last
    (hSound : journey.Sound statement config)
    {result : Except Error statement.call.Answer}
    (hResult : journey.result? statement = some result) :
    ∃ attempt ∈ journey.attempts.head?,
      attempt.EndsWith statement result := by
  rcases hSound.ended_cases hResult with
    ⟨only, hOnly, -, hEnded⟩ |
      ⟨second, first, hBoth, -, hEnded⟩
  · rw [hOnly]
    exact ⟨only, rfl, Attempt.endsWith_of_result hEnded⟩
  · rw [hBoth]
    exact ⟨second, rfl,
      Attempt.endsWith_of_result hEnded⟩

/-
  A journey that is sound runs its statement twice at most,
  and only as it is said to.
-/
theorem runsTwice
    (hSound : journey.Sound statement config) :
    journey.RunsTwice statement config where
  calls :=
    ⟨_,
      Nat.le_trans List.countP_le_length hSound.length_le,
        hSound.dispatched_calls⟩
  only := hSound.hasAnother
  tried _ := hSound.tried_iff
  twice _ := hSound.twice_iff
  elsewhere _ _ := hSound.elsewhere
  last _ := hSound.last

end Sound

end Journey

------------------------------------------------------------
-- Connections That Are Held
------------------------------------------------------------

namespace Use

/-
  Among the calls on a connection, a statement was sent once
  at most, after what was pending.
-/
def SentOnce
    (call : Call)
    (pending : List String)
    (calls : List (Call × Fate)) : Prop :=
  ∃ earlier own,
    (calls.map Prod.fst).filter Call.isStatement =
        earlier ++ own ∧
      earlier <+: pending.map Call.batch ∧ own <+: [call]

/- A call that was sent is the only statement. -/
theorem Sent.statements
    {call : Call}
    {calls : List (Call × Fate)}
    {ok : Bool}
    (hSent : Sent call calls ok)
    (hStatement : call.isStatement = true) :
    (calls.map Prod.fst).filter Call.isStatement =
      [call] := by
  cases hSent with
  | answered => simp [hStatement]
  | @failed fate cancels _ hCancels =>
      have hNone :
          (cancels.map Prod.fst).filter Call.isStatement =
            [] := by
        refine List.filter_eq_nil_iff.2 ?_
        intro other hOther
        rcases List.mem_map.1 hOther with
          ⟨entry, hEntry, rfl⟩
        rw [hCancels entry hEntry]
        exact Bool.false_ne_true
      rw [List.map_cons, List.filter_cons_of_pos hStatement,
        hNone]

/- What was pending consists of statements. -/
theorem statements_flushed (pending : List String) :
    ((flushed pending).map Prod.fst).filter
        Call.isStatement =
      pending.map Call.batch := by
  have hCalls :
      (flushed pending).map Prod.fst =
        pending.map Call.batch := by
    simp [flushed]
  rw [hCalls, List.filter_eq_self]
  intro call hCall
  rcases List.mem_map.1 hCall with ⟨sql, -, rfl⟩
  rfl

/- A statement is sent once, behind what was pending. -/
theorem Performed.sentOnce
    {call : Call}
    {pending : List String}
    {calls : List (Call × Fate)}
    {ok : Bool}
    (hPerformed : Performed call pending calls ok)
    (hStatement : call.isStatement = true) :
    SentOnce call pending calls := by
  cases hPerformed with
  | @sent own _ hSent =>
      refine ⟨pending.map .batch, [call], ?_,
        List.prefix_refl _, List.prefix_refl _⟩
      rw [List.map_append, List.filter_append,
        statements_flushed, hSent.statements hStatement]
  | stuck hStuck =>
      rcases hStuck with
        ⟨before, sql, later, failure, rfl, hSent, rfl⟩
      refine ⟨(before ++ [sql]).map .batch, [], ?_, ?_,
        List.nil_prefix⟩
      · rw [List.map_append, List.filter_append,
          statements_flushed, hSent.statements rfl,
          List.append_nil, List.map_append]
        rfl
      · refine ⟨later.map .batch, ?_⟩
        rw [← List.map_append]
        simp

end Use

/-
  A client runs a statement on a connection that it holds.
-/
theorem Handling.runFree_sentOnce
    (statement : Session.Statement)
    (conn : Connection)
    (db : Database σ) :
    Use.Yields (runFree statement) conn db
      fun _ _ calls =>
        Use.SentOnce statement.call conn.pending calls := by
  have hOnce :
      ∀ call : Call, call.isStatement = true →
        Use.Yields
          (do return (← Use.perform call).isOk :
            Use σ Bool)
          conn db
          fun _ _ calls =>
            Use.SentOnce call conn.pending calls := by
    intro call hStatement
    apply (Use.perform_yields call conn db).bind
    rintro result used calls after ⟨hPerformed, -⟩
    apply Use.Yields.pure
    rw [List.append_nil]
    exact hPerformed.sentOnce hStatement
  cases statement with
  | select intent bound => exact hOnce (.select bound) rfl
  | dml bound => exact hOnce (.dml bound) rfl
  | batch sql => exact hOnce (.batch sql) rfl

/- A client runs a statement in a scope of a transaction. -/
theorem Session.Statement.run_sentOnce
    (statement : Session.Statement)
    (scope : Scope)
    (conn : Connection)
    (db : Database σ) :
    Use.Yields (statement.run scope) conn db
      fun _ _ calls =>
        Use.SentOnce statement.call conn.pending calls := by
  by_cases hActive : scope.phase = .active
  · have hFree :
        (statement.run scope : Use σ Bool) =
          Handling.runFree statement := by
      cases statement <;>
      simp only [Session.Statement.run, Handling.runFree,
        Scope.executor, Use.executor, Scope.whileActive,
        hActive, if_true]
    rw [hFree]
    exact Handling.runFree_sentOnce statement conn db
  · have hEnded :
        (statement.run scope :
          Use σ Bool) = return false := by
      cases statement <;>
      · simp only [Session.Statement.run, Scope.executor,
          Scope.whileActive, hActive]
        rfl
    rw [hEnded]
    exact Use.Yields.pure
      ⟨[], [], rfl, List.nil_prefix, List.nil_prefix⟩

------------------------------------------------------------
-- Runs
------------------------------------------------------------

/-
  Wherever any number of clients have brought a database,
  and whatever they and the system do then: a statement that
  is run on the database is run twice at most, the second
  time only for a read whose connection broke, and
  elsewhere.  On a connection that is held and in the scopes
  of a transaction, it is run once at most.
-/
theorem Journey.read_retried_once
    (config : Config)
    (backend : Backend σ)
    (memory : σ)
    (turns : List Crowd.Turn)
    (statement : Session.Statement)
    (moves : List Move) :
    let crowd :=
      (Crowd.new config backend memory).pass turns
    let journey := (start crowd).play statement moves
    journey.RunsTwice statement config ∧
      ∀ (conn : Connection) (db : Database σ),
        Use.Yields (Handling.runFree statement) conn db
            (fun _ _ calls =>
              Use.SentOnce statement.call conn.pending
                calls) ∧
          ∀ scope,
            Use.Yields (statement.run scope) conn db
              fun _ _ calls =>
                Use.SentOnce statement.call conn.pending
                  calls := by
  intro crowd journey
  have hSound : journey.Sound statement config :=
    (Sound.start backend memory turns).play moves
  refine ⟨hSound.runsTwice, ?_⟩
  intro conn db
  exact ⟨Handling.runFree_sentOnce statement conn db,
    fun scope => statement.run_sentOnce scope conn db⟩

/-
  A read whose replica fails is run a second time, on the
  primary.
-/
example :
    let crowd :=
      Crowd.new Crowd.sampleConfig
        (Crowd.sampleFaulty fun _ =>
          .failed (.connection "" "no")) 0
    let statement : Session.Statement :=
      .select .read ⟨"select 1", []⟩
    let journey :=
      (Journey.start crowd).play statement
        (.replicate 8 (.proceed true))
    journey.dispatched.map Crowd.Entry.target =
        [.replica 0, .primary] ∧
      journey.result? statement = some (.ok .empty) :=
  ⟨rfl, rfl⟩

end SqlAccess
