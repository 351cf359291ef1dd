import SqlAccess.Proofs.Routing.Attempt
import SqlAccess.Proofs.Routing.Cooldown

/-
  This file says what stays true of an attempt whatever the
  client and all others do next: where its connection leads,
  which calls were made in it, and that a connection that
  was spoiled in it is not handed out again.

  Key definitions include:
    * `Attempt.Trail`

  Key theorems include:
    * `Attempt.Trail.meanwhile`
    * `Attempt.begin_trail`
    * `Attempt.proceed_trail`
-/

namespace SqlAccess

variable {σ : Type}

------------------------------------------------------------
-- Places
------------------------------------------------------------

namespace Waiter

variable {limit : Nat} {others : Share} {db : Database σ}

/- A checkout begins at the place that is chosen for it. -/
theorem begin_stays
    (demand : World.Demand)
    (hBalanced : db.Balanced limit (.none ++ others)) :
    let chosen := (demand.choose.run db).1
    StaysAt chosen.1 chosen.2
      ((begin demand).run db).1 := by
  have hChosen :=
    (demand.choose_accounts others db hBalanced).1
  have hBegin :
      (begin demand).run db =
        let run := demand.choose.run db
        (Act.enter run.1.1 >>= resume run.1.1 run.1.2).run
          run.2 :=
    rfl
  rcases hRun : demand.choose.run db with
    ⟨⟨target, mayFallBack⟩, after⟩
  rw [hRun] at hChosen hBegin
  rw [hBegin]
  have hAccounts :
      Act.Accounts limit
        (Act.enter target >>= resume target mayFallBack :
          Act σ (Except Waiter (Except Error Connection)))
        .none share (StaysAt target mayFallBack) :=
    (Act.enter_accounts target mayFallBack).bind
      fun progress hLeads =>
        resume_accounts target mayFallBack hLeads
  exact (hAccounts others after hChosen).2

/- A checkout that goes on stays at its place. -/
theorem StaysAt.trans
    {target : Target}
    {mayFallBack : Bool}
    {waiter : Waiter}
    {answer : Except Waiter (Except Error Connection)}
    (hWaiting : StaysAt target mayFallBack (.error waiter))
    (hAnswer :
      StaysAt waiter.target waiter.mayFallBack answer) :
    StaysAt target mayFallBack answer := by
  rcases hWaiting.1 waiter rfl with ⟨hHere, hMay⟩
  have hNear :
      ∀ place,
        (place = waiter.target ∨
          waiter.mayFallBack = true ∧
            place = .primary) →
          place = target ∨
            mayFallBack = true ∧ place = .primary := by
    rintro place (rfl | ⟨hFalls, rfl⟩)
    · exact hHere
    · exact .inr ⟨hMay hFalls, rfl⟩
  refine ⟨?_, ?_⟩
  · intro next hNext
    rcases hAnswer.1 next hNext with ⟨hThere, hStill⟩
    exact ⟨hNear _ hThere,
      fun hFalls => hMay (hStill hFalls)⟩
  · intro conn hConn
    exact hNear _ (hAnswer.2 conn hConn)

end Waiter

------------------------------------------------------------
-- Reports
------------------------------------------------------------

/-
  A statement is run without anything beginning or ending.
-/
theorem Use.perform_tracking (call : Call) :
    Tracking .work
      (do
        let _ ← perform call
        return .resting .free : Use σ Activity) := by
  refine ⟨(perform_careful call).confined.bind
    fun _ => .pure _, ?_⟩
  intro conn db
  apply (perform_yields call conn db).bind
  rintro result used calls after ⟨-, hSettled⟩
  apply Yields.pure
  rw [List.append_nil]
  exact .of_same hSettled.target hSettled.inTransaction
    fun entry _ => Part.not_begins_work entry

namespace Crowd

section Reports

variable (crowd : Crowd σ) (client : Client)
variable (conn : Connection) (statement : Session.Statement)

/-
  What becomes of a connection that a statement is run on.
-/
theorem report_worked :
    let report := crowd.report client conn statement
    (Holder.resting 0 client conn).Worked .work crowd.db
      report.after.db report.used :=
  (Holder.resting 0 client conn).worked_of_tracking
    (Use.perform_tracking statement.call) crowd.db

/- The calls of a client are noted, and no others. -/
theorem report_calls :
    let report := crowd.report client conn statement
    callsBy client report.after.log =
      report.made ++ callsBy client crowd.log := by
  intro report
  have hOwn :=
    (crowd.report_worked client conn statement).own
  have hMade :
      callsBy client report.made = report.made := by
    refine List.filter_eq_self.2 ?_
    intro entry hEntry
    exact decide_eq_true (hOwn entry hEntry).client
  change callsBy client (report.made ++ crowd.log) = _
  unfold callsBy at hMade ⊢
  rw [List.filter_append, hMade]

/- Nothing but the calls of the client is different. -/
theorem report_meanwhile :
    Meanwhile [client] [] crowd
      (crowd.report client conn statement).after := by
  have hWorked := crowd.report_worked client conn statement
  have hAges := fun index =>
    (Holder.resting 0 client conn).entries_ages .work index
      (Use.perform_careful statement.call).confined
      (Use.perform_ages statement.isStatement_call) crowd.db
      crowd.log
  refine ⟨?_, ?_, ?_, ?_⟩
  · intro index
    rcases hAges index with ⟨hPasses, hAnswers, hRests⟩
    exact ⟨hPasses, hAnswers, hRests⟩
  · intro id _ hDiscarded
    refine ⟨?_, ?_, hDiscarded.held⟩
    · exact Nat.le_trans hDiscarded.known
        (Nat.le_of_eq hWorked.apart.opened.symm)
    · intro other hIdle
      rw [Database.idle_congr hWorked.apart.pools] at hIdle
      exact hDiscarded.idle other hIdle
  · intro other hStranger
    exact ⟨hStranger.joined, hStranger.absent⟩
  · intro other hOther _
    refine callsBy_other hWorked.own ?_
    rintro rfl
    exact hOther List.mem_cons_self

end Reports

------------------------------------------------------------
-- Checkouts and Returns
------------------------------------------------------------

section Checkouts

variable {crowd : Crowd σ}
variable {part :
  Act σ (Except Waiter (Except Error Connection))}
variable {joined : Nat}

/- A part of a checkout takes nothing from others. -/
theorem checkout_meanwhile
    (hSupplies :
      Act.Supplies part crowd.db [] Waiter.handed)
    (hAges : Act.Ages part)
    (hJoined : crowd.joined ≤ joined) :
    Meanwhile [] [] crowd
      { crowd with
        db := (part.run crowd.db).2
        joined := joined } := by
  have hSupplied :
      crowd.db.Supplied (part.run crowd.db).2 []
        (Waiter.handed (part.run crowd.db).1) :=
    hSupplies
  refine ⟨?_, ?_, ?_, fun _ _ _ => rfl⟩
  · intro index
    exact .of_log_eq rfl (hAges index crowd.db)
  · intro id _ hDiscarded
    exact hDiscarded.exchanged hSupplied
      (List.forall_mem_nil _) hDiscarded.held
  · intro client hStranger
    exact hStranger.of_subset hJoined (List.Subset.refl _)

/- A connection that is handed out is clear. -/
theorem checkout_ready
    (joined : Nat)
    (hReady : crowd.Ready)
    (hSupplies :
      Act.Supplies part crowd.db [] Waiter.handed) :
    ({ crowd with
        db := (part.run crowd.db).2
        joined := joined } :
      Crowd σ).Ready ∧
      ∀ conn ∈ Waiter.handed (part.run crowd.db).1,
        conn.IsClear := by
  have hSupplied :
      crowd.db.Supplied (part.run crowd.db).2 []
        (Waiter.handed (part.run crowd.db).1) :=
    hSupplies
  have hClear :=
    hReady.supplied hSupplied (List.forall_mem_nil _)
  rw [List.forall_mem_append] at hClear
  exact ⟨⟨hClear.2, hReady.holders⟩, hClear.1⟩

variable {conn : Connection}

/- What is let go of is the only connection that changes. -/
theorem release_meanwhile
    (crowd : Crowd σ)
    (conn : Connection) :
    Meanwhile [] [conn.id] crowd
      { crowd with
        db := ((Act.release conn).run crowd.db).2 } := by
  refine ⟨?_, ?_, ?_, fun _ _ _ => rfl⟩
  · intro index
    exact .of_log_eq
      rfl (Act.release_ages conn index crowd.db)
  · intro id hOther hDiscarded
    refine hDiscarded.exchanged
      (Act.release_supplies conn crowd.db) ?_
        hDiscarded.held
    intro given hGiven hId
    have hSame : given = conn := by
      unfold Act.returned at hGiven
      split at hGiven
      · cases hGiven
      · exact List.mem_singleton.1 hGiven
    rw [hSame] at hId
    rw [hId] at hOther
    exact absurd List.mem_cons_self hOther
  · intro client hStranger
    exact hStranger.of_subset (Nat.le_refl _)
      (List.Subset.refl _)

/- What is let go of is clear. -/
theorem release_ready
    (hReady : crowd.Ready)
    (hPending : conn.pending = []) :
    ({ crowd with
        db := ((Act.release conn).run crowd.db).2 } :
      Crowd σ).Ready := by
  have hSupplied := Act.release_supplies conn crowd.db
  refine ⟨?_, hReady.holders⟩
  have hAfter := hReady.supplied hSupplied ?_
  · rw [List.forall_mem_append] at hAfter
    exact hAfter.2
  · intro given hGiven
    unfold Act.returned at hGiven
    split at hGiven
    · cases hGiven
    · next hAnswered =>
        rw [List.mem_singleton.1 hGiven]
        exact ⟨hPending, Bool.eq_false_iff.2 hAnswered⟩

/-
  A connection that is not relied on is discarded when the
  client who has it lets go of it.
-/
theorem release_discarded
    {holder : Holder}
    {limit : Nat}
    (hLawful : (crowd.beside [] [holder]).Lawful limit)
    (hHealthy : holder.conn.healthy = false) :
    Discarded holder.conn.id
      { crowd with
        db :=
          ((Act.release holder.conn).run crowd.db).2 } := by
  have hBalanced := hLawful.balanced
  have hFirst :
      (crowd.beside [] [holder]).holders[0]? =
        some holder :=
    rfl
  rcases others_apart hLawful.registered
      hBalanced.inOrder.distinct hFirst with
    ⟨hOthers, hIdle⟩
  have hHeld : Discarded holder.conn.id crowd := by
    refine ⟨?_, ?_, ?_⟩
    · apply hBalanced.id_le
      rw [ids_eq]
      exact List.mem_append_right _ List.mem_cons_self
    · intro conn hConn hId
      exact absurd hId.symm (hIdle conn hConn)
    · intro other hOther
      exact (hOthers other hOther).2.symm
  refine hHeld.exchanged
    (Act.release_supplies holder.conn crowd.db) ?_
      hHeld.held
  intro given hGiven _
  unfold Act.returned at hGiven
  split at hGiven
  · cases hGiven
  · rw [List.mem_singleton.1 hGiven, Connection.isUsable,
      hHealthy]
    rfl

end Checkouts

end Crowd

------------------------------------------------------------
-- Trails
------------------------------------------------------------

namespace Attempt

variable {statement : Session.Statement}
variable {attempt : Attempt σ} {crowd after : Crowd σ}

/-
  The place that was chosen for an attempt, and whether the
  primary may take its place.
-/
def chosen
    (statement : Session.Statement)
    (attempt : Attempt σ) : Target × Bool :=
  (statement.demand.choose.run attempt.asked.db).1

/-
  What an attempt leaves behind: it stays at the place that
  was chosen; the connection was clear; the calls that were
  made in it are noted, and no others in the name of its
  client; replicas have rested since; and what was let go of
  had no call that never ends, and is not handed out again
  if it was spoiled.
-/
structure Trail
    (statement : Session.Statement)
    (attempt : Attempt σ)
    (crowd : Crowd σ) : Prop where
  near :
    let chosen := attempt.chosen statement
    Waiter.StaysAt chosen.1 chosen.2 attempt.stage.standing
  clear : ∀ conn ∈ attempt.conn?, conn.IsClear
  stranger : Crowd.Stranger attempt.client crowd
  noted :
    Crowd.callsBy attempt.client crowd.log =
      attempt.made statement
  ages :
    ∀ report ∈ attempt.report? statement,
      ∀ index, Crowd.Ages index report.after crowd
  answered :
    ∀ report ∈ attempt.final? statement,
      report.used.unanswered = false
  gone :
    ∀ report ∈ attempt.final? statement,
      report.used.healthy = false →
        Crowd.Discarded report.used.id crowd

/- The numbers of the connections of an attempt. -/
def own (attempt : Attempt σ) : List Nat :=
  attempt.conn?.toList.map Connection.id

/-
  A connection that was used is the one that was handed out.
-/
theorem used_id_mem
    {report : Report σ statement}
    (hReport : report ∈ attempt.report? statement) :
    report.used.id ∈ attempt.own := by
  rcases attempt with ⟨number, asked, stage⟩
  cases stage with
  | performed conn before done =>
      cases hReport
      have hLink :=
        (before.report_worked ⟨number, .connection⟩ conn
          statement).link
      exact List.mem_singleton.2 (congrArg Link.id hLink)
  | _ => cases hReport

/- The final report of an attempt is its report. -/
theorem mem_report_of_final
    {report : Report σ statement}
    (hFinal : report ∈ attempt.final? statement) :
    report ∈ attempt.report? statement := by
  rcases attempt with ⟨number, asked, stage⟩
  cases stage with
  | performed conn before done =>
      cases done with
      | true => exact hFinal
      | false => cases hFinal
  | _ => cases hFinal

/-
  A connection leads to the chosen place or to the primary.
-/
theorem Trail.place
    (hTrail : attempt.Trail statement crowd)
    {conn : Connection}
    (hConn : conn ∈ attempt.conn?) :
    conn.target = (attempt.chosen statement).1 ∨
      (attempt.chosen statement).2 = true ∧
        conn.target = .primary := by
  have hNear := hTrail.near
  rcases attempt with ⟨number, asked, stage⟩
  cases stage with
  | holding given =>
      cases hConn
      exact hNear.2 conn List.mem_cons_self
  | performed given before done =>
      cases hConn
      exact hNear.2 conn List.mem_cons_self
  | _ => cases hConn

/- All calls are made on the connection. -/
theorem Trail.call
    (hTrail : attempt.Trail statement crowd)
    {entry : Crowd.Entry}
    (hEntry :
      entry ∈ Crowd.callsBy attempt.client crowd.log) :
    ∃ conn ∈ attempt.conn?,
      entry.id = conn.id ∧
        entry.target = conn.target := by
  rw [hTrail.noted] at hEntry
  rcases attempt with ⟨number, asked, stage⟩
  cases stage with
  | performed conn before done =>
      have hBy :=
        (before.report_worked ⟨number, .connection⟩ conn
          statement).own entry hEntry
      exact ⟨conn, rfl, hBy.id, hBy.target⟩
  | _ => cases hEntry

/- Whatever happens next, it stays true. -/
theorem Trail.meanwhile
    (hTrail : attempt.Trail statement crowd)
    {mine : List Crowd.Client}
    {own : List Nat}
    (hMeanwhile : Crowd.Meanwhile mine own crowd after)
    (hMine : attempt.client ∉ mine)
    (hOwn : ∀ id ∈ attempt.own, id ∉ own) :
    attempt.Trail statement after := by
  refine ⟨hTrail.near, hTrail.clear,
    hMeanwhile.strangers _ hTrail.stranger, ?_, ?_,
    hTrail.answered, ?_⟩
  · rw [hMeanwhile.silent _ hMine hTrail.stranger]
    exact hTrail.noted
  · intro report hReport index
    exact (hTrail.ages report hReport index).trans
      (hMeanwhile.ages index)
  · intro report hReport hHealthy
    exact hMeanwhile.discards _
      (hOwn _ (used_id_mem (mem_report_of_final hReport)))
      (hTrail.gone report hReport hHealthy)

------------------------------------------------------------
-- Steps
------------------------------------------------------------

section Steps

variable {limit : Nat}

/-
  What a step of an attempt makes of it and of the crowd: it
  leaves a trail, nothing is pending on what is idle, and
  the others are left alone.
-/
structure Stepped
    (statement : Session.Statement)
    (mine : List Crowd.Client)
    (own : List Nat)
    (crowd : Crowd σ)
    (outcome : Attempt σ × Crowd σ) : Prop where
  trail : outcome.1.Trail statement outcome.2
  ready : outcome.2.Ready
  others : Crowd.Meanwhile mine own crowd outcome.2

/- What others own besides does not matter for a step. -/
theorem Stepped.mono
    {mine more : List Crowd.Client}
    {own other : List Nat}
    {outcome : Attempt σ × Crowd σ}
    (hStepped : Stepped statement mine own crowd outcome)
    (hMine : mine ⊆ more)
    (hOwn : own ⊆ other) :
    Stepped statement more other crowd outcome :=
  ⟨hStepped.trail, hStepped.ready,
    hStepped.others.mono hMine hOwn⟩

/- What is handed out is what the checkout ended with. -/
theorem mem_handed_of_conn
    {number : Nat}
    {asked : Crowd σ}
    {answer : Except Waiter (Except Error Connection)}
    {conn : Connection}
    (hConn :
      conn ∈ (⟨number, asked, .ofAnswer answer⟩ :
        Attempt σ).conn?) :
    conn ∈ Waiter.handed answer := by
  cases answer with
  | error waiter => cases hConn
  | ok result =>
      cases result with
      | error e => cases hConn
      | ok given =>
          cases hConn
          exact List.mem_cons_self

/-
  Nothing was done yet where a checkout has just gone on.
-/
theorem trail_ofAnswer
    {number : Nat}
    {asked : Crowd σ}
    {answer : Except Waiter (Except Error Connection)}
    (hNear :
      let chosen := (statement.demand.choose.run asked.db).1
      Waiter.StaysAt chosen.1 chosen.2 answer)
    (hClear :
      ∀ conn ∈ Waiter.handed answer, conn.IsClear)
    (hStranger :
      Crowd.Stranger ⟨number, .connection⟩ crowd)
    (hSilent :
      Crowd.callsBy ⟨number, .connection⟩ crowd.log =
        []) :
    Trail statement ⟨number, asked, .ofAnswer answer⟩
      crowd := by
  have hReport :
      report? statement
          ⟨number, asked, .ofAnswer answer⟩ =
        none := by
    cases answer with
    | error waiter => rfl
    | ok result => cases result <;> rfl
  have hFinal :
      final? statement
          ⟨number, asked, .ofAnswer answer⟩ =
        none := by
    cases answer with
    | error waiter => rfl
    | ok result => cases result <;> rfl
  refine ⟨?_, ?_, hStranger, ?_, ?_, ?_, ?_⟩
  · simp only [Stage.standing_ofAnswer]
    exact hNear
  · intro conn hConn
    exact hClear conn (mem_handed_of_conn hConn)
  · rw [made, hReport]
    exact hSilent
  · rw [hReport]
    rintro _ ⟨⟩
  · rw [hFinal]
    rintro _ ⟨⟩
  · rw [hFinal]
    rintro _ ⟨⟩

/- An attempt begins with a trail. -/
theorem begin_stepped
    (hLawful : crowd.Lawful limit)
    (hReady : crowd.Ready) :
    Stepped statement [] [] crowd
      (begin statement crowd) := by
  have hSupplies :=
    Waiter.begin_supplies crowd.db statement.demand
  rcases Crowd.checkout_ready (crowd.joined + 1) hReady
      hSupplies with
    ⟨hNext, hClear⟩
  have hOutside :=
    (hLawful.registered.welcome .connection).2
  have hBalanced :
      crowd.db.Balanced limit (.none ++ crowd.share) :=
    hLawful.balanced
  refine ⟨trail_ofAnswer ?_ hClear ?_ ?_, hNext, ?_⟩
  · exact Waiter.begin_stays statement.demand hBalanced
  · exact ⟨hOutside.joined, hOutside.absent⟩
  · refine List.filter_eq_nil_iff.2 ?_
    intro entry hEntry
    simp [hOutside.silent entry hEntry]
  · exact Crowd.checkout_meanwhile hSupplies
      (Waiter.begin_ages statement.demand) (Nat.le_succ _)

/- A client who waits goes on with the checkout. -/
theorem seeking_stepped
    {number : Nat}
    {asked : Crowd σ}
    {waiter : Waiter}
    (hTrail :
      Trail statement ⟨number, asked, .seeking waiter⟩
        crowd)
    (hLawful :
      (whole statement ⟨number, asked, .seeking waiter⟩
        crowd).Lawful limit)
    (hReady : crowd.Ready)
    (inTime : Bool) :
    Stepped statement [] [] crowd
      (proceed statement inTime
        ⟨number, asked, .seeking waiter⟩ crowd) := by
  have hSupplies :=
    Waiter.proceed_supplies crowd.db waiter inTime
  have hOthers :=
    Crowd.checkout_meanwhile hSupplies
      (waiter.proceed_ages inTime) (Nat.le_refl _)
  rcases Crowd.checkout_ready crowd.joined hReady
      hSupplies with
    ⟨hNext, hClear⟩
  refine ⟨trail_ofAnswer ?_ hClear
    (hOthers.strangers _ hTrail.stranger) hTrail.noted,
      hNext,
    hOthers⟩
  have hProceed :=
    (waiter.proceed_accounts inTime crowd.share crowd.db
      hLawful.balanced).2
  exact hTrail.near.trans hProceed

/-
  A client who has a connection runs the statement on it.
-/
theorem holding_stepped
    {number : Nat}
    {asked : Crowd σ}
    {conn : Connection}
    (hTrail :
      Trail statement ⟨number, asked, .holding conn⟩
        crowd)
    (hReady : crowd.Ready)
    (inTime : Bool) :
    let attempt : Attempt σ :=
      ⟨number, asked, .holding conn⟩
    Stepped statement [attempt.client] [] crowd
      (proceed statement inTime attempt crowd) := by
  intro attempt
  have hOthers :=
    crowd.report_meanwhile attempt.client conn statement
  have hIdle :=
    Database.idle_congr
      (crowd.report_worked attempt.client conn
        statement).apart.pools
  have hCalls :=
    crowd.report_calls attempt.client conn statement
  refine ⟨⟨hTrail.near, hTrail.clear,
    hOthers.strangers _ hTrail.stranger, ?_, ?_, ?_, ?_⟩,
    ⟨?_, hReady.holders⟩, hOthers⟩
  · have hNone :
        Crowd.callsBy attempt.client crowd.log = [] :=
      hTrail.noted
    refine hCalls.trans ?_
    rw [hNone]
    exact List.append_nil _
  · rintro report ⟨⟩ index
    exact .refl _
  · rintro _ ⟨⟩
  · rintro _ ⟨⟩
  · intro other hOther
    apply hReady.idle
    rw [← hIdle]
    exact hOther

/- Nothing is pending on a connection after a statement. -/
theorem report_settled
    (crowd : Crowd σ)
    (client : Crowd.Client)
    (conn : Connection)
    (statement : Session.Statement) :
    (crowd.report client conn statement).used.pending =
      [] := by
  rcases Use.perform_yields statement.call conn
    crowd.db with
    ⟨-, -, -, -, hSettled⟩
  exact hSettled.pending

/- A client who has run the statement lets go. -/
theorem performed_stepped
    {number : Nat}
    {asked before : Crowd σ}
    {conn : Connection}
    (hTrail :
      Trail statement
        ⟨number, asked, .performed conn before false⟩
          crowd)
    (hLawful :
      (whole statement
        ⟨number, asked, .performed conn before false⟩
        crowd).Lawful limit)
    (hReady : crowd.Ready)
    (inTime : Bool) :
    let attempt : Attempt σ :=
      ⟨number, asked, .performed conn before false⟩
    Stepped statement [] attempt.own crowd
      (proceed statement inTime attempt crowd) := by
  intro attempt
  let report := before.report attempt.client conn statement
  cases hUsed : report.used.unanswered with
  | true =>
      rw [proceed_stuck rfl hUsed]
      exact ⟨hTrail, hReady, .refl crowd⟩
  | false =>
      have hOthers :
          Crowd.Meanwhile [] attempt.own crowd
            { crowd with
              db :=
                ((Act.release report.used).run crowd.db).2
                  } := by
        have hOwn : report.used.id ∈ attempt.own :=
          used_id_mem rfl
        have hId : report.used.id = conn.id :=
          List.mem_singleton.1 hOwn
        have hRelease := crowd.release_meanwhile report.used
        rw [hId] at hRelease
        exact hRelease
      rw [proceed_performed rfl hUsed]
      refine ⟨⟨hTrail.near, hTrail.clear,
        hOthers.strangers _ hTrail.stranger,
          hTrail.noted, ?_,
        ?_, ?_⟩, ?_, hOthers⟩
      · intro same hSame index
        exact (hTrail.ages same hSame index).trans
          (hOthers.ages index)
      · rintro _ ⟨⟩
        exact hUsed
      · rintro _ ⟨⟩ hHealthy
        exact Crowd.release_discarded hLawful hHealthy
      · exact Crowd.release_ready hReady
          (report_settled before attempt.client conn
            statement)

/- Every step leaves a trail. -/
theorem proceed_stepped
    (hTrail : attempt.Trail statement crowd)
    (hLawful : (attempt.whole statement crowd).Lawful limit)
    (hReady : crowd.Ready)
    (inTime : Bool) :
    Stepped statement [attempt.client] attempt.own crowd
      (attempt.proceed statement inTime crowd) := by
  rcases attempt with ⟨number, asked, stage⟩
  cases stage with
  | seeking waiter =>
      exact (seeking_stepped hTrail hLawful hReady
        inTime).mono (List.nil_subset _) (List.nil_subset _)
  | refused e => exact ⟨hTrail, hReady, .refl crowd⟩
  | holding conn =>
      exact (holding_stepped hTrail hReady inTime).mono
        (List.Subset.refl _) (List.nil_subset _)
  | performed conn before done =>
      cases done with
      | true => exact ⟨hTrail, hReady, .refl crowd⟩
      | false =>
          exact (performed_stepped hTrail hLawful hReady
            inTime).mono (List.nil_subset _)
              (List.Subset.refl _)

end Steps

end Attempt

end SqlAccess
