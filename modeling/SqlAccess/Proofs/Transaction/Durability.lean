import SqlAccess.Proofs.Transaction.Progress
import SqlAccess.Proofs.Transaction.Replay

/-
  This file says which work of a transaction is durable, and
  which work its statements see, by how its scopes ended.

  Key theorems include:
    * `Transaction.work_follows_scopes`
    * `Transaction.durable_iff_of_broken`
-/

namespace SqlAccess

namespace Session

------------------------------------------------------------
-- Work by the Ends of Scopes
------------------------------------------------------------

section Ends

variable {allowed : Call → Prop} {first last : Standing}
variable {items : List Item}

/-
  Two ways to tell from its marks whether a scope is kept
  are the same if they agree on the verdicts at the end of a
  run.
-/
theorem Run.retained_congr
    {kept other : Marks → Bool}
    (hOrdinary :
      ∀ call, allowed call → call.isOrdinary = true)
    (hRun : Run allowed first items last)
    (hSound : first.Sound)
    (hSame :
      ∀ name told, Verdict last name told →
        kept told = other told) :
    retained (fun name rest => kept (marks name rest))
        first.scopes items =
      retained (fun name rest => other (marks name rest))
        first.scopes items := by
  apply Session.retained_congr
  intro before item rest hItems hWork name hName
  cases item with
  | called number call fate =>
      have hCall : call.isOrdinary = true := by
        cases fate <;> simp [Item.work?] at hWork
        exact hWork
      rcases hRun.split hItems with
        ⟨middle, next, more, later, rfl, hBefore, hStep,
          hLater⟩
      have hMiddle := hBefore.sound hSound
      rcases hStep.ordinary hMiddle hCall with
        ⟨-, rfl, rfl⟩
      rw [hBefore.enclosing] at hName
      apply hSame name
      exact hLater.verdict hOrdinary hMiddle hName
  | begun name => cases hWork
  | ended name ending ok => cases hWork
  | closed ending ok => cases hWork

/-
  Before a commit of the whole transaction every scope was
  committed or undone.
-/
theorem Course.retained_committed
    (hOrdinary :
      ∀ call, allowed call → call.isOrdinary = true)
    (hCourse : Course allowed .fresh items)
    (hControlled : Controlled items)
    (hCommitted : rootCommitted items = true) :
    retained (fun name rest => !(marks name rest).undone)
        [] items =
      retained
        (fun name rest => (marks name rest).committed)
        [] items := by
  cases hCourse with
  | running hRun =>
      simp [hRun.not_rootCommitted] at hCommitted
  | @ended body last closing hRun hClosing =>
      have hSound := Standing.fresh_sound
      have hFailed :=
        hRun.controlled hSound
          (controlled_append.mp hControlled).1 rfl
      have hClosingCommitted :
          rootCommitted closing = true := by
        have hBody := hRun.not_rootCommitted
        rw [rootCommitted] at hBody hCommitted
        rw [List.any_append, hBody] at hCommitted
        exact hCommitted
      rcases hClosing.of_rootCommitted
        hClosingCommitted with
        ⟨hScopes, hPending, -⟩
      have hSame :
          ∀ name told, Verdict last name told →
            (!told.undone) = told.committed := by
        intro name told hVerdict
        cases hVerdict with
        | running hOpen => simp [hScopes] at hOpen
        | dropped hMem => simp [hPending] at hMem
        | lost _ hBroken => simp [hFailed] at hBroken
        | broken _ hBroken => simp [hFailed] at hBroken
        | _ => rfl
      simp only [retained_append, marks_append,
        hClosing.marks, Marks.or_none,
        retained_eq_nil hClosing.work?, List.append_nil]
      exact hRun.retained_congr hOrdinary hSound hSame

/-
  While nothing is pending, the work that can be seen is
  that of the scopes that were not abandoned.
-/
theorem Run.visible
    (hOrdinary :
      ∀ call, allowed call → call.isOrdinary = true)
    (hRun : Run allowed .fresh items last)
    (hControlled : Controlled items)
    (hPending : last.pending = []) :
    (Server.begun.replay items).visible =
      retained
        (fun name rest => !(marks name rest).abandoned)
        [] items := by
  have hSound := Standing.fresh_sound
  have hFailed := hRun.controlled hSound hControlled rfl
  have hSame :
      ∀ name told, Verdict last name told →
        (!told.undone) = !told.abandoned := by
    intro name told hVerdict
    cases hVerdict with
    | dropped hMem => simp [hPending] at hMem
    | lost _ hBroken => simp [hFailed] at hBroken
    | _ => rfl
  have hRetained :=
    hRun.retained_congr hOrdinary hSound hSame
  rcases hRun.replays hOrdinary Fits.fresh with
    ⟨final, hReplay, -, hSurviving⟩
  have hNone := hSurviving (fun _ => false) (by simp)
  rw [Log.surviving_eq_works (by simp)] at hNone
  simp only [Standing.fresh] at hRetained
  simpa [Server.begun, hReplay, Server.visible,
    Standing.fresh, hRetained] using hNone

end Ends

------------------------------------------------------------
-- Work by its Number
------------------------------------------------------------

/- Work that is retained has the number of a call. -/
theorem number_mem_of_retained
    {kept : String → List Item → Bool}
    {scopes : List String}
    {items : List Item}
    {work : Work}
    (hWork : work ∈ retained kept scopes items) :
    work.number ∈ numbers items := by
  induction items generalizing scopes with
  | nil => cases hWork
  | cons item items ih =>
      have hItem :
          work ∈ item.work?.toList ∨
            work ∈
              retained kept (item.enclose scopes) items :=
        by
          rw [retained] at hWork
          split at hWork
          · exact List.mem_append.mp hWork
          · exact .inr hWork
      rw [← List.singleton_append, numbers_append,
        List.mem_append]
      rcases hItem with hHere | hLater
      · left
        cases item with
        | called number call fate =>
            cases fate with
            | done =>
                by_cases hCall : call.isOrdinary <;>
                  simp [Item.work?, hCall] at hHere
                simp [hHere, numbers]
            | _ => cases hHere
        | _ => cases hHere
      · exact .inr (ih hLater)

/-
  Whether the work of a statement is retained depends on the
  scopes around it, as its number is its own.
-/
theorem mem_retained_iff
    {kept : String → List Item → Bool}
    {before after : List Item}
    {number : Nat}
    {call : Call}
    {fate : Fate}
    (hCall : call.isOrdinary = true)
    (hNumbers :
      (numbers (before ++ .called number call fate :: after)
        ).Pairwise (· < ·)) :
    ⟨number, call⟩ ∈
        retained kept []
          (before ++ .called number call fate :: after) ↔
      fate = .done ∧
        ∀ name ∈ enclosing [] before,
          kept name after = true := by
  have hSplit :
      numbers
          (before ++ .called number call fate :: after) =
        numbers before ++ number :: numbers after := by
    rw [numbers_append]
    rfl
  rw [hSplit, List.pairwise_append] at hNumbers
  rcases hNumbers with ⟨-, hRest, hApart⟩
  have hBefore :
      ∀ kept scopes,
        ⟨number, call⟩ ∉
          retained kept scopes before := by
    intro kept scopes hWork
    have hMem := number_mem_of_retained hWork
    have := hApart number hMem number (.head _)
    omega
  have hAfter :
      ∀ scopes,
        ⟨number, call⟩ ∉
          retained kept scopes after := by
    intro scopes hWork
    have hMem := number_mem_of_retained hWork
    have := (List.pairwise_cons.mp hRest).1 number hMem
    omega
  have hHere :
      (⟨number, call⟩ : Work) ∈
          (Item.called number call fate).work?.toList ↔
        fate = .done := by
    cases fate <;> simp [Item.work?, hCall]
  rw [retained_append, List.mem_append, retained]
  simp only [hBefore, false_or]
  split
  · next hKept =>
      rw [List.all_eq_true] at hKept
      simp only [List.mem_append, hHere, hAfter, or_false]
      exact ⟨fun hDone => ⟨hDone, hKept⟩, And.left⟩
  · next hLost =>
      rw [List.all_eq_true] at hLost
      simp only [hAfter, false_iff]
      exact fun hKept => hLost hKept.2

------------------------------------------------------------
-- Ordinary Statements
------------------------------------------------------------

/- A client may run what is not about the transaction. -/
def Ordinary (call : Call) : Prop :=
  call.isOrdinary = true

/-
  Whether a move runs no statement about the transaction.
-/
def Move.isOrdinary : Move → Bool
  | .run statement => statement.call.isOrdinary
  | _ => true

/- Moves that are ordinary run ordinary statements. -/
theorem ordinary_of_all
    {moves : List Move}
    (hMoves : moves.all Move.isOrdinary = true) :
    ∀ statement, .run statement ∈ moves →
      statement.call.isOrdinary = true := by
  intro statement hMem
  exact List.all_eq_true.mp hMoves (.run statement) hMem

end Session

namespace Transaction

open Session

variable {σ : Type}

/- The calls of a timeline are numbered in their order. -/
theorem timeline_numbers
    {transaction : Transaction}
    {db begun : Database σ}
    (hBegin :
      Transaction.begin.run db = (.ok transaction, begun))
    (moves : List Move) :
    (numbers (transaction.timeline moves begun)).Pairwise
      (· < ·) := by
  rcases begin_ok hBegin with ⟨hScope, hPending, -⟩
  have hStands : Stands ⟨transaction, []⟩ .fresh :=
    ⟨hScope, rfl, hPending, Nat.zero_le _⟩
  rcases play_growing hStands moves begun with
    ⟨stop, -, hSorted, -⟩
  exact hSorted

/-
  Nested scopes mean what they say.  After a commit of the
  whole transaction, what succeeded in scopes that were all
  committed is durable, in order; otherwise nothing is.  A
  statement sees what succeeded before it in scopes that
  were not rolled back or dropped before it.
-/
theorem work_follows_scopes
    {transaction : Transaction}
    {db begun : Database σ}
    {moves : List Move}
    {items : List Item}
    (hBegin :
      Transaction.begin.run db = (.ok transaction, begun))
    (hItems : transaction.timeline moves begun = items)
    (hOrdinary :
      ∀ statement, .run statement ∈ moves →
        statement.call.isOrdinary = true)
    (hControlled : Controlled items) :
    begun.history.findSome?
        (Event.callOn? transaction.conn.link.id) =
      some (.batch "BEGIN", .done) ∧
    (Server.begun.replay items).durable =
      (if rootCommitted items then
        retained
          (fun name rest => (marks name rest).committed)
          [] items
      else []) ∧
    ∀ before number call fate after,
      items =
        before ++ .called number call fate :: after →
        call.isOrdinary = true →
          (Server.begun.replay before).visible =
            retained
              (fun name rest =>
                !(marks name rest).abandoned)
              [] before := by
  have hCourse : Course Ordinary .fresh items := by
    rw [← hItems]
    exact timeline_course hBegin moves hOrdinary
  have hAllowed :
      ∀ call, Ordinary call → call.isOrdinary = true :=
    fun _ hCall => hCall
  refine ⟨(begin_ok hBegin).2.2, ?_, ?_⟩
  · rw [hCourse.durable hAllowed]
    split
    · next hCommitted =>
        exact hCourse.retained_committed hAllowed
          hControlled hCommitted
    · rfl
  · intro before number call fate after hSplit hCall
    rcases hCourse.split_ordinary hSplit
      Standing.fresh_sound
        hCall with ⟨middle, hBefore, hPending, -⟩
    rw [hSplit] at hControlled
    exact hBefore.visible hAllowed
      (controlled_append.mp hControlled).1 hPending

/- One scope is dropped and another one is committed. -/
def nestingMoves : List Move :=
  [.run (.batch "a"), .begin, .run (.batch "b"),
    .finish (.drop false), .run (.batch "c"), .begin,
    .run (.batch "d"), .finish .commit, .finish .commit]

/-
  Of two nested scopes, the work of the committed one lasts
  and that of the other is undone.
-/
theorem work_follows_scopes_sample :
    let items :=
      sample.timeline nestingMoves (sampleBegun [])
    (Server.begun.replay items).durable =
        retained
          (fun name rest => (marks name rest).committed)
          [] items ∧
      (Server.begun.replay items).durable.map Work.number =
        [3, 7, 9] := by
  have hBegin :
      Transaction.begin.run (sampleDatabase []) =
        (.ok sample, sampleBegun []) :=
    rfl
  have hOrdinary :
      ∀ statement, .run statement ∈ nestingMoves →
        statement.call.isOrdinary = true :=
    ordinary_of_all (by decide)
  have hControlled :
      Controlled
        (sample.timeline nestingMoves
          (sampleBegun [])) := by
    decide +kernel
  have hCommitted :
      rootCommitted
        (sample.timeline nestingMoves (sampleBegun [])) =
          true := by
    decide +kernel
  have hDurable :=
    (work_follows_scopes hBegin rfl hOrdinary
      hControlled).2.1
  rw [if_pos hCommitted] at hDurable
  refine ⟨hDurable, ?_⟩
  decide +kernel

/-
  A scope whose end failed is never undone: it is open where
  the statement is, and told broken afterwards.  The work of
  a statement in it is durable as soon as the whole
  transaction is committed, unless another scope around it
  was undone.
-/
theorem durable_iff_of_broken
    {transaction : Transaction}
    {db begun : Database σ}
    {moves : List Move}
    {before after : List Item}
    {name : String}
    {ending : Ending}
    {number : Nat}
    {call : Call}
    {fate : Fate}
    (hBegin :
      Transaction.begin.run db = (.ok transaction, begun))
    (hOrdinary :
      ∀ statement, .run statement ∈ moves →
        statement.call.isOrdinary = true)
    (hItems :
      transaction.timeline moves begun =
        before ++ .called number call fate :: after)
    (hCall : call.isOrdinary = true)
    (hInside : name ∈ enclosing [] before)
    (hBroken : .ended name ending false ∈ after) :
    let items := transaction.timeline moves begun
    ⟨number, call⟩ ∈
        (Server.begun.replay items).durable ↔
      rootCommitted items = true ∧ fate = .done ∧
        ∀ other ∈ enclosing [] before,
          other ≠ name →
          (marks other after).undone = false := by
  have hCourse :
      Course Ordinary .fresh
        (transaction.timeline moves begun) :=
    timeline_course hBegin moves hOrdinary
  have hAllowed :
      ∀ call, Ordinary call → call.isOrdinary = true :=
    fun _ hCall => hCall
  rcases hCourse.split_ordinary hItems Standing.fresh_sound
      hCall with ⟨middle, hBefore, -, hAfter⟩
  have hUndone : (marks name after).undone = false := by
    have hOpen : name ∈ middle.scopes := by
      rw [← hBefore.enclosing]
      exact hInside
    have hSound := hBefore.sound Standing.fresh_sound
    rcases hAfter.verdict hAllowed hSound hOpen with
      ⟨last, hVerdict⟩
    have hTold : (marks name after).broken = true := by
      rw [marks, List.any_eq_true]
      refine ⟨_, hBroken, ?_⟩
      simp [Item.breaks]
    generalize marks name after = told at hVerdict hTold ⊢
    cases hVerdict with
    | broken => rfl
    | _ => cases hTold
  have hNumbers := timeline_numbers hBegin moves
  simp only [hCourse.durable hAllowed]
  rw [hItems] at hNumbers ⊢
  split
  · next hCommitted =>
      rw [mem_retained_iff hCall hNumbers]
      simp only [hCommitted, true_and, Bool.not_eq_true']
      constructor
      · rintro ⟨hDone, hKept⟩
        exact ⟨hDone, fun other hOther _ =>
          hKept other hOther⟩
      · rintro ⟨hDone, hKept⟩
        refine ⟨hDone, fun other hOther => ?_⟩
        by_cases hName : other = name
        · rw [hName]
          exact hUndone
        · exact hKept other hOther hName
  · next hNot =>
      simp [hNot]

/-
  A scope with a statement is committed, and so is the rest.
-/
def committingMoves : List Move :=
  [.begin, .run (.batch "a"), .finish .commit,
    .finish .commit]

section BrokenSample

/- What is shown before the statement. -/
def brokenBefore : List Item :=
  [.called 3
      (.batch (Scope.savepointSql (savepointName 1))) .done,
    .begun (savepointName 1)]

/- What is shown after it if the release fails. -/
def brokenAfter : List Item :=
  [.called 5
      (.batch (Scope.releaseSql (savepointName 1)))
      (.failed (.query "" "no")),
    .ended (savepointName 1) .commit false,
    .called 6 (.batch "COMMIT") .done,
    .closed .commit true]

/-
  The release of a scope fails, and the transaction is
  committed.
-/
theorem broken_timeline :
    sample.timeline committingMoves (sampleBegun [3]) =
      brokenBefore ++ .called 4 (.batch "a") .done ::
        brokenAfter :=
  rfl

/- The moves of that run are ordinary. -/
theorem committingMoves_isOrdinary :
    ∀ statement, .run statement ∈ committingMoves →
      statement.call.isOrdinary = true :=
  ordinary_of_all (by decide)

/- The work of the scope whose release failed is durable. -/
theorem durable_iff_of_broken_sample :
    ⟨4, .batch "a"⟩ ∈
      (Server.begun.replay
        (sample.timeline committingMoves (sampleBegun [3]))
        ).durable := by
  have hBegin :
      Transaction.begin.run (sampleDatabase [3]) =
        (.ok sample, sampleBegun [3]) :=
    rfl
  have hBroken :
      .ended (savepointName 1) .commit false ∈
        brokenAfter := by
    simp [brokenAfter]
  apply (durable_iff_of_broken hBegin
    committingMoves_isOrdinary broken_timeline (by decide)
    (.head _) hBroken).mpr
  refine ⟨by decide +kernel, rfl, ?_⟩
  intro other hOther hName
  exact absurd (List.mem_singleton.mp hOther) hName

/-
  The end of a scope fails, the whole transaction is
  committed all the same, and the work of the scope is
  durable.
-/
theorem durable_after_failed_end :
    ¬ ∀ (transaction : Transaction)
        (db begun : Database Nat)
        (moves : List Move)
        (before after : List Item)
        (name : String)
        (ending : Ending)
        (number : Nat)
        (call : Call)
        (fate : Fate),
      Transaction.begin.run db =
        (.ok transaction, begun) →
      (∀ statement, .run statement ∈ moves →
        statement.call.isOrdinary = true) →
      transaction.timeline moves begun =
        before ++ .called number call fate :: after →
      call.isOrdinary = true →
      name ∈ enclosing [] before →
      .ended name ending false ∈ after →
      ⟨number, call⟩ ∉
        (Server.begun.replay
          (transaction.timeline moves begun)).durable := by
  intro hClaim
  have hBegin :
      Transaction.begin.run (sampleDatabase [3]) =
        (.ok sample, sampleBegun [3]) :=
    rfl
  have hBroken :
      .ended (savepointName 1) .commit false ∈
        brokenAfter := by
    simp [brokenAfter]
  have hLost :=
    hClaim sample _ _ _ brokenBefore brokenAfter
      (savepointName 1) .commit 4 (.batch "a") .done hBegin
      committingMoves_isOrdinary broken_timeline (by decide)
      (.head _) hBroken
  have hText := semicolon_notMem_savepointName 1
  have hCall :
      (Call.batch "a").isOrdinary = true := by decide
  have hBegun :
      Server.begun.replay brokenBefore =
        ⟨[], some [.savepoint (savepointName 1)]⟩ :=
    Server.hear_savepoint hText 3 [] []
  have hAfter (log : Log) :
      Server.replay ⟨[], some log⟩ brokenAfter =
        ⟨log.works, none⟩ := by
    simp [Server.replay, brokenAfter, Server.hear,
      Server.answer, Server.obey, Server.visible]
  rw [broken_timeline, Server.replay_append, hBegun,
    Server.replay, List.foldl_cons,
    Server.hear_ordinary hCall] at hLost
  have hReplay :=
    hAfter
      [.work ⟨4, .batch "a"⟩,
        .savepoint (savepointName 1)]
  rw [Server.replay] at hReplay
  rw [hReplay] at hLost
  exact hLost (.head _)

end BrokenSample

end Transaction

end SqlAccess
