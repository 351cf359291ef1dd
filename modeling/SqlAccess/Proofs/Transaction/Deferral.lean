import SqlAccess.Proofs.Transaction.Progress
import SqlAccess.Proofs.Transaction.Verdict

/-
  This file says when the rollbacks that dropped scopes have
  deferred are missing: a failure of one of them loses all
  that are owed, and nothing else does.

  Key definitions include:
    * `Session.Ledger`
    * `Session.Ledger.note`
    * `Session.Ledger.of`
    * `Session.Ledger.Balanced`

  Key theorems include:
    * `Session.Run.balanced`
    * `Session.Course.pending_of_sent`
    * `Transaction.owed_eq_lost`
-/

namespace SqlAccess

namespace Session

------------------------------------------------------------
-- Ledgers
------------------------------------------------------------

/-
  The scopes whose rollback was deferred and has not been
  done since, and those of them whose rollback was lost.
-/
structure Ledger where
  owed : List String
  lost : List String
deriving DecidableEq, Repr

namespace Ledger

/- A text that was run is owed by nobody any more. -/
def settle (ledger : Ledger) (sql : String) : Ledger :=
  ⟨ledger.owed.filter (Scope.undoSql · ≠ sql),
    ledger.lost.filter (Scope.undoSql · ≠ sql)⟩

/-
  Take an item down.  A scope that is dropped owes its
  rollback.  If a rollback that is owed fails, all that are
  owed are lost.
-/
def note (ledger : Ledger) : Item → Ledger
  | .called _ (.batch sql) fate =>
      if fate = .done then ledger.settle sql
      else if ledger.owed.any (Scope.undoSql · = sql) then
        { ledger with lost := ledger.owed }
      else ledger
  | .ended name (.drop _) _ =>
      { ledger with owed := ledger.owed ++ [name] }
  | _ => ledger

/- What is owed and lost after a timeline. -/
def of (items : List Item) : Ledger :=
  items.foldl note ⟨[], []⟩

/- All that is owed was lost, or is still pending. -/
def Balanced
    (ledger : Ledger)
    (pending : List String) : Prop :=
  ledger.owed = ledger.lost ++ pending

section Balanced

variable {ledger : Ledger}

/-
  A call other than a rollback that is pending keeps this.
-/
theorem Balanced.called
    (hBalanced : ledger.Balanced [])
    (number : Nat)
    (call : Call)
    (fate : Fate) :
    (ledger.note (.called number call fate)).Balanced
      [] := by
  rw [Balanced, List.append_nil] at hBalanced ⊢
  cases call with
  | batch sql =>
      simp only [note]
      split
      · simp only [settle, hBalanced]
      · split
        · rfl
        · exact hBalanced
  | _ => exact hBalanced

/- A rollback that is done is pending no more. -/
theorem Balanced.flushed
    {name : String}
    {pending : List String}
    (hBalanced : ledger.Balanced (name :: pending))
    (hApart :
      ∀ other ∈ pending,
        Scope.undoSql other ≠ Scope.undoSql name)
    (number : Nat) :
    (ledger.note
      (.called number (.batch (Scope.undoSql name)) .done)
      ).Balanced pending := by
  have hPending :
      pending.filter
          (Scope.undoSql · ≠ Scope.undoSql name) =
        pending := by
    rw [List.filter_eq_self]
    intro other hOther
    simpa using hApart other hOther
  rw [Balanced] at hBalanced ⊢
  simp only [note, if_true, settle, hBalanced,
    List.filter_append, List.filter_cons, hPending]
  simp

/- A rollback that fails loses all that are owed. -/
theorem Balanced.lost
    {name : String}
    {pending : List String}
    {fate : Fate}
    (hBalanced : ledger.Balanced (name :: pending))
    (hFate : fate ≠ .done)
    (number : Nat) :
    (ledger.note
      (.called number (.batch (Scope.undoSql name)) fate)
      ).Balanced [] := by
  have hOwed :
      ledger.owed.any
          (Scope.undoSql · = Scope.undoSql name) =
            true := by
    rw [Balanced] at hBalanced
    simp [hBalanced]
  simp only [note, hFate, if_false, hOwed, if_true]
  exact (List.append_nil _).symm

end Balanced

end Ledger

------------------------------------------------------------
-- Courses
------------------------------------------------------------

/-
  Names are told apart by the texts that undo their scopes.
-/
theorem undoSql_ne
    {name other : String}
    (hName : ';' ∉ name.toList)
    (hOther : ';' ∉ other.toList)
    (hNe : other ≠ name) :
    Scope.undoSql other ≠ Scope.undoSql name := by
  intro hSame
  have hCommands := Command.ofText?_undoSql hOther
  rw [hSame, Command.ofText?_undoSql hName] at hCommands
  simp at hCommands
  exact hNe hCommands.symm

section Courses

variable {allowed : Call → Prop} {first last : Standing}
variable {items : List Item} {ledger : Ledger}

/- A step keeps the account of deferred rollbacks. -/
theorem Step.balanced
    (hStep : Step allowed first items last)
    (hSound : first.Sound)
    (hBalanced : ledger.Balanced first.pending) :
    (items.foldl Ledger.note ledger).Balanced
      last.pending := by
  cases hStep with
  | @flushed _ name pending _ _ number =>
      refine Ledger.Balanced.flushed hBalanced ?_ number
      intro other hOther
      have hNames := List.nodup_cons.mp hSound.distinct
      apply undoSql_ne (hSound.semicolon_notMem (.head _))
      · exact hSound.semicolon_notMem
          (List.mem_append_left _ (.tail _ hOther))
      · rintro rfl
        exact hNames.1 (List.mem_append_left _ hOther)
  | @lost _ _ _ _ _ number _ hFate =>
      exact hBalanced.lost hFate number
  | ran hAllowed => exact hBalanced.called _ _ _
  | cancelled => exact hBalanced
  | @refused _ _ _ number sql fate hRisky hFate =>
      exact hBalanced.called number (.batch sql) fate
  | @began _ _ _ number savepoint hFresh =>
      let name := savepointName savepoint
      exact hBalanced.called number
        (.batch (Scope.savepointSql name)) .done
  | @released name _ _ _ number =>
      exact hBalanced.called number
        (.batch (Scope.releaseSql name)) .done
  | @undone name _ _ _ number =>
      exact hBalanced.called number
        (.batch (Scope.undoSql name)) .done
  | broken hEnding =>
      rename_i ending
      cases ending with
      | drop idle => cases hEnding
      | _ => exact hBalanced
  | dropped =>
      rw [Ledger.Balanced] at hBalanced ⊢
      simp [Ledger.note, hBalanced]

/- What is owed after a run was lost or is pending. -/
theorem Run.balanced
    (hRun : Run allowed first items last)
    (hSound : first.Sound)
    (hBalanced : ledger.Balanced first.pending) :
    (items.foldl Ledger.note ledger).Balanced
      last.pending := by
  induction hRun generalizing ledger with
  | nil => exact hBalanced
  | cons hStep hRun ih =>
      rw [List.foldl_append]
      exact ih (hStep.sound hSound)
        (hStep.balanced hSound hBalanced)

/-
  A statement that is sent, other than the rollback of the
  transaction or one that is owed, finds nothing pending.
-/
theorem Course.pending_of_sent
    {before after : List Item}
    {number : Nat}
    {call : Call}
    {fate : Fate}
    (hCourse : Course allowed .fresh items)
    (hItems :
      items = before ++ .called number call fate :: after)
    (hSent : call.isStatement = true)
    (hNotRollback : call ≠ .batch "ROLLBACK")
    (hNotOwed :
      ∀ name ∈ (Ledger.of before).owed,
        call ≠ .batch (Scope.undoSql name)) :
    ∃ middle,
      Run allowed .fresh before middle ∧
        middle.pending = [] := by
  rcases hCourse.split hItems with
    ⟨middle, next, more, later, -, hBefore, hStep, -⟩ |
      ⟨middle, hBefore, -, hPending⟩ | hRollback | rfl
  · refine ⟨middle, hBefore, ?_⟩
    have hBalanced :
        (Ledger.of before).Balanced middle.pending :=
      hBefore.balanced Standing.fresh_sound rfl
    cases hStep with
    | flushed | lost =>
        refine absurd rfl (hNotOwed _ ?_)
        rw [hBalanced]
        exact List.mem_append_right _ (.head _)
    | cancelled => cases hSent
    | _ => rfl
  · exact ⟨middle, hBefore, hPending⟩
  · exact absurd hRollback hNotRollback
  · cases hSent

end Courses

end Session

namespace Transaction

open Session

variable {σ : Type}

/-
  When a statement is sent, other than the rollback of the
  transaction or one that is owed, the deferred rollbacks
  that have not been done are just those that were lost by a
  failure.
-/
theorem owed_eq_lost
    {transaction : Transaction}
    {db begun : Database σ}
    {moves : List Move}
    {before after : List Item}
    {number : Nat}
    {call : Call}
    {fate : Fate}
    (hBegin :
      Transaction.begin.run db = (.ok transaction, begun))
    (hItems :
      transaction.timeline moves begun =
        before ++ .called number call fate :: after)
    (hSent : call.isStatement = true)
    (hNotRollback : call ≠ .batch "ROLLBACK")
    (hNotOwed :
      ∀ name ∈ (Ledger.of before).owed,
        call ≠ .batch (Scope.undoSql name)) :
    (Ledger.of before).owed = (Ledger.of before).lost := by
  have hCourse :
      Course (fun _ => True) .fresh
        (transaction.timeline moves begun) :=
    timeline_course hBegin moves fun _ _ => trivial
  rcases hCourse.pending_of_sent hItems hSent hNotRollback
      hNotOwed with ⟨middle, hBefore, hPending⟩
  have hBalanced :
      (Ledger.of before).Balanced middle.pending :=
    hBefore.balanced Standing.fresh_sound rfl
  rw [Ledger.Balanced, hPending, List.append_nil]
    at hBalanced
  exact hBalanced

/- A scope is dropped, and two statements follow. -/
def droppingMoves : List Move :=
  [.begin, .run (.batch "a"), .finish (.drop false),
    .run (.batch "b"), .run (.batch "c")]

/- Nothing is missing when the rollback succeeds. -/
theorem owed_eq_lost_sample :
    let name := savepointName 1
    let before : List Item :=
      [.called 3 (.batch (Scope.savepointSql name)) .done,
        .begun name,
        .called 4 (.batch "a") .done,
        .ended name (.drop false) true,
        .called 5 (.batch (Scope.undoSql name)) .done]
    (Ledger.of before).owed = (Ledger.of before).lost := by
  intro name before
  have hBegin :
      Transaction.begin.run (sampleDatabase []) =
        (.ok sample, sampleBegun []) :=
    rfl
  have hItems :
      sample.timeline droppingMoves (sampleBegun []) =
        before ++
          [.called 6 (.batch "b") .done,
            .called 7 (.batch "c") .done] :=
    rfl
  have hOwed : (Ledger.of before).owed = [] := by
    decide +kernel
  apply owed_eq_lost hBegin hItems rfl
  · simp
  · simp [hOwed]

/-
  When the rollback fails, the statement "b" is not sent,
  but "c" is, and the rollback is still owed.
-/
theorem owed_after_failure :
    ¬ ∀ (transaction : Transaction)
        (db begun : Database Nat)
        (moves : List Move)
        (before after : List Item)
        (number : Nat)
        (call : Call)
        (fate : Fate),
      Transaction.begin.run db =
        (.ok transaction, begun) →
      transaction.timeline moves begun =
        before ++ .called number call fate :: after →
      call.isStatement = true →
      call ≠ .batch "ROLLBACK" →
      (∀ name ∈ (Ledger.of before).owed,
        call ≠ .batch (Scope.undoSql name)) →
      (Ledger.of before).owed = [] := by
  intro hClaim
  let name := savepointName 1
  let before : List Item :=
    [.called 3 (.batch (Scope.savepointSql name)) .done,
      .begun name,
      .called 4 (.batch "a") .done,
      .ended name (.drop false) true,
      .called 5 (.batch (Scope.undoSql name))
        (.failed (.query "" "no"))]
  have hBegin :
      Transaction.begin.run (sampleDatabase [3]) =
        (.ok sample, sampleBegun [3]) :=
    rfl
  have hItems :
      sample.timeline droppingMoves (sampleBegun [3]) =
        before ++ .called 6 (.batch "c") .done :: [] :=
    rfl
  have hOwed : (Ledger.of before).owed = [name] := by
    decide +kernel
  have hNotOwed :
      ∀ name ∈ (Ledger.of before).owed,
        Call.batch "c" ≠ .batch (Scope.undoSql name) := by
    intro other hOther
    rw [hOwed, List.mem_singleton] at hOther
    subst hOther
    rw [ne_eq, Call.batch.injEq]
    decide +kernel
  have hNone :=
    hClaim sample _ _ _ before [] 6
      (.batch "c") .done hBegin
      hItems rfl (by simp) hNotOwed
  rw [hOwed] at hNone
  cases hNone

end Transaction

end SqlAccess
