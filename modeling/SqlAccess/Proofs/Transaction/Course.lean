import SqlAccess.Proofs.Transaction.Scope

/-
  This file gives the course of a transaction as a relation:
  what the timeline can show next, given the scopes that are
  open and the rollbacks that are pending.

  Key definitions include:
    * `Session.Standing`
    * `Session.Step`
    * `Session.Run`
    * `Session.Closing`
    * `Session.Course`

  Key theorems include:
    * `Session.Run.split`
    * `Session.Course.split`
    * `Session.flushed_run`
    * `Session.stuck_run`
    * `Session.performed_run`
    * `Session.risky_run`
-/

namespace SqlAccess

namespace Session

------------------------------------------------------------
-- Standings
------------------------------------------------------------

/-
  Where a transaction stands: its open nested scopes, the
  innermost first; the scopes whose rollback is pending, in
  the order of the rollbacks; a bound on the numbers of its
  savepoints; and whether a statement of the library failed.
-/
structure Standing where
  scopes : List String
  pending : List String
  used : Nat
  failed : Bool

/- A transaction that has just begun. -/
def Standing.fresh : Standing := ⟨[], [], 0, false⟩

/- The texts of the library that may fail in a standing. -/
inductive Risky (used : Nat) :
    List String → String → Prop
  | savepoint {scopes number}
      (hFresh : used < number) :
      Risky used scopes
        (Scope.savepointSql (savepointName number))
  | release {name scopes} :
      Risky used (name :: scopes) (Scope.releaseSql name)
  | undo {name scopes} :
      Risky used (name :: scopes) (Scope.undoSql name)
  | commit : Risky used [] "COMMIT"

/-
  What a timeline shows next.  Statements of the client are
  those that are allowed.
-/
inductive Step (allowed : Call → Prop) :
    Standing → List Item → Standing → Prop
  | flushed {scopes name pending used failed number} :
      Step allowed
        ⟨scopes, name :: pending, used, failed⟩
        [.called number (.batch (Scope.undoSql name)) .done]
        ⟨scopes, pending, used, failed⟩
  | lost {scopes name pending used failed number fate}
      (hFate : fate ≠ .done) :
      Step allowed
        ⟨scopes, name :: pending, used, failed⟩
        [.called number (.batch (Scope.undoSql name)) fate]
        ⟨scopes, [], used, true⟩
  | ran {scopes used failed number call fate}
      (hAllowed : allowed call) :
      Step allowed ⟨scopes, [], used, failed⟩
        [.called number call fate]
        ⟨scopes, [], used, failed⟩
  | cancelled {standing number fate} :
      Step allowed standing
        [.called number .cancel fate] standing
  | refused {scopes used failed number sql fate}
      (hRisky : Risky used scopes sql)
      (hFate : fate ≠ .done) :
      Step allowed ⟨scopes, [], used, failed⟩
        [.called number (.batch sql) fate]
        ⟨scopes, [], used, true⟩
  | began {scopes used failed number savepoint}
      (hFresh : used < savepoint) :
      Step allowed ⟨scopes, [], used, failed⟩
        [.called number
            (.batch
              (Scope.savepointSql
                (savepointName savepoint)))
            .done,
          .begun (savepointName savepoint)]
        ⟨savepointName savepoint :: scopes, [], savepoint,
          failed⟩
  | released {name scopes used failed number} :
      Step allowed ⟨name :: scopes, [], used, failed⟩
        [.called number (.batch (Scope.releaseSql name))
          .done, .ended name .commit true]
        ⟨scopes, [], used, failed⟩
  | undone {name scopes used failed number} :
      Step allowed ⟨name :: scopes, [], used, failed⟩
        [.called number (.batch (Scope.undoSql name)) .done,
          .ended name .rollback true]
        ⟨scopes, [], used, failed⟩
  | broken {name scopes used ending}
      (hEnding : ending.isDrop = false) :
      Step allowed ⟨name :: scopes, [], used, true⟩
        [.ended name ending false]
        ⟨scopes, [], used, true⟩
  | dropped {name scopes pending used failed idle} :
      Step allowed
        ⟨name :: scopes, pending, used, failed⟩
        [.ended name (.drop idle) true]
        ⟨scopes, pending ++ [name], used, failed⟩

/- One step after another. -/
inductive Run (allowed : Call → Prop) :
    Standing → List Item → Standing → Prop
  | nil {standing} : Run allowed standing [] standing
  | cons {first middle last items later}
      (hStep : Step allowed first items middle)
      (hRun : Run allowed middle later last) :
      Run allowed first (items ++ later) last

/-
  How a timeline ends.  Only a transaction that ends in
  another way than by a commit forgets what is pending.
-/
inductive Closing : Standing → List Item → Prop
  | committed {used failed number} :
      Closing ⟨[], [], used, failed⟩
        [.called number (.batch "COMMIT") .done,
          .closed .commit true]
  | broken {used} :
      Closing ⟨[], [], used, true⟩
        [.closed .commit false]
  | rolledBack {pending used failed number ending}
      (hEnding : ending ≠ .commit) :
      Closing ⟨[], pending, used, failed⟩
        [.called number (.batch "ROLLBACK") .done,
          .closed ending true]
  | refused {pending used failed number fate ending ok}
      {cancels : List Item}
      (hEnding : ending ≠ .commit)
      (hFate : fate ≠ .done)
      (hCancels :
        ∀ item ∈ cancels, ∃ number fate,
          item = .called number .cancel fate) :
      Closing ⟨[], pending, used, failed⟩
        (.called number (.batch "ROLLBACK") fate ::
          (cancels ++ [.closed ending ok]))
  | left {pending used failed} :
      Closing ⟨[], pending, used, failed⟩
        [.closed (.drop true) true]

/- A timeline of a transaction, over or not. -/
inductive Course (allowed : Call → Prop) :
    Standing → List Item → Prop
  | running {first items last}
      (hRun : Run allowed first items last) :
      Course allowed first items
  | ended {first items last closing}
      (hRun : Run allowed first items last)
      (hClosing : Closing last closing) :
      Course allowed first (items ++ closing)

variable {allowed : Call → Prop}

/- One step is a run. -/
theorem Step.run
    {first last : Standing}
    {items : List Item}
    (hStep : Step allowed first items last) :
    Run allowed first items last := by
  simpa using Run.cons hStep .nil

/- Runs are put together. -/
theorem Run.trans
    {first middle last : Standing}
    {items later : List Item}
    (hRun : Run allowed first items middle)
    (hLater : Run allowed middle later last) :
    Run allowed first (items ++ later) last := by
  induction hRun with
  | nil => exact hLater
  | cons hStep hRun ih =>
      rw [List.append_assoc]
      exact .cons hStep (ih hLater)

/- A step may come after a run. -/
theorem Run.snoc
    {first middle last : Standing}
    {items later : List Item}
    (hRun : Run allowed first items middle)
    (hStep : Step allowed middle later last) :
    Run allowed first (items ++ later) last :=
  hRun.trans hStep.run

/- A run before a course is a longer course. -/
theorem Run.course
    {first middle : Standing}
    {items later : List Item}
    (hRun : Run allowed first items middle)
    (hLater : Course allowed middle later) :
    Course allowed first (items ++ later) := by
  cases hLater with
  | running hMore => exact .running (hRun.trans hMore)
  | ended hMore hClosing =>
      rw [← List.append_assoc]
      exact .ended (hRun.trans hMore) hClosing

------------------------------------------------------------
-- Splitting
------------------------------------------------------------

section Splitting

variable {first last : Standing}
variable {items before after : List Item}
variable {number : Nat} {call : Call} {fate : Fate}

/- A step makes one call at most, and makes it first. -/
theorem Step.call_first
    (hStep : Step allowed first items last)
    (hItems :
      items = before ++ .called number call fate :: after) :
    before = [] := by
  cases before with
  | nil => rfl
  | cons item before =>
      cases hStep <;> cases before <;> simp at hItems

/- A run is split before the step that makes a call. -/
theorem Run.split
    (hRun : Run allowed first items last)
    (hItems :
      items = before ++ .called number call fate :: after) :
    ∃ middle next more later,
      after = more ++ later ∧
        Run allowed first before middle ∧
        Step allowed middle
          (.called number call fate :: more)
          next ∧
        Run allowed next later last := by
  induction hRun generalizing before with
  | nil => simp at hItems
  | @cons first middle last items later hStep hRun ih =>
      rw [List.append_eq_append_iff] at hItems
      rcases hItems with
        ⟨rest, rfl, hLater⟩ | ⟨rest, hSplit, hRest⟩
      · rcases ih hLater with
          ⟨next, final, more, remaining, hAfter, hBefore,
            hCall, hFinal⟩
        exact ⟨next, final, more, remaining, hAfter,
          .cons hStep hBefore, hCall, hFinal⟩
      · cases rest with
        | nil =>
            rw [List.append_nil] at hSplit
            subst hSplit
            rcases @ih [] hRest.symm with
              ⟨next, final, more, remaining, hAfter,
                hBefore, hCall, hFinal⟩
            refine ⟨next, final, more, remaining,
              hAfter, ?_, hCall, hFinal⟩
            simpa using Run.cons hStep hBefore
        | cons item rest =>
            rw [List.cons_append, List.cons.injEq] at hRest
            rcases hRest with ⟨rfl, rfl⟩
            have hNil := hStep.call_first hSplit
            subst hNil hSplit
            exact ⟨first, middle, rest, later, rfl, .nil,
              hStep, hRun⟩

/- The calls at the end of a transaction. -/
theorem Closing.calls
    (hClosing : Closing first items)
    (hItems :
      items = before ++ .called number call fate :: after) :
    (call = .batch "COMMIT" ∧ before = [] ∧
        first.pending = []) ∨
      call = .batch "ROLLBACK" ∨ call = .cancel := by
  cases hClosing with
  | committed =>
      cases before with
      | nil =>
          exact .inl ⟨by cases hItems; rfl, rfl, rfl⟩
      | cons item before => cases before <;> simp at hItems
  | rolledBack =>
      cases before with
      | nil => exact .inr (.inl (by cases hItems; rfl))
      | cons item before => cases before <;> simp at hItems
  | refused hEnding hFate hCancels =>
      cases before with
      | nil => exact .inr (.inl (by cases hItems; rfl))
      | cons item before =>
          rw [List.cons_append, List.cons.injEq] at hItems
          have hMem :
              Item.called number call fate ∈
                before ++ .called number call fate ::
                  after :=
            by simp
          rw [← hItems.2, List.mem_append] at hMem
          rcases hMem with hCancel | hClosed
          · rcases hCancels _ hCancel with
              ⟨_, _, hCall⟩
            cases hCall
            exact .inr (.inr rfl)
          · simp at hClosed
  | broken => cases before <;> simp at hItems
  | left => cases before <;> simp at hItems

/-
  A course is split before a call, unless it ends with it.
-/
theorem Course.split
    (hCourse : Course allowed first items)
    (hItems :
      items = before ++ .called number call fate :: after) :
    (∃ middle next more later,
        after = more ++ later ∧
          Run allowed first before middle ∧
          Step allowed middle
            (.called number call fate :: more) next ∧
          Course allowed next later) ∨
      (∃ middle,
        Run allowed first before middle ∧
          call = .batch "COMMIT" ∧
            middle.pending = []) ∨
      call = .batch "ROLLBACK" ∨ call = .cancel := by
  cases hCourse with
  | running hRun =>
      rcases hRun.split hItems with
        ⟨middle, next, more, later, hAfter, hBefore,
          hCall, hLater⟩
      exact .inl
        ⟨middle, next, more, later, hAfter, hBefore,
        hCall, .running hLater⟩
  | @ended body last closing hRun hClosing =>
      rw [List.append_eq_append_iff] at hItems
      rcases hItems with
        ⟨rest, rfl, hRest⟩ | ⟨rest, hSplit, hRest⟩
      · rcases hClosing.calls hRest with
          ⟨hCommit, rfl, hPending⟩ | hOther
        · refine .inr
            (.inl ⟨last, ?_, hCommit, hPending⟩)
          simpa using hRun
        · exact .inr (.inr hOther)
      · cases rest with
        | nil =>
            rw [List.append_nil] at hSplit
            subst hSplit
            rcases @Closing.calls _ _ [] _ _ _ _ hClosing
                hRest.symm with
              ⟨hCommit, -, hPending⟩ | hOther
            · exact .inr
                (.inl ⟨last, hRun, hCommit, hPending⟩)
            · exact .inr (.inr hOther)
        | cons item rest =>
            rw [List.cons_append, List.cons.injEq] at hRest
            rcases hRest with ⟨rfl, hAfter⟩
            rcases hRun.split hSplit with
              ⟨middle, next, more, later, rfl, hBefore,
                hCall, hLater⟩
            rw [List.append_assoc] at hAfter
            exact .inl
              ⟨middle, next, more, later ++ closing,
              hAfter, hBefore, hCall,
                .ended hLater hClosing⟩

end Splitting

------------------------------------------------------------
-- Calls as Steps
------------------------------------------------------------

/- Numbers go on where the front ends. -/
@[simp] theorem numbered_append
    (number : Nat)
    (calls more : List (Call × Fate)) :
    numbered number (calls ++ more) =
      numbered number calls ++
        numbered (number + calls.length) more := by
  induction calls generalizing number with
  | nil => rfl
  | cons entry calls ih =>
      rw [List.cons_append, numbered, numbered, ih,
        List.cons_append, List.length_cons]
      congr 3
      omega

/-
  The calls since some state are numbered from its history
  on.
-/
theorem callsSince_eq
    {σ : Type}
    {id : Nat}
    {calls : List (Call × Fate)}
    {before after : Database σ}
    (hHeard : Database.Heard id calls before after) :
    callsSince before after id =
      numbered before.history.length calls := by
  rcases hHeard with ⟨events, hAfter, rfl⟩
  simp [callsSince, hAfter]

section Calls

variable {scopes : List String} {used : Nat} {failed : Bool}

/- What is pending can be run, from the front. -/
theorem flushed_run
    (names rest : List String)
    (number : Nat) :
    Run allowed ⟨scopes, names ++ rest, used, failed⟩
      (numbered number
        (Use.flushed (names.map Scope.undoSql)))
      ⟨scopes, rest, used, failed⟩ := by
  induction names generalizing number with
  | nil => exact .nil
  | cons name names ih =>
      exact .cons .flushed (ih (number + 1))

/- Calls that only stop what runs change no standing. -/
theorem cancels_run
    {standing : Standing}
    {calls : List (Call × Fate)}
    (hCancels : Use.OnlyCancels calls)
    (number : Nat) :
    Run allowed standing (numbered number calls)
      standing := by
  induction calls generalizing number with
  | nil => exact .nil
  | cons entry calls ih =>
      rcases entry with ⟨call, fate⟩
      have hCall : call = .cancel :=
        hCancels (call, fate) (by simp)
      have hCalls : Use.OnlyCancels calls := by
        intro entry hEntry
        exact hCancels entry (List.mem_cons_of_mem _ hEntry)
      subst hCall
      exact .cons .cancelled (ih hCalls (number + 1))

/- A call that failed is a step with cancels after it. -/
theorem failed_run
    {first last : Standing}
    {call : Call}
    {calls : List (Call × Fate)}
    (hSent : Use.Sent call calls false)
    (hStep :
      ∀ number fate, fate ≠ .done →
        Step allowed first [.called number call fate] last)
    (number : Nat) :
    Run allowed first (numbered number calls) last := by
  cases hSent with
  | failed hFate hCancels =>
      exact .cons (hStep number _ hFate)
        (cancels_run hCancels (number + 1))

/- What is pending is forgotten when it fails. -/
theorem stuck_run
    {names : List String}
    {calls : List (Call × Fate)}
    (hStuck : Use.Stuck (names.map Scope.undoSql) calls)
    (number : Nat) :
    Run allowed ⟨scopes, names, used, failed⟩
      (numbered number calls)
        ⟨scopes, [], used, true⟩ := by
  rcases hStuck with
    ⟨before, sql, later, failure, hNames, hSent, rfl⟩
  rw [List.map_eq_append_iff] at hNames
  rcases hNames with ⟨done, rest, rfl, rfl, hRest⟩
  rw [List.map_eq_cons_iff] at hRest
  rcases hRest with ⟨name, left, rfl, rfl, rfl⟩
  rw [numbered_append]
  apply (flushed_run done (name :: left) number).trans
  exact failed_run hSent (fun _ _ hFate => .lost hFate) _

/-
  A call that is performed comes after what was pending.  If
  it is not answered, it was the call that failed, or what
  was pending did.
-/
theorem performed_run
    {names : List String}
    {call : Call}
    {calls : List (Call × Fate)}
    {ok after : Bool}
    (hPerformed :
      Use.Performed call (names.map Scope.undoSql) calls ok)
    (hFailed :
      ∀ number fate, fate ≠ .done →
        Step allowed ⟨scopes, [], used, failed⟩
          [.called number call fate]
          ⟨scopes, [], used, after⟩)
    (number : Nat) :
    (ok = true ∧
      ∃ flush last,
        numbered number calls =
            flush ++ [.called last call .done] ∧
          Run allowed
            ⟨scopes, names, used, failed⟩ flush
            ⟨scopes, [], used, failed⟩) ∨
    (ok = false ∧
      ∃ broken,
        (broken = true ∨ broken = after) ∧
          Run allowed ⟨scopes, names, used, failed⟩
            (numbered number calls)
            ⟨scopes, [], used, broken⟩) := by
  have hFlush :
      Run allowed ⟨scopes, names, used, failed⟩
        (numbered number
          (Use.flushed (names.map Scope.undoSql)))
        ⟨scopes, [], used, failed⟩ := by
    simpa using flushed_run names [] number
  cases hPerformed with
  | sent hSent =>
      rw [numbered_append]
      cases ok with
      | true =>
          cases hSent with
          | answered =>
              exact .inl ⟨rfl, _, _, rfl, hFlush⟩
      | false =>
          refine .inr ⟨rfl, after, .inr rfl, ?_⟩
          exact hFlush.trans (failed_run hSent hFailed _)
  | stuck hStuck =>
      exact .inr
        ⟨rfl, true, .inl rfl, stuck_run hStuck number⟩

end Calls

/- A standing with nothing pending. -/
def Standing.settled (standing : Standing) : Standing :=
  { standing with pending := [] }

/- A standing after a statement of the library failed. -/
def Standing.stuck (standing : Standing) : Standing :=
  { standing with pending := [], failed := true }

/- A statement of the library is performed. -/
theorem risky_run
    (allowed : Call → Prop)
    (standing : Standing)
    {sql : String}
    {calls : List (Call × Fate)}
    {ok : Bool}
    (hPerformed :
      Use.Performed (.batch sql)
        (standing.pending.map Scope.undoSql) calls ok)
    (hRisky : Risky standing.used standing.scopes sql)
    (number : Nat) :
    (ok = true ∧
      ∃ flush last,
        numbered number calls =
            flush ++ [.called last (.batch sql) .done] ∧
          Run allowed standing flush standing.settled) ∨
    (ok = false ∧
      Run allowed standing (numbered number calls)
        standing.stuck) := by
  rcases performed_run hPerformed
      (fun _ _ hFate => .refused hRisky hFate) number with
    hDone | ⟨hOk, broken, hBroken, hRun⟩
  · exact .inl hDone
  · have hTrue : broken = true := by
      simpa using hBroken
    subst hTrue
    exact .inr ⟨hOk, hRun⟩

end Session

end SqlAccess
