import SqlAccess.Proofs.Transaction.Course

/-
  This file says what a timeline tells about each nested
  scope: whether it was committed, abandoned or broken, and
  whether its work was undone.

  Key definitions include:
    * `Session.Marks`
    * `Session.marks`
    * `Session.Named`
    * `Session.Gone`
    * `Session.Verdict`
    * `Session.Controlled`

  Key theorems include:
    * `Session.Run.gone`
    * `Session.Run.verdict`
    * `Session.Run.controlled`
    * `Session.Course.split_ordinary`
    * `Session.Course.verdict`
-/

namespace SqlAccess

namespace Session

------------------------------------------------------------
-- Marks
------------------------------------------------------------

/-
  Whether an item is an answered rollback to a savepoint.
-/
def Item.undoes (name : String) : Item → Bool
  | .called _ call .done =>
      (call.commands?.getD []).contains (.rollbackTo name)
  | _ => false

/- Whether an item is the commit of a scope. -/
def Item.commits (name : String) : Item → Bool
  | .ended other .commit true => other = name
  | _ => false

/- Whether an item rolls a scope back or drops it. -/
def Item.abandons (name : String) : Item → Bool
  | .ended other .rollback true => other = name
  | .ended other (.drop _) true => other = name
  | _ => false

/- Whether an item is a failed end of a scope. -/
def Item.breaks (name : String) : Item → Bool
  | .ended other _ false => other = name
  | _ => false

/- What a timeline tells about a scope. -/
@[ext] structure Marks where
  undone : Bool
  committed : Bool
  abandoned : Bool
  broken : Bool
deriving DecidableEq, Repr

namespace Marks

/- Nothing is told. -/
def none : Marks := ⟨false, false, false, false⟩

/- What is told by either of two timelines. -/
def or (first second : Marks) : Marks :=
  ⟨first.undone || second.undone,
    first.committed || second.committed,
    first.abandoned || second.abandoned,
    first.broken || second.broken⟩

@[simp] theorem none_or (marks : Marks) :
    none.or marks = marks := by
  simp [none, or]

@[simp] theorem or_none (marks : Marks) :
    marks.or none = marks := by
  simp [none, or]

/- Marks are put together in any grouping. -/
theorem or_assoc (first second third : Marks) :
    (first.or second).or third =
      first.or (second.or third) := by
  simp [or, Bool.or_assoc]

end Marks

/- What the items of a timeline tell about a scope. -/
def marks (name : String) (items : List Item) : Marks :=
  ⟨items.any (Item.undoes name),
    items.any (Item.commits name),
      items.any (Item.abandons name),
    items.any (Item.breaks name)⟩

@[simp] theorem marks_nil (name : String) :
    marks name [] = .none :=
  rfl

/- Marks of two parts are put together. -/
@[simp] theorem marks_append
    (name : String)
    (items later : List Item) :
    marks name (items ++ later) =
      (marks name items).or (marks name later) := by
  simp [marks, Marks.or]

/- One item leaves its own marks. -/
theorem marks_singleton
    (name : String)
    (item : Item) :
    marks name [item] =
      ⟨item.undoes name, item.commits name,
        item.abandons name, item.breaks name⟩ := by
  simp [marks]

/- An answered call tells which scopes it rolls back. -/
theorem marks_done
    (name : String)
    (number : Nat)
    (call : Call) :
    marks name [.called number call .done] =
      ⟨(call.commands?.getD []).contains
        (.rollbackTo name), false, false, false⟩ := by
  rw [marks_singleton]
  rfl

------------------------------------------------------------
-- Names
------------------------------------------------------------

/- A name that a savepoint may have had so far. -/
def Named (used : Nat) (name : String) : Prop :=
  ∃ number ≤ used, name = savepointName number

/- A name stays one when more savepoints are used. -/
theorem Named.mono
    {used later : Nat}
    {name : String}
    (hNamed : Named used name)
    (hLater : used ≤ later) : Named later name := by
  rcases hNamed with ⟨number, hNumber, hName⟩
  exact ⟨number, Nat.le_trans hNumber hLater, hName⟩

/- A new savepoint has no name that was used. -/
theorem Named.ne_fresh
    {used number : Nat}
    {name : String}
    (hNamed : Named used name)
    (hFresh : used < number) :
    name ≠ savepointName number := by
  rcases hNamed with ⟨other, hOther, rfl⟩
  intro hSame
  have := savepointName_injective hSame
  omega

/- Names of savepoints have no semicolon. -/
theorem Named.semicolon_notMem
    {used : Nat}
    {name : String}
    (hNamed : Named used name) : ';' ∉ name.toList := by
  rcases hNamed with ⟨number, -, rfl⟩
  exact semicolon_notMem_savepointName number

/-
  The scopes of a standing have different names, and their
  savepoints have been numbered.
-/
structure Standing.Sound (standing : Standing) : Prop where
  named :
    ∀ name ∈ standing.pending ++ standing.scopes,
      Named standing.used name
  distinct : (standing.pending ++ standing.scopes).Nodup

/-
  Neither pending rollbacks nor scopes have a semicolon in
  their names.
-/
theorem Standing.Sound.semicolon_notMem
    {standing : Standing}
    {name : String}
    (hSound : standing.Sound)
    (hName : name ∈ standing.pending ++ standing.scopes) :
    ';' ∉ name.toList :=
  (hSound.named name hName).semicolon_notMem

/- A transaction begins soundly. -/
theorem Standing.fresh_sound : Standing.Sound .fresh :=
  ⟨by simp [Standing.fresh], .nil⟩

section Steps

variable {allowed : Call → Prop} {first last : Standing}
variable {items : List Item}

/- A step keeps a standing sound. -/
theorem Step.sound
    (hStep : Step allowed first items last)
    (hSound : first.Sound) : last.Sound := by
  rcases hSound with ⟨hNamed, hDistinct⟩
  cases hStep with
  | flushed =>
      exact
        ⟨fun name hName => hNamed name (.tail _ hName),
        hDistinct.of_cons⟩
  | lost hFate =>
      refine ⟨fun name hName => hNamed name ?_, ?_⟩
      · exact List.mem_append_right _ hName
      · exact (List.nodup_append.mp hDistinct).2.1
  | began hFresh =>
      refine ⟨?_, ?_⟩
      · intro name hName
        rcases List.mem_cons.mp hName with rfl | hOld
        · exact ⟨_, Nat.le_refl _, rfl⟩
        · exact (hNamed name hOld).mono
            (Nat.le_of_lt hFresh)
      · refine List.nodup_cons.mpr ⟨?_, hDistinct⟩
        intro hMem
        exact (hNamed _ hMem).ne_fresh hFresh rfl
  | dropped =>
      rw [List.append_cons] at hNamed hDistinct
      exact ⟨hNamed, hDistinct⟩
  | released | undone | broken =>
      exact
        ⟨fun name hName => hNamed name (.tail _ hName),
        hDistinct.of_cons⟩
  | ran | cancelled | refused =>
      exact ⟨hNamed, hDistinct⟩

/- A failure is not forgotten. -/
theorem Step.failed
    (hStep : Step allowed first items last)
    (hFailed : first.failed = true) :
    last.failed = true := by
  cases hStep <;> first | rfl | exact hFailed

end Steps

------------------------------------------------------------
-- Verdicts
------------------------------------------------------------

/-
  A scope that has ended, and whose rollback is not pending.
-/
structure Gone
    (standing : Standing)
    (name : String) :
    Prop where
  named : Named standing.used name
  notMem : name ∉ standing.pending ++ standing.scopes

/- The marks of a call that is not answered are none. -/
theorem marks_failed
    {fate : Fate}
    (hFate : fate ≠ .done)
    (name : String)
    (number : Nat)
    (call : Call) :
    marks name [.called number call fate] = .none := by
  cases fate with
  | done => exact absurd rfl hFate
  | _ => rfl

/- So are the marks of an ordinary statement. -/
theorem marks_ordinary
    {call : Call}
    (hCall : call.isOrdinary = true)
    (name : String)
    (number : Nat)
    (fate : Fate) :
    marks name [.called number call fate] = .none := by
  by_cases hFate : fate = .done
  · subst hFate
    have hNone : call.commands? = none := by
      simp only [Call.isOrdinary, Call.isControl,
        Bool.and_eq_true, Bool.not_eq_true',
        Option.isSome_eq_false_iff,
        Option.isNone_iff_eq_none]
        at hCall
      exact hCall.2
    simp [marks_done, Marks.none, hNone]
  · exact marks_failed hFate name number call

/- What undoes a scope marks that scope. -/
theorem marks_undo
    {other : String}
    (hOther : ';' ∉ other.toList)
    (name : String)
    (number : Nat) :
    marks name
        [.called number (.batch (Scope.undoSql other))
          .done] =
      ⟨other = name, false, false, false⟩ := by
  rw [marks_done, Call.commands?_batch,
    Command.ofText?_undoSql hOther]
  simp [eq_comm]

/- To stop what runs leaves no marks. -/
theorem marks_cancel
    (name : String)
    (number : Nat)
    (fate : Fate) :
    marks name [.called number .cancel fate] = .none := by
  cases fate <;> rfl

/- An end that goes well commits or abandons its scope. -/
theorem marks_commit (name other : String) :
    marks name [.ended other .commit true] =
      ⟨false, other = name, false, false⟩ := by
  rw [marks_singleton]
  rfl

/- A scope that ends without a commit is abandoned. -/
theorem marks_abandon
    {ending : Ending}
    (hEnding : ending ≠ .commit)
    (name other : String) :
    marks name [.ended other ending true] =
      ⟨false, false, other = name, false⟩ := by
  rw [marks_singleton]
  cases ending with
  | commit => exact absurd rfl hEnding
  | _ => rfl

/- A scope that begins leaves no marks. -/
theorem marks_savepoint
    {other : String}
    (hOther : ';' ∉ other.toList)
    (name : String)
    (number : Nat) :
    marks name
        [.called number (.batch (Scope.savepointSql other))
            .done,
          .begun other] = .none := by
  have hCall :
      marks name
          [.called number
            (.batch (Scope.savepointSql other))
            .done] = .none := by
    simp [marks_done, Marks.none, Call.commands?_batch,
      Command.ofText?_savepointSql hOther]
  exact (marks_append name [_] [.begun other]).trans
    (congrArg (Marks.or · .none) hCall)

/- A scope that is released is committed. -/
theorem marks_release
    {other : String}
    (hOther : ';' ∉ other.toList)
    (name : String)
    (number : Nat) :
    marks name
        [.called number (.batch (Scope.releaseSql other))
          .done, .ended other .commit true] =
      ⟨false, other = name, false, false⟩ := by
  rw [← List.singleton_append, marks_append, marks_done,
    marks_commit]
  simp [Marks.or, Call.commands?_batch,
    Command.ofText?_releaseSql hOther]

/- A scope that is rolled back is undone and abandoned. -/
theorem marks_rollback
    {other : String}
    (hOther : ';' ∉ other.toList)
    (name : String)
    (number : Nat) :
    marks name
        [.called number (.batch (Scope.undoSql other))
          .done, .ended other .rollback true] =
      ⟨other = name, false, other = name, false⟩ := by
  rw [← List.singleton_append, marks_append,
    marks_undo hOther, marks_abandon (by decide)]
  simp [Marks.or]

/- A scope that is dropped is abandoned. -/
theorem marks_dropped (name other : String) (idle : Bool) :
    marks name [.ended other (.drop idle) true] =
      ⟨false, false, other = name, false⟩ :=
  marks_abandon (by simp) name other

/- A scope whose end fails is broken. -/
theorem marks_broken
    (name other : String)
    (ending : Ending) :
    marks name [.ended other ending false] =
      ⟨false, false, false, other = name⟩ := by
  rw [marks_singleton]
  cases ending <;> rfl

/-
  Where a scope that was open is by now, and what has been
  told about it.
-/
inductive Verdict
    (standing : Standing)
    (name : String) : Marks → Prop
  | running
      (hOpen : name ∈ standing.scopes) :
      Verdict standing name .none
  | committed
      (hGone : Gone standing name) :
      Verdict standing name ⟨false, true, false, false⟩
  | undone
      (hGone : Gone standing name) :
      Verdict standing name ⟨true, false, true, false⟩
  | dropped
      (hPending : name ∈ standing.pending) :
      Verdict standing name ⟨false, false, true, false⟩
  | lost
      (hGone : Gone standing name)
      (hFailed : standing.failed = true) :
      Verdict standing name ⟨false, false, true, false⟩
  | broken
      (hGone : Gone standing name)
      (hFailed : standing.failed = true) :
      Verdict standing name ⟨false, false, false, true⟩

section Steps

variable {allowed : Call → Prop} {first last : Standing}
variable {items : List Item} {name : String}
variable
  (hOrdinary :
    ∀ call, allowed call → call.isOrdinary = true)

include hOrdinary

/-
  A scope that is gone stays gone, and a step tells nothing
  about it.
-/
theorem Step.gone
    (hStep : Step allowed first items last)
    (hSound : first.Sound)
    (hGone : Gone first name) :
    marks name items = .none ∧ Gone last name := by
  rcases hGone with ⟨hNamed, hNotMem⟩
  have hNames :
      ∀ other ∈ first.pending ++ first.scopes,
        ';' ∉ other.toList ∧ other ≠ name := by
    intro other hOther
    refine ⟨hSound.semicolon_notMem hOther, ?_⟩
    rintro rfl
    exact hNotMem hOther
  cases hStep with
  | flushed =>
      rcases hNames _ (.head _) with ⟨hText, hOther⟩
      refine ⟨?_, hNamed,
        fun hMem => hNotMem (.tail _ hMem)⟩
      simp [marks_undo hText, Marks.none, hOther]
  | lost hFate =>
      refine ⟨marks_failed hFate _ _ _, hNamed, ?_⟩
      intro hMem
      exact hNotMem (List.mem_append_right _ hMem)
  | ran hAllowed =>
      exact ⟨marks_ordinary (hOrdinary _ hAllowed) _ _ _,
        hNamed, hNotMem⟩
  | cancelled =>
      exact ⟨marks_cancel _ _ _, hNamed, hNotMem⟩
  | refused hRisky hFate =>
      exact ⟨marks_failed hFate _ _ _, hNamed, hNotMem⟩
  | began hFresh =>
      refine ⟨marks_savepoint
          (semicolon_notMem_savepointName _) _ _,
        hNamed.mono (Nat.le_of_lt hFresh), ?_⟩
      intro hMem
      rcases List.mem_cons.mp hMem with hNew | hOld
      · exact hNamed.ne_fresh hFresh hNew
      · exact hNotMem hOld
  | released =>
      rcases hNames _ (.head _) with ⟨hText, hOther⟩
      refine ⟨?_, hNamed,
        fun hMem => hNotMem (.tail _ hMem)⟩
      simp [marks_release hText, Marks.none, hOther]
  | undone =>
      rcases hNames _ (.head _) with ⟨hText, hOther⟩
      refine ⟨?_, hNamed,
        fun hMem => hNotMem (.tail _ hMem)⟩
      simp [marks_rollback hText, Marks.none, hOther]
  | broken hEnding =>
      rcases hNames _ (.head _) with ⟨-, hOther⟩
      refine ⟨?_, hNamed,
        fun hMem => hNotMem (.tail _ hMem)⟩
      simp [marks_broken, Marks.none, hOther]
  | dropped =>
      rcases hNames _
        (List.mem_append_right _ (.head _)) with
        ⟨-, hOther⟩
      refine ⟨?_, hNamed, ?_⟩
      · simp [marks_dropped, Marks.none, hOther]
      · simpa using hNotMem

omit hOrdinary in
/-
  A rollback that is pending stays so, or is done, or is
  lost by a failure.
-/
theorem Step.pending
    (hStep : Step allowed first items last)
    (hSound : first.Sound)
    (hPending : name ∈ first.pending) :
    (marks name items = .none ∧ name ∈ last.pending) ∨
      (Gone last name ∧
        marks name items =
          ⟨true, false, false, false⟩) ∨
      (Gone last name ∧ last.failed = true ∧
        marks name items = .none) := by
  have hNamed : Named first.used name :=
    hSound.named name (List.mem_append_left _ hPending)
  have hApart := List.nodup_append.mp hSound.distinct
  cases hStep with
  | @flushed _ head =>
      have hText := hSound.semicolon_notMem (.head _)
      by_cases hHead : head = name
      · subst hHead
        refine .inr (.inl ⟨⟨hNamed, ?_⟩, ?_⟩)
        · exact (List.nodup_cons.mp hSound.distinct).1
        · simp [marks_undo hText]
      · refine .inl ⟨?_, ?_⟩
        · simp [marks_undo hText, Marks.none, hHead]
        · exact List.mem_of_ne_of_mem
            (Ne.symm hHead) hPending
  | lost hFate =>
      refine .inr (.inr ⟨⟨hNamed, ?_⟩, rfl,
        marks_failed hFate _ _ _⟩)
      intro hScope
      exact hApart.2.2 name hPending name hScope rfl
  | cancelled =>
      exact .inl ⟨marks_cancel _ _ _, hPending⟩
  | @dropped head =>
      have hHead : head ≠ name :=
        Ne.symm (hApart.2.2 name hPending head (.head _))
      refine .inl ⟨?_, List.mem_append_left _ hPending⟩
      simp [marks_dropped, Marks.none, hHead]
  | _ => cases hPending

/- A scope that is open stays so, or ends in some way. -/
theorem Step.verdict
    (hStep : Step allowed first items last)
    (hSound : first.Sound)
    (hOpen : name ∈ first.scopes) :
    Verdict last name (marks name items) := by
  have hNamed : Named first.used name :=
    hSound.named name (List.mem_append_right _ hOpen)
  have hTexts :
      ∀ other ∈ first.pending ++ first.scopes,
        ';' ∉ other.toList :=
    fun _ hOther => hSound.semicolon_notMem hOther
  have hDistinct := hSound.distinct
  cases hStep with
  | @flushed _ head =>
      have hHead : head ≠ name := by
        rintro rfl
        exact (List.nodup_cons.mp hDistinct).1
          (List.mem_append_right _ hOpen)
      have hMarks := marks_undo (hTexts head (.head _)) name
      simp only [hMarks, hHead, decide_false]
      exact .running hOpen
  | lost hFate =>
      rw [marks_failed hFate]
      exact .running hOpen
  | ran hAllowed =>
      rw [marks_ordinary (hOrdinary _ hAllowed)]
      exact .running hOpen
  | cancelled =>
      rw [marks_cancel]
      exact .running hOpen
  | refused hRisky hFate =>
      rw [marks_failed hFate]
      exact .running hOpen
  | began hFresh =>
      rw [marks_savepoint
        (semicolon_notMem_savepointName _)]
      exact .running (.tail _ hOpen)
  | @released head =>
      rw [marks_release (hTexts head (.head _))]
      by_cases hHead : head = name
      · subst hHead
        simp only [decide_true]
        exact .committed
          ⟨hNamed, (List.nodup_cons.mp hDistinct).1⟩
      · simp only [hHead, decide_false]
        exact .running
          (List.mem_of_ne_of_mem
            (Ne.symm hHead) hOpen)
  | @undone head =>
      rw [marks_rollback (hTexts head (.head _))]
      by_cases hHead : head = name
      · subst hHead
        simp only [decide_true]
        exact .undone
          ⟨hNamed, (List.nodup_cons.mp hDistinct).1⟩
      · simp only [hHead, decide_false]
        exact .running
          (List.mem_of_ne_of_mem
            (Ne.symm hHead) hOpen)
  | @broken head =>
      rw [marks_broken]
      by_cases hHead : head = name
      · subst hHead
        simp only [decide_true]
        exact .broken
          ⟨hNamed, (List.nodup_cons.mp hDistinct).1⟩ rfl
      · simp only [hHead, decide_false]
        exact .running
          (List.mem_of_ne_of_mem
            (Ne.symm hHead) hOpen)
  | @dropped head =>
      rw [marks_dropped]
      by_cases hHead : head = name
      · subst hHead
        simp only [decide_true]
        exact .dropped (List.mem_append_right _ (.head _))
      · simp only [hHead, decide_false]
        exact .running
          (List.mem_of_ne_of_mem
            (Ne.symm hHead) hOpen)

/-
  What was told about a scope is told with what a step adds.
-/
theorem Verdict.step
    {told : Marks}
    (hVerdict : Verdict first name told)
    (hSound : first.Sound)
    (hStep : Step allowed first items last) :
    Verdict last name (told.or (marks name items)) := by
  cases hVerdict with
  | running hOpen =>
      rw [Marks.none_or]
      exact hStep.verdict hOrdinary hSound hOpen
  | committed hGone =>
      rcases hStep.gone hOrdinary hSound hGone with
        ⟨hMarks, hLater⟩
      rw [hMarks, Marks.or_none]
      exact .committed hLater
  | undone hGone =>
      rcases hStep.gone hOrdinary hSound hGone with
        ⟨hMarks, hLater⟩
      rw [hMarks, Marks.or_none]
      exact .undone hLater
  | dropped hPending =>
      rcases hStep.pending hSound hPending with
        ⟨hMarks, hLater⟩ | ⟨hLater, hMarks⟩ |
          ⟨hLater, hFailed, hMarks⟩
      · rw [hMarks, Marks.or_none]
        exact .dropped hLater
      · rw [hMarks]
        exact .undone hLater
      · rw [hMarks, Marks.or_none]
        exact .lost hLater hFailed
  | lost hGone hFailed =>
      rcases hStep.gone hOrdinary hSound hGone with
        ⟨hMarks, hLater⟩
      rw [hMarks, Marks.or_none]
      exact .lost hLater (hStep.failed hFailed)
  | broken hGone hFailed =>
      rcases hStep.gone hOrdinary hSound hGone with
        ⟨hMarks, hLater⟩
      rw [hMarks, Marks.or_none]
      exact .broken hLater (hStep.failed hFailed)

end Steps

section Runs

variable {allowed : Call → Prop} {first last : Standing}
variable {items : List Item} {name : String}

/- A run keeps a standing sound. -/
theorem Run.sound
    (hRun : Run allowed first items last)
    (hSound : first.Sound) : last.Sound := by
  induction hRun with
  | nil => exact hSound
  | cons hStep hRun ih => exact ih (hStep.sound hSound)

variable
  (hOrdinary :
    ∀ call, allowed call → call.isOrdinary = true)
include hOrdinary

/- Nothing is told about a scope that is gone. -/
theorem Run.gone
    (hRun : Run allowed first items last)
    (hSound : first.Sound)
    (hGone : Gone first name) :
    marks name items = .none ∧ Gone last name := by
  induction hRun with
  | nil => exact ⟨rfl, hGone⟩
  | cons hStep hRun ih =>
      rcases hStep.gone hOrdinary hSound hGone with
        ⟨hMarks, hLater⟩
      rw [marks_append, hMarks, Marks.none_or]
      exact ih (hStep.sound hSound) hLater

/- A run adds its marks to the verdict on a scope. -/
theorem Verdict.run
    {told : Marks}
    (hVerdict : Verdict first name told)
    (hSound : first.Sound)
    (hRun : Run allowed first items last) :
    Verdict last name (told.or (marks name items)) := by
  induction hRun generalizing told with
  | nil => simpa using hVerdict
  | cons hStep hRun ih =>
      have hLater :=
        ih (hVerdict.step hOrdinary hSound hStep)
          (hStep.sound hSound)
      rw [marks_append, ← Marks.or_assoc]
      exact hLater

/- What a run tells about a scope that is open before it. -/
theorem Run.verdict
    (hRun : Run allowed first items last)
    (hSound : first.Sound)
    (hOpen : name ∈ first.scopes) :
    Verdict last name (marks name items) := by
  have hStart : Verdict first name .none := .running hOpen
  simpa using hStart.run hOrdinary hSound hRun

end Runs

------------------------------------------------------------
-- Control Statements
------------------------------------------------------------

section Control

variable {allowed : Call → Prop} {first last : Standing}
variable {items : List Item}

/- The texts of the library are about the transaction. -/
theorem Risky.isControl
    {used : Nat}
    {scopes : List String}
    {sql : String}
    (hRisky : Risky used scopes sql)
    (hNames : ∀ name ∈ scopes, ';' ∉ name.toList) :
    (Call.batch sql).isControl = true := by
  rw [Call.isControl, Call.commands?_batch]
  cases hRisky with
  | savepoint hFresh =>
      rw [Command.ofText?_savepointSql
        (semicolon_notMem_savepointName _)]
      rfl
  | release =>
      rw [Command.ofText?_releaseSql (hNames _ (.head _))]
      rfl
  | undo =>
      rw [Command.ofText?_undoSql (hNames _ (.head _))]
      rfl
  | commit => rw [Command.ofText?_commit]; rfl

/-
  What undoes a scope of a transaction is about the
  transaction.
-/
theorem Standing.Sound.undo_isControl
    {name : String}
    (hSound : first.Sound)
    (hName : name ∈ first.pending ++ first.scopes) :
    (Call.batch (Scope.undoSql name)).isControl = true := by
  rw [Call.isControl, Call.commands?_batch,
    Command.ofText?_undoSql (hSound.semicolon_notMem hName)]
  rfl

/-
  Whether an item is no call that is about the transaction
  and was not answered.
-/
def Item.isControlled : Item → Bool
  | .called _ call fate => !call.isControl || fate = .done
  | _ => true

/- All statements about the transaction were answered. -/
def Controlled (items : List Item) : Prop :=
  items.all Item.isControlled = true

instance
    (items : List Item) :
    Decidable (Controlled items) :=
  inferInstanceAs
    (Decidable (items.all Item.isControlled = true))

/- Two parts are under control if each of them is. -/
theorem controlled_append {later : List Item} :
    Controlled (items ++ later) ↔
      Controlled items ∧ Controlled later := by
  simp [Controlled, List.all_append]

/-
  Under control, what is about the transaction is answered.
-/
theorem Controlled.done
    {number : Nat}
    {call : Call}
    {fate : Fate}
    (hControlled : Controlled items)
    (hItem : .called number call fate ∈ items)
    (hCall : call.isControl = true) : fate = .done := by
  have hHere := List.all_eq_true.mp hControlled _ hItem
  simpa [Item.isControlled, hCall] using hHere

/- Under control, a step fails to undo nothing. -/
theorem Step.controlled
    (hStep : Step allowed first items last)
    (hSound : first.Sound)
    (hControlled : Controlled items)
    (hFailed : first.failed = false) :
    last.failed = false := by
  cases hStep with
  | lost hFate =>
      exact absurd
        (hControlled.done (.head _)
          (hSound.undo_isControl (.head _))) hFate
  | refused hRisky hFate =>
      refine absurd
        (hControlled.done (.head _) (hRisky.isControl ?_))
        hFate
      intro name hName
      exact hSound.semicolon_notMem hName
  | _ => exact hFailed

/- Under control, a run fails to undo nothing. -/
theorem Run.controlled
    (hRun : Run allowed first items last)
    (hSound : first.Sound)
    (hControlled : Controlled items)
    (hFailed : first.failed = false) :
    last.failed = false := by
  induction hRun with
  | nil => exact hFailed
  | cons hStep hRun ih =>
      rcases controlled_append.mp hControlled with
        ⟨hHere, hLater⟩
      exact ih (hStep.sound hSound) hLater
        (hStep.controlled hSound hHere hFailed)

/-
  An ordinary statement is one of the client, and is sent
  when nothing is pending.
-/
theorem Step.ordinary
    {number : Nat}
    {call : Call}
    {fate : Fate}
    {more : List Item}
    (hStep :
      Step allowed first (.called number call fate :: more)
        last)
    (hSound : first.Sound)
    (hCall : call.isOrdinary = true) :
    first.pending = [] ∧ more = [] ∧ last = first := by
  have hNotControl : call.isControl ≠ true := by
    simp only [Call.isOrdinary, Bool.and_eq_true,
      Bool.not_eq_true'] at hCall
    simp [hCall.2]
  have hTexts :
      ∀ name ∈ first.scopes, ';' ∉ name.toList :=
    fun name hName =>
      hSound.semicolon_notMem
        (List.mem_append_right _ hName)
  cases hStep with
  | ran hAllowed => exact ⟨rfl, rfl, rfl⟩
  | cancelled => cases hCall
  | flushed | lost =>
      exact absurd (hSound.undo_isControl (.head _))
        hNotControl
  | refused hRisky hFate =>
      exact absurd (hRisky.isControl hTexts) hNotControl
  | began hFresh =>
      exact absurd
        ((Risky.savepoint hFresh).isControl hTexts)
        hNotControl
  | @released name scopes used =>
      exact absurd
        ((@Risky.release used name scopes).isControl hTexts)
        hNotControl
  | undone =>
      exact absurd (hSound.undo_isControl (.head _))
        hNotControl

/- The end of a transaction tells nothing about a scope. -/
theorem Closing.marks
    (hClosing : Closing first items)
    (name : String) :
    Session.marks name items = .none := by
  have hClosed :
      ∀ ending ok,
        Session.marks name [.closed ending ok] = .none :=
    fun _ _ => rfl
  cases hClosing with
  | committed => rfl
  | rolledBack hEnding => rfl
  | @refused _ _ _ number fate ending ok cancels _ hFate
      hCancels =>
      have hMarks : Session.marks name cancels = .none := by
        clear hClosed
        induction cancels with
        | nil => rfl
        | cons item cancels ih =>
            rcases hCancels item (.head _) with
              ⟨number, fate, rfl⟩
            rw [← List.singleton_append, marks_append,
              marks_cancel, Marks.none_or]
            exact ih fun item hItem =>
              hCancels item (.tail _ hItem)
      rw [← List.singleton_append, marks_append,
        marks_append, hMarks, hClosed, marks_failed hFate]
      rfl
  | broken => rfl
  | left => rfl

/-
  An ordinary statement splits a course where nothing is
  pending.
-/
theorem Course.split_ordinary
    {before after : List Item}
    {number : Nat}
    {call : Call}
    {fate : Fate}
    (hCourse : Course allowed first items)
    (hItems :
      items = before ++ .called number call fate :: after)
    (hSound : first.Sound)
    (hCall : call.isOrdinary = true) :
    ∃ middle,
      Run allowed first before middle ∧
        middle.pending = [] ∧
        Course allowed middle after := by
  rcases hCourse.split hItems with
    ⟨middle, next, more, later, rfl, hBefore, hStep,
      hLater⟩ |
      ⟨_, _, rfl, _⟩ | rfl | rfl
  · rcases hStep.ordinary (hBefore.sound hSound) hCall with
      ⟨hPending, rfl, rfl⟩
    exact ⟨_, hBefore, hPending, hLater⟩
  · simp [Call.isOrdinary, Call.isControl] at hCall
  · simp [Call.isOrdinary, Call.isControl] at hCall
  · cases hCall

/-
  What a course tells about a scope that is open before it.
-/
theorem Course.verdict
    {name : String}
    (hOrdinary :
      ∀ call, allowed call → call.isOrdinary = true)
    (hCourse : Course allowed first items)
    (hSound : first.Sound)
    (hOpen : name ∈ first.scopes) :
    ∃ last,
      Verdict last name (Session.marks name items) := by
  cases hCourse with
  | running hRun =>
      exact ⟨_, hRun.verdict hOrdinary hSound hOpen⟩
  | @ended body last closing hRun hClosing =>
      refine ⟨last, ?_⟩
      rw [marks_append, hClosing.marks, Marks.or_none]
      exact hRun.verdict hOrdinary hSound hOpen

end Control

end Session

end SqlAccess
