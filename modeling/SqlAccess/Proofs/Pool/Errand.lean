import SqlAccess.Proofs.Pool.Engagement

/-
  This file takes the use of a connection apart where other
  clients may come in between: before each call that it
  makes.  Put together again, the parts are the uses of the
  library.

  Key definitions include:
    * `Aim`
    * `Errand`
    * `Activity`
    * `Errand.advance`
    * `Handling.prepare`

  Key theorems include:
    * `Errand.complete_eq`
    * `Handling.carryOut_eq`
-/

namespace SqlAccess

variable {σ : Type}

------------------------------------------------------------
-- Errands
------------------------------------------------------------

/-
  What a statement is run for: its own sake, or to begin or
  end a scope.  It says what the connection is engaged in
  afterwards.
-/
inductive Aim
  | run (statement : Session.Statement)
    (engagement : Engagement)
  | begin
  | nest (name : String) (scope : Scope)
    (outer : List Scope)
  | commit (scope : Scope) (next : Engagement)
  | rollback (scope : Scope) (next : Engagement)

namespace Aim

/- The call that is made in the end. -/
def call : Aim → Call
  | run statement _ => statement.call
  | begin => .batch "BEGIN"
  | nest name _ _ => .batch (Scope.savepointSql name)
  | commit scope _ => .batch scope.commitSql
  | rollback scope _ => .batch scope.rollbackSql

/- End a scope, or rely on the connection no longer. -/
def concludeEnd
    (scope : Scope)
    (next : Engagement)
    (ok : Bool) : Use σ Engagement := do
  if ok then
    if !scope.isNested then Use.setInside false
  else
    Use.spoil
  return next

/- What follows from the success or failure of the call. -/
def conclude : Aim → Bool → Use σ Engagement
  | run _ engagement, _ => return engagement
  | begin, true => do
      Use.setInside true
      return .inside .root []
  | begin, false => return .free
  | nest name scope outer, true =>
      return .inside (.nested name) (scope :: outer)
  | nest _ scope outer, false => return .inside scope outer
  | commit scope next, ok => concludeEnd scope next ok
  | rollback scope next, ok => concludeEnd scope next ok

/-
  Go on to the end if all that was pending has succeeded.
-/
def goOn
    (aim : Aim) : Except Error Unit → Use σ Engagement
  | .ok () => do
      let result ← Use.dispatch aim.call
      aim.conclude result.isOk
  | .error _ => aim.conclude false

end Aim

/-
  Statements that a connection has to run one by one: what
  was pending, and then the one that a client wants to run.
-/
structure Errand where
  pending : List String
  aim : Aim

/- The calls of an errand, in order. -/
def Errand.calls (errand : Errand) : List Call :=
  errand.pending.map Call.batch ++ [errand.aim.call]

/-
  A connection is engaged in something, or is on an errand.
-/
inductive Activity
  | resting (engagement : Engagement)
  | working (errand : Errand)

/- The calls that are still to be made. -/
def Activity.calls : Activity → List Call
  | resting _ => []
  | working errand => errand.calls

namespace Errand

/-
  Run the next statement of an errand.  If one that was
  pending fails, the connection is not relied on, and
  nothing more is run.
-/
def advance (errand : Errand) : Use σ Activity := do
  match errand.pending with
  | sql :: rest =>
      match ← Use.dispatch (.batch sql) with
      | .ok _ =>
          return .working { errand with pending := rest }
      | .error _ =>
          Use.spoil
          return .resting (← errand.aim.conclude false)
  | [] =>
      let result ← Use.dispatch errand.aim.call
      return .resting (← errand.aim.conclude result.isOk)

/- Run some pending statements, and then that of an aim. -/
def runAll
    (aim : Aim) : List String → Use σ Engagement
  | sql :: rest => do
      match ← Use.dispatch (.batch sql) with
      | .ok _ => runAll aim rest
      | .error _ =>
          Use.spoil
          aim.conclude false
  | [] => do
      let result ← Use.dispatch aim.call
      aim.conclude result.isOk

/- Run all statements of an errand. -/
def complete (errand : Errand) : Use σ Engagement :=
  runAll errand.aim errand.pending

end Errand

/- Go on to the end. -/
def Activity.complete : Activity → Use σ Engagement
  | resting engagement => return engagement
  | working errand => errand.complete

/- An errand is completed statement by statement. -/
theorem Errand.complete_eq (errand : Errand) :
    (errand.complete : Use σ Engagement) =
      errand.advance >>= Activity.complete := by
  rcases errand with ⟨pending, aim⟩
  cases pending with
  | nil =>
      simp [complete, runAll, advance, Activity.complete]
  | cons sql rest =>
      simp only [complete, runAll, advance, bind_assoc]
      congr 1
      funext result
      cases result with
      | ok answer => simp [Activity.complete, complete]
      | error e => simp [Activity.complete]

------------------------------------------------------------
-- Handlings as Errands
------------------------------------------------------------

namespace Handling

/- Set out on an errand, with what is pending so far. -/
def submit (aim : Aim) : Use σ Activity := do
  let pending ← Use.takePending
  return .working ⟨pending, aim⟩

/- Set out on an errand if a scope has not ended. -/
def submitWithin
    (scope : Scope)
    (aim : Aim)
    (otherwise : Engagement) : Use σ Activity :=
  if scope.phase = .active then submit aim
  else return .resting otherwise

/-
  Set out to roll a scope back.  With a whole transaction
  all that is pending goes, too.
-/
def prepareRollback
    (scope : Scope)
    (next : Engagement) : Use σ Activity :=
  if scope.phase = .active then do
    if !scope.isNested then Use.forgetPending
    submit (.rollback scope next)
  else return .resting next

/- What is left when the innermost scope has ended. -/
def outside : List Scope → Engagement
  | [] => .free
  | parent :: outer => .inside parent outer

/-
  Do something with a connection up to its first call.  What
  makes no call, or only asks for a sign of life, is done.
-/
def prepare : Handling → Engagement → Use σ Activity
  | run statement, .free => submit (.run statement .free)
  | run statement, .inside scope outer =>
      submitWithin scope
        (.run statement (.inside scope outer))
        (.inside scope outer)
  | begin, .free => submit .begin
  | begin, .inside scope outer =>
      if scope.phase = .active then do
        let name ← Scope.freshSavepoint
        submit (.nest name scope outer)
      else return .resting (.inside scope outer)
  | finish .commit, .inside scope outer =>
      submitWithin scope (.commit scope (outside outer))
        (outside outer)
  | finish .rollback, .inside scope outer =>
      prepareRollback scope (outside outer)
  | undo, .abandoned => submit (.rollback .root .free)
  | ping, .free => do
      let _ ← Use.ping
      return .resting .free
  | spoil, .free => do
      Use.spoil
      return .resting .free
  | finish (.drop idle), .inside scope [] => do
      return .resting (← endOutermost scope (.drop idle))
  | finish (.drop _), .inside scope (parent :: outer) => do
      let _ ← scope.abandon
      return .resting (.inside parent outer)
  | _, engagement => return .resting engagement

end Handling

/- What was pending comes first, and then the rest. -/
theorem Errand.runAll_eq
    (aim : Aim)
    (pending : List String) :
    (runAll aim pending : Use σ Engagement) =
      Use.flushAll pending >>= aim.goOn := by
  induction pending with
  | nil => simp [runAll, Use.flushAll, Aim.goOn]
  | cons sql rest ih =>
      simp only [runAll, Use.flushAll, bind_assoc]
      congr 1
      funext result
      cases result with
      | ok answer => exact ih
      | error e => simp [Aim.goOn]

/-
  A statement with what is pending before it is an errand,
  whatever its success means.
-/
theorem Errand.submit_complete (aim : Aim) :
    (Handling.submit aim >>= Activity.complete :
      Use σ Engagement) =
      Use.perform aim.call >>= fun result =>
        aim.conclude result.isOk := by
  simp only [Handling.submit, Use.perform, Use.flush,
    bind_assoc, pure_bind, Activity.complete, complete]
  congr 1
  funext pending
  rw [runAll_eq]
  congr 1
  funext result
  cases result with
  | ok _ => rfl
  | error e => simp [Aim.goOn, Except.isOk, Except.toBool]

namespace Handling

/-
  To submit something in a scope and complete it is to run
  it, if the scope is active.
-/
theorem submitWithin_complete
    (scope : Scope)
    (aim : Aim)
    (otherwise : Engagement) :
    (submitWithin scope aim otherwise >>=
      Activity.complete :
      Use σ Engagement) =
      if scope.phase = .active then
        Use.perform aim.call >>= fun result =>
          aim.conclude result.isOk
      else return otherwise := by
  unfold submitWithin
  split
  · exact Errand.submit_complete aim
  · simp [Activity.complete]

/-
  A statement in a scope, with the scope's engagement after.
-/
theorem run_eq
    (statement : Session.Statement)
    (scope : Scope)
    (outer : List Scope) :
    (do
      let _ ← statement.run scope
      return .inside scope outer : Use σ Engagement) =
      if scope.phase = .active then
        Use.perform statement.call >>= fun _ =>
          pure (.inside scope outer)
      else return .inside scope outer := by
  cases statement <;>
  by_cases hActive : scope.phase = .active <;>
  simp [Session.Statement.run, Scope.executor,
    Scope.whileActive, hActive, Session.Statement.call,
    Use.select, Use.dml, Use.batch]

/- The end of a scope, with what is left after it. -/
theorem finish_eq
    (scope : Scope)
    (sql : String)
    (phase : Phase)
    (next : Engagement) :
    (do
      let _ ← scope.finish sql phase
      return next : Use σ Engagement) =
      Use.perform (.batch sql) >>= fun result =>
        Aim.concludeEnd scope next result.isOk := by
  simp only [Scope.finish, Use.batch, bind_assoc]
  congr 1
  funext result
  cases result with
  | ok _ =>
      cases hNested : scope.isNested <;>
      simp [Aim.concludeEnd, hNested, Except.isOk,
        Except.toBool]
  | error e =>
      simp [Aim.concludeEnd, Except.isOk, Except.toBool]

/- A commit is submitted and then completed. -/
theorem commit_eq
    (scope : Scope)
    (next : Engagement) :
    (do
      let _ ← scope.commit
      return next : Use σ Engagement) =
      submitWithin scope (.commit scope next) next >>=
        Activity.complete := by
  rw [submitWithin_complete]
  unfold Scope.commit
  split
  · exact finish_eq scope scope.commitSql .committed next
  · simp

/- A rollback is prepared and then completed. -/
theorem rollback_eq
    (scope : Scope)
    (next : Engagement) :
    (do
      let _ ← scope.rollback
      return next : Use σ Engagement) =
      prepareRollback scope next >>= Activity.complete := by
  have hFinish :
      (do
        let _ ← scope.finish scope.rollbackSql .rolledBack
        return next : Use σ Engagement) = _ :=
    finish_eq scope scope.rollbackSql .rolledBack next
  unfold Scope.rollback prepareRollback
  by_cases hActive : scope.phase = .active
  · simp only [hActive, if_true]
    cases hNested : scope.isNested with
    | true =>
        simp only [Bool.not_true, Bool.false_eq_true,
          if_false]
        rw [Errand.submit_complete]
        exact hFinish
    | false =>
        simp only [Bool.not_false, if_true, bind_assoc]
        congr 1
        funext _
        rw [Errand.submit_complete]
        exact hFinish
  · simp [hActive, Activity.complete]

/-
  What the library does with a connection is what happens up
  to the first call, and then the errand to its end.
-/
theorem carryOut_eq
    (handling : Handling)
    (engagement : Engagement) :
    (handling.carryOut engagement : Use σ Engagement) =
      handling.prepare engagement >>=
        Activity.complete := by
  fun_cases carryOut handling engagement
  case case1 statement =>
    simp only [prepare]
    rw [Errand.submit_complete]
    cases statement <;>
    simp [runFree, Use.executor, Aim.call, Aim.conclude,
      Session.Statement.call, Use.select, Use.dml,
      Use.batch]
  case case2 statement scope outer =>
    simp only [prepare]
    rw [submitWithin_complete]
    exact run_eq statement scope outer
  case case3 => simp [prepare, Activity.complete]
  case case4 => simp [prepare, Activity.complete]
  case case5 =>
    simp only [prepare]
    rw [Errand.submit_complete]
    simp only [Scope.beginOutermost, Use.batch, bind_assoc,
      Aim.call]
    congr 1
    funext result
    cases result <;>
    simp [Aim.conclude, Except.isOk, Except.toBool]
  case case6 scope outer =>
    simp only [prepare, Scope.begin, Scope.whileActive]
    split
    · simp only [bind_assoc]
      congr 1
      funext name
      rw [Errand.submit_complete]
      simp only [Use.batch, Aim.call]
      congr 1
      funext result
      cases result <;>
      simp [Aim.conclude, Except.isOk, Except.toBool]
    · simp [Activity.complete]
  case case7 ending scope =>
    cases ending with
    | commit => exact commit_eq scope .free
    | rollback => exact rollback_eq scope .free
    | drop idle => simp [prepare, Activity.complete]
  case case8 ending scope parent outer =>
    cases ending with
    | commit =>
        simp only [Session.endNested, bind_assoc, pure_bind]
        exact commit_eq scope (.inside parent outer)
    | rollback =>
        simp only [Session.endNested, bind_assoc, pure_bind]
        exact rollback_eq scope (.inside parent outer)
    | drop idle =>
        simp [prepare, Session.endNested, Activity.complete]
  case case9 =>
    simp only [prepare]
    rw [Errand.submit_complete]
    simp only [Scope.rollbackAbandoned, Use.batch,
      bind_assoc, Aim.call]
    congr 1
    funext result
    cases result <;>
    simp [Aim.conclude, Aim.concludeEnd, Scope.isNested,
      Scope.root, Except.isOk, Except.toBool]
  case case10 hRun hWithin hPing hSpoil hBegin hNest hLast
      hInner hUndo =>
    cases handling with
    | finish ending =>
        cases engagement with
        | free => simp [prepare, Activity.complete]
        | abandoned => simp [prepare, Activity.complete]
        | inside scope outer =>
            cases outer with
            | nil => exact (hLast ending scope rfl rfl).elim
            | cons parent outer =>
                exact
                  (hInner ending scope parent outer
                    rfl rfl).elim
    | _ =>
        cases engagement <;>
        simp_all [prepare, Activity.complete]

end Handling

end SqlAccess
