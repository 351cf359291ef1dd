import SqlAccess.Proofs.Transaction.Course

/-
  This file shows that the timeline of a transaction is a
  course of it, whatever its client does, and that its calls
  are numbered in their order.

  Key definitions include:
    * `Session.Stands`
    * `Session.Advances`
    * `Session.numbers`
    * `Session.Growing`
    * `Transaction.sample`

  Key theorems include:
    * `Session.step_advances`
    * `Session.play_course`
    * `Session.play_growing`
    * `Transaction.begin_ok`
    * `Transaction.timeline_course`
-/

namespace SqlAccess

namespace Session

variable {allowed : Call → Prop}

------------------------------------------------------------
-- Sessions as Courses
------------------------------------------------------------

/- A session is where a standing says. -/
structure Stands
    (session : Session)
    (standing : Standing) : Prop where
  root : session.root.scope = .root
  nested :
    session.nested = standing.scopes.map Scope.nested
  pending :
    session.conn.pending =
      standing.pending.map Scope.undoSql
  used : standing.used ≤ session.conn.savepoints

section Stands

variable {session : Session} {standing : Standing}

/- The scope that a client uses has not ended. -/
theorem Stands.scope_active
    (hStands : Stands session standing) :
    session.scope.phase = .active := by
  rw [scope, hStands.nested]
  cases standing.scopes with
  | nil => simp [hStands.root, Scope.root]
  | cons name scopes => rfl

/- Where a session is when nothing is pending any more. -/
theorem Stands.cleared
    {conn : Connection}
    (hStands : Stands session standing)
    (hPending : conn.pending = [])
    (hUsed : session.conn.savepoints ≤ conn.savepoints)
    (failed : Bool) :
    Stands (session.withConn conn)
      ⟨standing.scopes, [], standing.used, failed⟩ :=
  ⟨hStands.root, hStands.nested, hPending,
    Nat.le_trans hStands.used hUsed⟩

variable {σ : Type}

/- What a move shows, and where it leaves the session. -/
def Advances
    (allowed : Call → Prop)
    (standing : Standing)
    (result : List Item × Option Session × Database σ) :
    Prop :=
  match result with
  | (items, some session, _) =>
      ∃ last, Run allowed standing items last ∧
        Stands session last
  | (items, none, _) =>
      ∃ body last closing, items = body ++ closing ∧
        Run allowed standing body last ∧
        Closing last closing

/- A statement advances the standing. -/
theorem run_advances
    (hStands : Stands session standing)
    (statement : Statement)
    (hAllowed : allowed statement.call)
    (db : Database σ) :
    Advances allowed standing
      (step (.run statement) session db) := by
  rcases statement.run_yields hStands.scope_active
      session.conn db with
    ⟨calls, hHeard, hLink, hPerformed, hSettled⟩
  rw [hStands.pending] at hPerformed
  have hLast :=
    hStands.cleared hSettled.pending
      (Nat.le_of_eq hSettled.savepoints.symm)
  simp only [step_run, callsSince_eq hHeard]
  rcases performed_run hPerformed
      (fun _ _ _ => Step.ran hAllowed)
      db.history.length with
    ⟨hOk, flush, number, hItems, hRun⟩ |
      ⟨hOk, broken, hBroken, hRun⟩
  · refine ⟨_, ?_, hLast standing.failed⟩
    rw [hItems]
    exact hRun.snoc (.ran hAllowed)
  · exact ⟨_, hRun, hLast broken⟩

/- A scope that begins advances the standing. -/
theorem begin_advances
    (hStands : Stands session standing)
    (db : Database σ) :
    Advances allowed standing (step .begin session db) := by
  rcases Scope.begin_yields hStands.scope_active
    session.conn
      db with
    ⟨calls, hHeard, hLink, hPerformed, hScope, hPending,
      hSavepoints⟩
  rw [hStands.pending] at hPerformed
  have hFresh :
      standing.used < session.conn.savepoints + 1 :=
    Nat.lt_succ_of_le hStands.used
  have hLater :
      session.conn.savepoints ≤
        ((session.scope.begin.run session.conn).run
          db).1.2.savepoints := by
    rw [hSavepoints]
    exact Nat.le_succ _
  have hCases :=
    risky_run allowed standing hPerformed
      (.savepoint hFresh) db.history.length
  simp only [step_begin, callsSince_eq hHeard]
  cases hResult :
      ((session.scope.begin.run session.conn).run
        db).1.1 with
  | ok scope =>
      rw [hResult] at hCases
      rcases hCases with
        ⟨-, flush, number, hItems, hRun⟩ | ⟨hOk, -⟩
      · simp only [hScope scope hResult, hItems,
          List.append_assoc]
        refine ⟨_, hRun.snoc (.began hFresh),
          hStands.root, ?_, hPending,
            Nat.le_of_eq hSavepoints.symm⟩
        exact congrArg (List.cons _) hStands.nested
      · cases hOk
  | error e =>
      rw [hResult] at hCases
      rcases hCases with ⟨hOk, -⟩ | ⟨-, hRun⟩
      · cases hOk
      · exact ⟨_, hRun,
          hStands.cleared hPending hLater true⟩

/- A nested scope that ends advances the standing. -/
theorem nested_advances
    {name : String}
    {scopes : List String}
    (hStands : Stands session standing)
    (hScopes : standing.scopes = name :: scopes)
    (ending : Ending)
    (db : Database σ) :
    Advances allowed standing
      (step (.finish ending) session db) := by
  rcases standing with ⟨_, pending, used, failed⟩
  subst hScopes
  rcases endNested_yields name ending session.conn db with
    ⟨calls, hHeard, hLink, hEnd⟩
  have hNested :
      session.nested =
        Scope.nested name :: scopes.map Scope.nested :=
    hStands.nested
  have hName : nameOf (Scope.nested name) = name := rfl
  simp only [step_finish_cons session db hNested,
    callsSince_eq hHeard, hName]
  have hFinal :
      ∀ conn : Connection,
        session.conn.Cleared conn → ∀ failed,
          Stands
            { session.withConn conn with
              nested := scopes.map Scope.nested }
            ⟨scopes, [], used, failed⟩ := by
    intro conn hCleared failed
    refine ⟨hStands.root, rfl, hCleared.pending, ?_⟩
    exact Nat.le_trans hStands.used
      (Nat.le_of_eq hCleared.savepoints.symm)
  cases ending with
  | commit =>
      rcases hEnd with ⟨hPerformed, hCleared⟩
      rw [hStands.pending] at hPerformed
      rcases risky_run allowed _ hPerformed .release
          db.history.length with
        ⟨hOk, flush, number, hItems, hRun⟩ |
          ⟨hOk, hRun⟩
      · rw [hOk, hItems, List.append_assoc]
        exact ⟨_, hRun.snoc .released,
          hFinal _ hCleared failed⟩
      · rw [hOk]
        exact ⟨_, hRun.snoc (.broken rfl),
          hFinal _ hCleared true⟩
  | rollback =>
      rcases hEnd with ⟨hPerformed, hCleared⟩
      rw [hStands.pending] at hPerformed
      rcases risky_run allowed _ hPerformed .undo
          db.history.length with
        ⟨hOk, flush, number, hItems, hRun⟩ |
          ⟨hOk, hRun⟩
      · rw [hOk, hItems, List.append_assoc]
        exact ⟨_, hRun.snoc .undone,
          hFinal _ hCleared failed⟩
      · rw [hOk]
        exact ⟨_, hRun.snoc (.broken rfl),
          hFinal _ hCleared true⟩
  | drop idle =>
      rcases hEnd with ⟨hOk, hConn, rfl⟩
      rw [hOk, hConn]
      refine ⟨_, Step.dropped.run, hStands.root, rfl, ?_,
        hStands.used⟩
      rw [List.map_append, ← hStands.pending]
      rfl

/- Numbered cancels are cancels. -/
private theorem numbered_cancels
    {calls : List (Call × Fate)}
    (hCancels : Use.OnlyCancels calls)
    {start : Nat}
    {item : Item}
    (hItem : item ∈ numbered start calls) :
    ∃ number fate,
      item = .called number .cancel fate := by
  induction calls generalizing start with
  | nil => cases hItem
  | cons entry calls ih =>
      rcases entry with ⟨call, fate⟩
      have hCall : call = .cancel :=
        hCancels (call, fate) (by simp)
      subst hCall
      rcases List.mem_cons.mp hItem with rfl | hLater
      · exact ⟨start, fate, rfl⟩
      · apply ih _ hLater
        intro entry hEntry
        exact hCancels entry (List.mem_cons_of_mem _ hEntry)

/- A transaction is rolled back, whatever was pending. -/
theorem rollback_closing
    {calls : List (Call × Fate)}
    {ok shown : Bool}
    {ending : Ending}
    (hPerformed :
      Use.Performed (.batch "ROLLBACK") [] calls ok)
    (hEnding : ending ≠ .commit)
    (hShown : ok = true → shown = true)
    (number : Nat)
    (pending : List String)
    (used : Nat)
    (failed : Bool) :
    Closing ⟨[], pending, used, failed⟩
      (numbered number calls ++
        [.closed ending shown]) := by
  cases hPerformed with
  | sent hSent =>
      cases hSent with
      | answered =>
          rw [hShown rfl]
          exact .rolledBack hEnding
      | failed hFate hCancels =>
          exact .refused hEnding hFate
            fun item => numbered_cancels hCancels
  | stuck hStuck =>
      rcases hStuck with
        ⟨before, sql, later, _, hNil, _⟩
      simp at hNil

/- The outermost scope that ends closes the session. -/
theorem root_advances
    (hStands : Stands session standing)
    (hScopes : standing.scopes = [])
    (ending : Ending)
    (db : Database σ) :
    Advances allowed standing
      (step (.finish ending) session db) := by
  rcases standing with ⟨_, pending, used, failed⟩
  rcases session with ⟨⟨scope, conn⟩, nested⟩
  subst hScopes
  have hNested : nested = [] := hStands.nested
  have hRoot : scope = .root := hStands.root
  have hPending :
      conn.pending = pending.map Scope.undoSql :=
    hStands.pending
  subst hNested hRoot
  rcases endRoot_heard conn ending db with
    ⟨calls, hHeard, hEnd⟩
  have hItems :
      callsSince db
          ((endRoot ⟨.root, conn⟩ ending).run db).2
          conn.link.id =
        numbered db.history.length calls :=
    callsSince_eq hHeard
  rw [step_finish_nil _ db rfl]
  simp only [Session.conn, hItems, Advances]
  match ending with
  | .commit =>
      rw [hPending] at hEnd
      rcases risky_run allowed
        ⟨[], pending, used, failed⟩
          hEnd .commit db.history.length with
        ⟨hOk, flush, number, hItems, hRun⟩ |
          ⟨hOk, hRun⟩
      · rw [hOk, hItems, List.append_assoc]
        exact ⟨_, _, _, rfl, hRun, .committed⟩
      · rw [hOk]
        exact ⟨_, _, _, rfl, hRun, .broken⟩
  | .rollback =>
      exact ⟨[], _, _, rfl, .nil,
        rollback_closing hEnd (by decide) id _ _ _ _⟩
  | .drop false =>
      rcases hEnd with ⟨hOk, ok, hPerformed⟩
      rw [hOk]
      exact ⟨[], _, _, rfl, .nil,
        rollback_closing hPerformed (by decide)
          (fun _ => rfl) _ _ _ _⟩
  | .drop true =>
      rcases hEnd with ⟨hOk, rfl⟩
      rw [hOk]
      exact ⟨[], _, _, rfl, .nil, .left⟩

/- Every move advances the standing of a session. -/
theorem step_advances
    (hStands : Stands session standing)
    (move : Move)
    (hAllowed :
      ∀ statement, move = .run statement →
        allowed statement.call)
    (db : Database σ) :
    Advances allowed standing (step move session db) := by
  cases move with
  | run statement =>
      exact run_advances hStands statement
        (hAllowed statement rfl) db
  | begin => exact begin_advances hStands db
  | finish ending =>
      cases hScopes : standing.scopes with
      | nil => exact root_advances hStands hScopes ending db
      | cons name scopes =>
          exact nested_advances hStands hScopes ending db

/-
  What a client makes of a transaction is a course of it.
-/
theorem play_course
    (hStands : Stands session standing)
    (moves : List Move)
    (hAllowed :
      ∀ statement, .run statement ∈ moves →
        allowed statement.call)
    (db : Database σ) :
    Course allowed standing (play moves session db) := by
  induction moves generalizing session standing db with
  | nil => exact .running .nil
  | cons move moves ih =>
      have hAdvances :
          Advances allowed standing
            (step move session db) :=
        step_advances hStands move
          (fun statement hMove =>
            hAllowed statement (by simp [hMove])) db
      rw [play]
      rcases hStep : step move session db with
        ⟨items, next, after⟩
      rw [hStep] at hAdvances
      cases next with
      | some session =>
          rcases hAdvances with ⟨last, hRun, hLast⟩
          refine hRun.course (ih hLast ?_ after)
          intro statement hMem
          exact hAllowed statement
            (List.mem_cons_of_mem _ hMem)
      | none =>
          rcases hAdvances with
            ⟨body, last, closing, rfl, hRun, hClosing⟩
          exact .ended hRun hClosing

------------------------------------------------------------
-- Numbers
------------------------------------------------------------

/- The numbers of the calls in a timeline. -/
def numbers (items : List Item) : List Nat :=
  items.filterMap fun
    | .called number _ _ => some number
    | _ => none

/- Two parts have the numbers of both. -/
theorem numbers_append (items later : List Item) :
    numbers (items ++ later) =
      numbers items ++ numbers later :=
  List.filterMap_append

/- Calls are numbered one after the other. -/
theorem numbers_numbered
    (start : Nat)
    (calls : List (Call × Fate)) :
    numbers (numbered start calls) =
      List.range' start calls.length := by
  induction calls generalizing start with
  | nil => rfl
  | cons entry calls ih =>
      exact congrArg (start :: ·) (ih (start + 1))

/-
  Numbers grow from one number on, and stay below another
  one.
-/
def Growing
    (start stop : Nat)
    (numbers : List Nat) :
    Prop :=
  start ≤ stop ∧ numbers.Pairwise (· < ·) ∧
    ∀ number ∈ numbers,
      start ≤ number ∧ number < stop

/- Numbers grow from part to part. -/
theorem Growing.append
    {start middle stop : Nat}
    {numbers later : List Nat}
    (hNumbers : Growing start middle numbers)
    (hLater : Growing middle stop later) :
    Growing start stop (numbers ++ later) := by
  rcases hNumbers with ⟨hStart, hSorted, hBounds⟩
  rcases hLater with ⟨hStop, hSortedLater, hBoundsLater⟩
  refine ⟨Nat.le_trans hStart hStop,
    List.pairwise_append.mpr
      ⟨hSorted, hSortedLater, ?_⟩, ?_⟩
  · intro number hNumber other hOther
    have := hBounds number hNumber
    have := hBoundsLater other hOther
    omega
  · intro number hNumber
    rcases List.mem_append.mp hNumber with hEarly | hLate
    · have := hBounds number hEarly
      omega
    · have := hBoundsLater number hLate
      omega

/- The numbers of calls lie between those of two states. -/
theorem growing_of_heard
    {id : Nat}
    {calls : List (Call × Fate)}
    {before after : Database σ}
    (hHeard : Database.Heard id calls before after) :
    Growing before.history.length after.history.length
      (numbers
        (numbered before.history.length calls)) := by
  have hLength := hHeard.length_le
  rw [numbers_numbered]
  refine ⟨by omega, List.pairwise_lt_range', ?_⟩
  intro number hNumber
  rw [List.mem_range'_1] at hNumber
  omega

/- The numbers of a step lie behind all earlier ones. -/
theorem step_growing
    (hStands : Stands session standing)
    (move : Move)
    (db : Database σ) :
    let result := step move session db
    Growing db.history.length result.2.2.history.length
      (numbers result.1) := by
  cases move with
  | run statement =>
      rcases statement.run_yields hStands.scope_active
          session.conn db with ⟨calls, hHeard, -⟩
      simp only [step_run, callsSince_eq hHeard]
      exact growing_of_heard hHeard
  | begin =>
      rcases Scope.begin_yields hStands.scope_active
          session.conn db with ⟨calls, hHeard, -⟩
      have hGrowing := growing_of_heard hHeard
      simp only [step_begin, callsSince_eq hHeard]
      split
      · simpa [numbers] using hGrowing
      · exact hGrowing
  | finish ending =>
      cases hScopes : standing.scopes with
      | nil =>
          have hNested : session.nested = [] := by
            simp [hStands.nested, hScopes]
          rcases session with
            ⟨⟨scope, conn⟩, nested⟩
          have hRoot : scope = .root := hStands.root
          subst hRoot
          rcases endRoot_heard conn ending db with
            ⟨calls, hHeard, -⟩
          have hGrowing := growing_of_heard hHeard
          rw [← callsSince_eq hHeard] at hGrowing
          rw [step_finish_nil _ db hNested]
          simpa [numbers, Session.conn] using hGrowing
      | cons name scopes =>
          have hNested :
              session.nested =
                Scope.nested name ::
                  scopes.map Scope.nested := by
            simp [hStands.nested, hScopes]
          rcases endNested_yields name ending
            session.conn db
            with ⟨calls, hHeard, -⟩
          have hGrowing := growing_of_heard hHeard
          rw [← callsSince_eq hHeard] at hGrowing
          rw [step_finish_cons _ db hNested]
          simpa [numbers] using hGrowing

/- The calls of a client are numbered in their order. -/
theorem play_growing
    (hStands : Stands session standing)
    (moves : List Move)
    (db : Database σ) :
    ∃ stop,
      Growing db.history.length stop
        (numbers (play moves session db)) := by
  induction moves generalizing session standing db with
  | nil =>
      exact ⟨_, Nat.le_refl _, .nil,
        by simp [numbers, play]⟩
  | cons move moves ih =>
      have hGrowing := step_growing hStands move db
      have hAdvances :
          Advances (fun _ => True) standing
            (step move session db) :=
        step_advances hStands move (fun _ _ => trivial) db
      rw [play]
      rcases hStep : step move session db with
        ⟨items, next, after⟩
      rw [hStep] at hGrowing hAdvances
      cases next with
      | some session =>
          rcases hAdvances with ⟨last, -, hLast⟩
          rcases ih hLast after with ⟨stop, hLater⟩
          refine ⟨stop, ?_⟩
          rw [numbers_append]
          exact hGrowing.append hLater
      | none => exact ⟨_, hGrowing⟩

end Stands

end Session

------------------------------------------------------------
-- Transactions that Have Begun
------------------------------------------------------------

variable {σ : Type}

/- A transaction that begins runs "BEGIN" last. -/
theorem Scope.beginOutermost_yields
    (conn : Connection)
    (db : Database σ) :
    Use.Yields Scope.beginOutermost conn db
      fun result used calls =>
        ∀ scope, result = .ok scope →
          scope = .root ∧ used.pending = [] ∧
            calls =
              Use.flushed conn.pending ++
                [(.batch "BEGIN", .done)] := by
  apply (Use.perform_yields (.batch "BEGIN") conn db).bind
  rintro result used calls db ⟨hPerformed, hSettled⟩
  cases result with
  | ok answer =>
      refine ⟨[], .of_history_eq rfl, rfl, ?_⟩
      rintro scope ⟨⟩
      refine ⟨rfl, hSettled.pending, ?_⟩
      rw [List.append_nil]
      cases hPerformed with
      | sent hSent =>
          cases hSent with
          | answered => rfl
  | error e =>
      apply Use.Yields.pure
      intro scope hOk
      cases hOk

namespace Transaction

/-
  A transaction that has begun is active with nothing
  pending, and "BEGIN" was the last call on its connection.
-/
theorem begin_ok
    {transaction : Transaction}
    {db begun : Database σ}
    (hBegin :
      Transaction.begin.run db = (.ok transaction, begun)) :
    transaction.scope = .root ∧
      transaction.conn.pending = [] ∧
      begun.history.findSome?
          (Event.callOn? transaction.conn.link.id) =
        some (.batch "BEGIN", .done) := by
  simp only [Transaction.begin, bind, StateT.bind,
    StateT.run] at hBegin
  cases hCheckout : Act.checkout Role.primary db with
  | mk result opened =>
  rw [hCheckout] at hBegin
  cases result with
  | error e => cases hBegin
  | ok conn =>
      rcases Scope.beginOutermost_yields conn opened with
        ⟨calls, hHeard, hLink, hRoot⟩
      simp only [StateT.run] at hHeard hLink hRoot
      cases hBegun : Scope.beginOutermost conn opened with
      | mk run after =>
      rcases run with ⟨result, used⟩
      rw [hBegun] at hHeard hLink hRoot
      simp only [StateT.bind, bind, hBegun] at hBegin
      cases result with
      | error e => cases hBegin
      | ok scope =>
          cases hBegin
          rcases hRoot scope rfl with
            ⟨hScope, hPending, rfl⟩
          rw [← hLink] at hHeard
          exact ⟨hScope, hPending, hHeard.latest⟩

/-
  The timeline of a transaction is a course from its begin.
-/
theorem timeline_course
    {allowed : Call → Prop}
    {transaction : Transaction}
    {db begun : Database σ}
    (hBegin :
      Transaction.begin.run db = (.ok transaction, begun))
    (moves : List Session.Move)
    (hAllowed :
      ∀ statement, .run statement ∈ moves →
        allowed statement.call) :
    Session.Course allowed .fresh
      (transaction.timeline moves begun) := by
  rcases begin_ok hBegin with
    ⟨hScope, hPending, hLatest⟩
  have hStands :
      Session.Stands ⟨transaction, []⟩ .fresh :=
    ⟨hScope, rfl, hPending, Nat.zero_le _⟩
  exact Session.play_course hStands moves hAllowed begun

end Transaction

------------------------------------------------------------
-- Sample Transactions
------------------------------------------------------------

/- A plain answer to a call. -/
def Call.plainAnswer : (call : Call) → call.Answer
  | .batch _ => ()
  | .select _ => ⟨[], []⟩
  | .dml _ => 0
  | .ping => ()
  | .cancel => ()

/-
  A backend that counts its calls and fails some of them.
-/
def Backend.failing (faults : List Nat) : Backend Nat where
  kind := .sqlite
  style := .numbered
  cancellable := true
  connect _ count := (.done (), count)
  perform _ call count :=
    (if count ∈ faults then .failed (.query "" "no")
      else .done call.plainAnswer,
      count + 1)

namespace Transaction

/- A database with such a backend before any call. -/
def sampleDatabase (faults : List Nat) : Database Nat :=
  .new (.new .sqlite "p") (.failing faults) 0

/- The first transaction on it. -/
def sample : Transaction :=
  ⟨.root,
    ⟨⟨1, "p"⟩, .primary, true, true, [], 0,
      false⟩⟩

/- The database where the transaction has begun. -/
def sampleBegun (faults : List Nat) : Database Nat :=
  (Transaction.begin.run (sampleDatabase faults)).2

end Transaction

end SqlAccess
