import SqlAccess.Proofs.Pool.Clients

/-
  This file says what a client can make of a connection that
  it holds.  Whatever fails on the way, a connection that
  ends up outside of a transaction and is still relied on
  has no transaction open in its session.

  Key definitions include:
    * `Scope.Nesting`
    * `Engagement.Fits`

  Key theorems include:
    * `Handling.carryOut_careful`
    * `Handling.carryOut_yields`
-/

namespace SqlAccess

variable {σ : Type}

------------------------------------------------------------
-- Careful Uses
------------------------------------------------------------

namespace Scope

/-
  Work in a scope is careful, whether it has ended or not.
-/
theorem whileActive_careful
    {α : Type}
    (scope : Scope)
    {use : Use σ (Except Error α)}
    (hUse : Use.Careful use) :
    Use.Careful (scope.whileActive use) := by
  unfold whileActive
  split
  · exact hUse
  · exact .pure _

/- A transaction is begun with care. -/
theorem beginOutermost_careful :
    Use.Careful
      (beginOutermost : Use σ (Except Error Scope)) := by
  apply (Use.perform_careful (.batch "BEGIN")).bind
  intro result
  cases result with
  | ok _ =>
      exact (Use.Careful.setInside true).bind fun _ =>
        .pure _
  | error e => exact .pure _

/- A scope is begun with care. -/
theorem begin_careful (parent : Scope) :
    Use.Careful
      (parent.begin : Use σ (Except Error Scope)) := by
  have hFresh :
      Use.Careful (freshSavepoint : Use σ String) := by
    refine ⟨fun _ db => ⟨rfl, .refl db⟩, ?_⟩
    intro conn db
    refine ⟨[], .of_history_eq rfl, rfl, ?_⟩
    intro hRelied
    exact ⟨⟨hRelied.healthy, hRelied.answered⟩,
      by simp⟩
  apply parent.whileActive_careful
  apply hFresh.bind
  intro name
  apply (Use.perform_careful _).bind
  intro result
  cases result with
  | ok _ => exact .pure _
  | error e => exact .pure _

/- However a scope is finished, care is taken. -/
theorem finish_careful
    (scope : Scope)
    (sql : String)
    (phase : Phase) :
    Use.Careful
      (scope.finish sql phase :
        Use σ (Except Error Unit × Scope)) := by
  apply (Use.perform_careful (.batch sql)).bind
  intro result
  cases result with
  | ok _ =>
      cases hNested : scope.isNested with
      | true => exact .pure _
      | false =>
          exact (Use.Careful.setInside false).bind
            fun _ => .pure _
  | error e => exact Use.Careful.spoil.bind fun _ => .pure _

theorem commit_careful (scope : Scope) :
    Use.Careful
      (scope.commit :
        Use σ (Except Error Unit × Scope)) := by
  unfold commit
  split
  · exact scope.finish_careful _ _
  · exact .pure _

theorem rollback_careful (scope : Scope) :
    Use.Careful
      (scope.rollback :
        Use σ (Except Error Unit × Scope)) := by
  unfold rollback
  split
  · cases hNested : scope.isNested with
    | true => exact scope.finish_careful _ _
    | false =>
        exact Use.Careful.forgetPending.bind
          fun _ => scope.finish_careful _ _
  · exact .pure _

/-
  A scope that is dropped defers its rollback, or spoils the
  connection.
-/
theorem abandon_careful (scope : Scope) :
    Use.Careful (scope.abandon : Use σ Scope) := by
  unfold abandon
  split
  · split
    · exact (Use.Careful.defer _).bind fun _ => .pure _
    · exact Use.Careful.forgetPending.bind fun _ => .pure _
  · exact .pure _

/-
  A transaction that was left behind is undone with care.
-/
theorem rollbackAbandoned_careful :
    Use.Careful (rollbackAbandoned : Use σ Unit) := by
  apply (Use.perform_careful (.batch "ROLLBACK")).bind
  intro result
  cases result with
  | ok _ => exact .setInside false
  | error e => exact .spoil

end Scope

namespace Handling

/- Statements outside of transactions take care. -/
theorem runFree_careful (statement : Session.Statement) :
    Use.Careful (runFree statement : Use σ Bool) := by
  cases statement with
  | select intent statement =>
      exact (Use.perform_careful (.select statement)).bind
        fun _ => .pure _
  | dml statement =>
      exact (Use.perform_careful (.dml statement)).bind
        fun _ => .pure _
  | batch sql =>
      exact (Use.perform_careful (.batch sql)).bind
        fun _ => .pure _

/- Statements in a scope take care. -/
theorem run_careful
    (statement : Session.Statement)
    (scope : Scope) :
    Use.Careful (statement.run scope : Use σ Bool) := by
  cases statement with
  | select intent statement =>
      exact (scope.whileActive_careful
        (Use.perform_careful (.select statement))).bind
          fun _ => .pure _
  | dml statement =>
      exact (scope.whileActive_careful
        (Use.perform_careful (.dml statement))).bind
          fun _ => .pure _
  | batch sql =>
      exact (scope.whileActive_careful
        (Use.perform_careful (.batch sql))).bind
          fun _ => .pure _

theorem endNested_careful
    (scope : Scope)
    (ending : Session.Ending) :
    Use.Careful
      (Session.endNested scope ending : Use σ Bool) := by
  cases ending with
  | commit =>
      exact scope.commit_careful.bind fun _ => .pure _
  | rollback =>
      exact scope.rollback_careful.bind fun _ => .pure _
  | drop idle =>
      exact scope.abandon_careful.bind fun _ => .pure _

/- However a transaction ends, care is taken. -/
theorem endOutermost_careful
    (scope : Scope)
    (ending : Session.Ending) :
    Use.Careful
      (endOutermost scope ending : Use σ Engagement) := by
  match ending with
  | .commit =>
      exact scope.commit_careful.bind fun _ => .pure _
  | .rollback =>
      exact scope.rollback_careful.bind fun _ => .pure _
  | .drop false =>
      exact scope.abandon_careful.bind fun _ => .pure _
  | .drop true =>
      apply scope.abandon_careful.bind
      intro _
      exact Use.Careful.spoil.bind fun _ => .pure _

/- However a connection is handled, care is taken. -/
theorem carryOut_careful
    (handling : Handling)
    (engagement : Engagement) :
    Use.Careful
      (handling.carryOut engagement :
        Use σ Engagement) := by
  fun_cases carryOut handling engagement
  case case1 statement =>
    exact (runFree_careful statement).bind fun _ => .pure _
  case case2 statement scope outer =>
    exact (run_careful statement scope).bind fun _ =>
      .pure _
  case case3 =>
    exact Use.ping_careful.bind fun _ => .pure _
  case case4 =>
    exact Use.Careful.spoil.bind fun _ => .pure _
  case case5 =>
    apply Scope.beginOutermost_careful.bind
    intro result
    cases result with
    | ok scope => exact .pure _
    | error e => exact .pure _
  case case6 scope outer =>
    apply scope.begin_careful.bind
    intro result
    cases result with
    | ok inner => exact .pure _
    | error e => exact .pure _
  case case7 ending scope =>
    exact endOutermost_careful scope ending
  case case8 ending scope parent outer =>
    exact (endNested_careful scope ending).bind fun _ =>
      .pure _
  case case9 =>
    exact Scope.rollbackAbandoned_careful.bind fun _ =>
      .pure _
  case case10 => exact .pure _

end Handling

------------------------------------------------------------
-- Staying in a Transaction
------------------------------------------------------------

namespace Use

variable {α β : Type}

/-
  After a use, a connection is inside of a transaction if
  and only if it was before.
-/
def Stays (use : Use σ α) : Prop :=
  ∀ (conn : Connection) (db : Database σ),
    Yields use conn db fun _ used _ =>
      used.inTransaction = conn.inTransaction

namespace Stays

theorem pure (a : α) : Stays (pure a : Use σ α) :=
  fun _ _ => Yields.pure rfl

/- A use stays inside or outside step by step. -/
theorem bind
    {use : Use σ α}
    {next : α → Use σ β}
    (hUse : Stays use)
    (hNext : ∀ a, Stays (next a)) :
    Stays (use >>= next) := by
  intro conn db
  apply (hUse conn db).bind
  intro a used _ after hUsed
  apply (hNext a used after).mono
  intro _ last _ hLast
  exact hLast.trans hUsed

/- No statement begins or ends a transaction by itself. -/
theorem perform (call : Call) :
    Stays
      (perform call :
        Use σ (Except Error call.Answer)) := by
  intro conn db
  apply (perform_yields call conn db).mono
  intro _ used _ hPerformed
  exact hPerformed.2.inTransaction

theorem spoil : Stays (spoil : Use σ Unit) :=
  fun _ _ => Yields.modify rfl rfl

end Stays

end Use

namespace Scope

/- A scope in a transaction is begun inside of it. -/
theorem begin_stays
    {parent : Scope}
    (hActive : parent.phase = .active) :
    Use.Stays
      (parent.begin : Use σ (Except Error Scope)) := by
  have hFresh :
      Use.Stays (freshSavepoint : Use σ String) :=
    fun _ _ => ⟨[], .of_history_eq rfl, rfl, rfl⟩
  simp only [begin, whileActive, hActive, if_true]
  apply hFresh.bind
  intro name
  apply (Use.Stays.perform _).bind
  intro result
  cases result with
  | ok _ => exact .pure _
  | error e => exact .pure _

/-
  The end of a nested scope does not end the transaction.
-/
theorem finish_nested_stays
    (name : String)
    (sql : String)
    (phase : Phase) :
    Use.Stays
      ((nested name).finish sql phase :
        Use σ (Except Error Unit × Scope)) := by
  apply (Use.Stays.perform (.batch sql)).bind
  intro result
  cases result with
  | ok _ => exact .pure _
  | error e => exact Use.Stays.spoil.bind fun _ => .pure _

end Scope

/-
  The end of a nested scope is not that of its transaction.
-/
theorem Session.endNested_stays
    (name : String)
    (ending : Session.Ending) :
    Use.Stays
      (Session.endNested (.nested name) ending :
        Use σ Bool) := by
  cases ending with
  | commit =>
      exact (Scope.finish_nested_stays name _ _).bind
        fun _ => .pure _
  | rollback =>
      exact (Scope.finish_nested_stays name _ _).bind
        fun _ => .pure _
  | drop idle =>
      exact fun _ _ =>
        ⟨[], .of_history_eq rfl, rfl, rfl⟩

------------------------------------------------------------
-- Engagements
------------------------------------------------------------

/-
  An active scope is the outermost one, or it has a
  savepoint and is nested in another active scope.
-/
inductive Scope.Nesting : Scope → List Scope → Prop
  | outermost : Nesting .root []
  | inner {name parent outer}
      (hOuter : Nesting parent outer) :
      Nesting (.nested name) (parent :: outer)

/- The innermost scope is active. -/
theorem Scope.Nesting.active
    {scope : Scope}
    {outer : List Scope}
    (hNesting : Nesting scope outer) :
    scope.phase = .active := by
  cases hNesting <;> rfl

/-
  What a connection is engaged in fits the connection and
  its session.  Statements are pending only inside of a
  transaction.
-/
def Engagement.Fits
    (conn : Connection)
    (isOpen : Bool) : Engagement → Prop
  | free =>
      conn.pending = [] ∧
        (conn.Relied →
          conn.inTransaction = false → isOpen = false)
  | inside scope outer =>
      scope.Nesting outer ∧ conn.inTransaction = true
  | abandoned => conn.pending = []

namespace Engagement

variable {conn used : Connection}
variable {isOpen : Bool} {calls : List (Call × Fate)}

/- Nothing is promised of a connection not relied on. -/
theorem fits_free_of_not_relied
    (hPending : used.pending = [])
    (hRelied : ¬ used.Relied) :
    free.Fits used isOpen :=
  ⟨hPending, fun hUsed => absurd hUsed hRelied⟩

/- A use that leaves the session as it was. -/
theorem Fits.free_of_cautious
    (hFits : free.Fits conn isOpen)
    (hPending : used.pending = [])
    (hInside : used.inTransaction = conn.inTransaction)
    (hCautious : Use.Cautious conn used calls)
    (hOpen :
      used.Relied →
        Call.openAfter isOpen calls = isOpen) :
    free.Fits used (Call.openAfter isOpen calls) := by
  refine ⟨hPending, ?_⟩
  intro hRelied hOutside
  rw [hOpen hRelied]
  apply hFits.2 (hCautious hRelied).1
  rw [← hInside, hOutside]

end Engagement

namespace Handling

variable {isOpen : Bool}
variable (conn : Connection) (db : Database σ)

/- A statement and what the connection knows about it. -/
theorem perform_cautious_yields (call : Call) :
    Use.Yields (Use.perform call) conn db
      fun result used calls =>
        (Use.Performed call conn.pending calls
          result.isOk ∧
          Use.Settled conn used) ∧
          Use.Cautious conn used calls :=
  (Use.perform_yields call conn db).and
    ((Use.perform_careful call).cautious conn db)

/-
  Outside of transactions, a statement that is ordinary
  leaves none open.
-/
theorem runFree_yields
    {statement : Session.Statement}
    (hOrdinary : statement.call.isControl = false)
    (hFits : Engagement.free.Fits conn isOpen) :
    Use.Yields (runFree statement) conn db
      fun _ used calls =>
        Engagement.free.Fits used
          (Call.openAfter isOpen calls) := by
  have hPerform :
      ∀ call : Call, call.isControl = false →
        Use.Yields (do return (← Use.perform call).isOk)
          conn db fun _ used calls =>
            Engagement.free.Fits used
              (Call.openAfter isOpen calls) := by
    intro call hCall
    apply (perform_cautious_yields conn db call).bind
    intro result used calls after hPerformed
    rcases hPerformed with
      ⟨⟨hPerformed, hSettled⟩, hCautious⟩
    apply Use.Yields.pure
    rw [List.append_nil]
    apply hFits.free_of_cautious hSettled.pending
      hSettled.inTransaction hCautious
    intro _
    rw [hFits.1] at hPerformed
    rcases Call.openAfter_of_performed hPerformed
      isOpen with
      ⟨fate, -, -, hOpen⟩
    rw [hOpen, Call.leavesOpen_of_ordinary hCall]
  cases statement with
  | select intent statement =>
      exact hPerform (.select statement) hOrdinary
  | dml statement =>
      exact hPerform (.dml statement) hOrdinary
  | batch sql => exact hPerform (.batch sql) hOrdinary

/- A sign of life is one call and settles nothing. -/
theorem ping_kept :
    Use.Yields Use.ping conn db fun _ used calls =>
      conn.Kept used ∧ ∃ fate,
        calls = [(.ping, fate)] := by
  apply (Use.ask_yields .ping conn db).bind
  rintro reply conn _ db ⟨rfl, rfl⟩
  cases reply with
  | done answer =>
      exact Use.Yields.pure ⟨.refl conn, _, rfl⟩
  | failed e =>
      by_cases hSpoils : e.spoilsConnection
      · simp only [hSpoils, if_true]
        apply (Use.condemn_yields conn db).bind
        rintro _ _ _ db ⟨rfl, rfl⟩
        exact Use.Yields.pure ⟨.spoil conn, _, rfl⟩
      · simp only [hSpoils]
        exact Use.Yields.pure ⟨.refl conn, _, rfl⟩
  | silent =>
      exact ⟨[], .of_history_eq rfl, rfl,
        ⟨rfl, rfl, rfl, rfl, rfl⟩, _, rfl⟩

/- A sign of life opens no transaction. -/
theorem ping_yields
    (hFits : Engagement.free.Fits conn isOpen) :
    Use.Yields Use.ping conn db fun _ used calls =>
      Engagement.free.Fits used
        (Call.openAfter isOpen calls) := by
  apply
    ((ping_kept conn db).and
      (Use.ping_careful.cautious conn db)).mono
  rintro _ used _ ⟨⟨hKept, fate, rfl⟩, hCautious⟩
  apply hFits.free_of_cautious
  · exact hKept.pending.trans hFits.1
  · exact hKept.inTransaction
  · exact hCautious
  · intro _
    rfl

/- A transaction begins, or the session is as it was. -/
theorem beginOutermost_yields
    (hFits : Engagement.free.Fits conn isOpen) :
    Use.Yields Scope.beginOutermost conn db
      fun result used calls =>
        match result with
        | .ok scope =>
            (Engagement.inside scope []).Fits used
            (Call.openAfter isOpen calls)
        | .error _ => Engagement.free.Fits used
            (Call.openAfter isOpen calls) := by
  apply (perform_cautious_yields conn db _).bind
  intro result used calls after hPerformed
  rcases hPerformed with
    ⟨⟨hPerformed, hSettled⟩, hCautious⟩
  cases result with
  | ok _ =>
      exact ⟨[], .of_history_eq rfl, rfl, .outermost,
        rfl⟩
  | error e =>
      apply Use.Yields.pure
      rw [List.append_nil]
      apply hFits.free_of_cautious hSettled.pending
        hSettled.inTransaction hCautious
      intro hRelied
      rw [hFits.1] at hPerformed
      rcases Call.openAfter_of_performed hPerformed
        isOpen with
        ⟨fate, hMem, hDone, hOpen⟩
      have hHarmless := (hCautious hRelied).2 _ hMem
      rw [hOpen]
      simp_all [Call.leavesOpen, Call.commands?_begin,
        Command.leavesOpen, Except.isOk, Except.toBool]

/- A scope that cannot be ended spoils its connection. -/
theorem finish_unrelied
    (scope : Scope)
    (sql : String)
    (phase : Phase) :
    Use.Yields (scope.finish sql phase) conn db
      fun result used _ =>
        result.1.isOk = false → ¬ used.Relied := by
  apply (Use.perform_yields (.batch sql) conn db).bind
  intro result used calls after _
  cases result with
  | ok _ =>
      cases hNested : scope.isNested with
      | true =>
          apply Use.Yields.pure
          intro hFailed
          cases hFailed
      | false =>
          refine ⟨[], .of_history_eq rfl, rfl, ?_⟩
          intro hFailed
          cases hFailed
  | error e =>
      apply (Use.spoil_yields used after).bind
      rintro _ _ _ after ⟨rfl, rfl⟩
      apply Use.Yields.pure
      intro _
      exact used.not_relied_spoil

/-
  Where a transaction was ended, or could not be and its
  connection is not relied on.
-/
theorem fits_of_ended
    {used : Connection}
    {sql : String}
    {pending : List String}
    {calls : List (Call × Fate)}
    {ok : Bool}
    (hEnd : sql = "COMMIT" ∨ sql = "ROLLBACK")
    (hPerformed :
      Use.Performed (.batch sql) pending calls ok)
    (hPending : used.pending = [])
    (hFailed : ok = false → ¬ used.Relied) :
    Engagement.free.Fits used
      (Call.openAfter isOpen calls) := by
  cases ok with
  | true =>
      refine ⟨hPending, ?_⟩
      intro _ _
      exact Call.openAfter_of_ended hEnd hPerformed isOpen
  | false =>
      exact Engagement.fits_free_of_not_relied hPending
        (hFailed rfl)

/-
  What is left of a transaction when its outermost scope
  ends fits the session.
-/
theorem endOutermost_yields (ending : Session.Ending) :
    Use.Yields (endOutermost .root ending) conn db
      fun next used calls =>
        next.Fits used (Call.openAfter isOpen calls) := by
  match ending with
  | .commit =>
      have hActive : Scope.root.phase = .active := rfl
      have hFailed :
          Use.Yields Scope.root.commit conn db
            fun result used _ =>
              result.1.isOk = false → ¬ used.Relied :=
        finish_unrelied conn db .root "COMMIT" .committed
      apply
        ((Scope.commit_yields hActive conn db).and
          hFailed).bind
      rintro ⟨result, scope⟩ used calls after
        ⟨⟨hPerformed, hCleared⟩, hFailed⟩
      apply Use.Yields.pure
      rw [List.append_nil]
      exact fits_of_ended (.inl rfl) hPerformed
        hCleared.pending hFailed
  | .rollback =>
      have hFailed :
          Use.Yields Scope.root.rollback conn db
            fun result used _ =>
              result.1.isOk = false → ¬ used.Relied :=
        finish_unrelied { conn with pending := [] } db .root
          "ROLLBACK" .rolledBack
      apply
        ((Scope.rollback_root_yields conn db).and
          hFailed).bind
      rintro ⟨result, scope⟩ used calls after
        ⟨⟨hPerformed, hCleared⟩, hFailed⟩
      apply Use.Yields.pure
      rw [List.append_nil]
      exact fits_of_ended (.inr rfl) hPerformed
        hCleared.pending hFailed
  | .drop false =>
      exact ⟨[], .of_history_eq rfl, rfl, rfl⟩
  | .drop true =>
      refine ⟨[], .of_history_eq rfl, rfl, ?_⟩
      apply Engagement.fits_free_of_not_relied
      · rfl
      · exact Connection.not_relied_spoil _

/-
  When a transaction that was left behind is undone, none is
  open, or the connection is not relied on.
-/
theorem rollbackAbandoned_yields :
    Use.Yields Scope.rollbackAbandoned conn db
      fun _ used calls =>
        Engagement.free.Fits used
          (Call.openAfter isOpen calls) := by
  apply
    (Use.perform_yields (.batch "ROLLBACK") conn db).bind
  rintro result used calls after ⟨hPerformed, hSettled⟩
  cases result with
  | ok _ =>
      apply Use.Yields.modify rfl
      rw [List.append_nil]
      refine fits_of_ended (.inr rfl) hPerformed
        hSettled.pending ?_
      intro hFailed
      cases hFailed
  | error e =>
      apply Use.Yields.modify rfl
      rw [List.append_nil]
      refine fits_of_ended (.inr rfl) hPerformed
        hSettled.pending ?_
      intro _
      exact used.not_relied_spoil

/-
  Whatever a client does with a connection, what it is
  engaged in afterwards fits it.
-/
theorem carryOut_yields
    {handling : Handling}
    {engagement : Engagement}
    (hOrdinary : handling.IsOrdinary)
    (hFits : engagement.Fits conn isOpen) :
    Use.Yields (handling.carryOut engagement) conn db
      fun next used calls =>
        next.Fits used (Call.openAfter isOpen calls) := by
  fun_cases carryOut handling engagement
  case case1 statement =>
    apply (runFree_yields conn db hOrdinary hFits).bind
    intro _ used calls after hUsed
    apply Use.Yields.pure
    rw [List.append_nil]
    exact hUsed
  case case2 statement scope outer =>
    rcases hFits with ⟨hNesting, hInside⟩
    apply
      (statement.run_yields hNesting.active conn db).bind
    intro _ used calls after hUsed
    apply Use.Yields.pure
    exact ⟨hNesting,
      hUsed.2.inTransaction.trans hInside⟩
  case case3 =>
    apply (ping_yields conn db hFits).bind
    intro _ used calls after hUsed
    apply Use.Yields.pure
    rw [List.append_nil]
    exact hUsed
  case case4 =>
    refine ⟨[], .of_history_eq rfl, rfl, ?_⟩
    apply Engagement.fits_free_of_not_relied
    · exact hFits.1
    · exact conn.not_relied_spoil
  case case5 =>
    apply (beginOutermost_yields conn db hFits).bind
    intro result used calls after hUsed
    cases result with
    | ok scope =>
        apply Use.Yields.pure
        rw [List.append_nil]
        exact hUsed
    | error e =>
        apply Use.Yields.pure
        rw [List.append_nil]
        exact hUsed
  case case6 scope outer =>
    rcases hFits with ⟨hNesting, hInside⟩
    apply
      ((Scope.begin_yields hNesting.active conn db).and
        (Scope.begin_stays hNesting.active conn db)).bind
    rintro result used calls after
      ⟨⟨hPerformed, hNested, hPending, hSavepoints⟩,
        hStays⟩
    cases result with
    | ok inner =>
        apply Use.Yields.pure
        rw [hNested inner rfl]
        exact ⟨.inner hNesting, hStays.trans hInside⟩
    | error e =>
        apply Use.Yields.pure
        exact ⟨hNesting, hStays.trans hInside⟩
  case case7 ending scope =>
    cases hFits.1
    exact endOutermost_yields conn db ending
  case case8 ending scope parent outer =>
    rcases hFits with ⟨hNesting, hInside⟩
    cases hNesting with
    | @inner name _ _ hOuter =>
        apply
          (Session.endNested_stays name ending conn db).bind
        intro _ used calls after hStays
        apply Use.Yields.pure
        exact ⟨hOuter, hStays.trans hInside⟩
  case case9 =>
    apply (rollbackAbandoned_yields conn db).bind
    intro _ used calls after hUsed
    apply Use.Yields.pure
    rw [List.append_nil]
    exact hUsed
  case case10 => exact Use.Yields.pure hFits

end Handling

end SqlAccess
