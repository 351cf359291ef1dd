import SqlAccess.Proofs.Pool.Hygiene

/-
  This file shows that the operations of the library are
  made of the deeds that clients can do, so that what holds
  in every run of deeds holds in every run of operations.

  Key definitions include:
    * `World.Reaches`
    * `World.Performs`

  Key theorems include:
    * `World.select_performs`
    * `World.dml_performs`
    * `World.batch_performs`
    * `World.begin_performs`
    * `World.commit_performs`
    * `World.drop_performs`
    * `World.open_performs`
-/

namespace SqlAccess

namespace World

variable {σ α β : Type}

------------------------------------------------------------
-- Deeds One after Another
------------------------------------------------------------

/- Some deeds of clients lead from one world to another. -/
def Reaches (before after : World σ) : Prop :=
  ∃ deeds : List Deed,
    (∀ deed ∈ deeds, deed.IsOrdinary) ∧
      play deeds before = after

namespace Reaches

theorem refl (world : World σ) : world.Reaches world :=
  ⟨[], by simp, rfl⟩

theorem of_step
    (deed : Deed)
    (world : World σ)
    (hOrdinary : deed.IsOrdinary) :
    world.Reaches (step deed world).2 :=
  ⟨[deed], by simpa using hOrdinary, rfl⟩

/- Deeds are done one after the other. -/
theorem trans
    {before middle after : World σ}
    (hFirst : before.Reaches middle)
    (hSecond : middle.Reaches after) :
    before.Reaches after := by
  rcases hFirst with ⟨early, hEarly, rfl⟩
  rcases hSecond with ⟨late, hLate, rfl⟩
  refine ⟨early ++ late, ?_, ?_⟩
  · intro deed hDeed
    rw [List.mem_append] at hDeed
    cases hDeed with
    | inl hFirst => exact hEarly deed hFirst
    | inr hSecond => exact hLate deed hSecond
  · clear hEarly
    induction early generalizing before with
    | nil => rfl
    | cons deed rest ih => exact ih

end Reaches

/-
  An act is made of deeds of a client, who holds some
  connections before it and others after it, beside those of
  other clients.
-/
def Performs
    (act : Act σ α)
    (db : Database σ)
    (given : List Holding)
    (kept : α → List Holding) : Prop :=
  ∀ (others : List Holding) (waiters : List Waiter),
    Reaches ⟨db, given ++ others, waiters⟩
      ⟨(act.run db).2, kept (act.run db).1 ++ others,
        waiters⟩

namespace Performs

/- Nothing is done, and the same connections are held. -/
theorem done
    {a : α}
    {db : Database σ}
    {given : List Holding}
    {kept : α → List Holding}
    (hKept : kept a = given) :
    Performs (pure a) db given kept := by
  intro others waiters
  subst hKept
  exact .refl _

/- What is held in between is used up by what comes next. -/
theorem bind
    {act : Act σ α}
    {next : α → Act σ β}
    {db : Database σ}
    {given : List Holding}
    {mid : α → List Holding}
    {kept : β → List Holding}
    (hAct : Performs act db given mid)
    (hNext :
      ∀ a after, Performs (next a) after (mid a) kept) :
    Performs (act >>= next) db given kept :=
  fun others waiters =>
    (hAct others waiters).trans
      (hNext _ _ others waiters)

/-
  The rest of an act goes on from the state that it sees.
-/
theorem of_get
    {next : Database σ → Act σ α}
    {db : Database σ}
    {given : List Holding}
    {kept : α → List Holding}
    (hNext : Performs (next db) db given kept) :
    Performs (get >>= next) db given kept :=
  hNext

end Performs

------------------------------------------------------------
-- Single Deeds
------------------------------------------------------------

variable (db : Database σ)

/- The connection that a checkout hands out is held. -/
def keep
    (result : Except Error Connection) :
    List Holding :=
  (handed result).map Holding.free

/- A checkout holds what it is handed. -/
theorem checkout_performs (demand : Demand) :
    Performs demand.serve db [] keep := by
  intro others waiters
  have hStep :=
    Reaches.of_step (.checkout demand)
      ⟨db, others, waiters⟩
      trivial
  change
    Reaches ⟨db, others, waiters⟩
      (receive
        ⟨(demand.serve.run db).2, others, waiters⟩
        (demand.serve.run db).1).2 at hStep
  cases hResult : (demand.serve.run db).1 with
  | ok conn =>
      rw [hResult] at hStep
      exact hStep
  | error e =>
      rw [hResult] at hStep
      exact hStep

/- A connection that is let go of is held no longer. -/
theorem release_performs (conn : Connection) :
    Performs (Act.release conn) db [.free conn]
      fun _ => [] :=
  fun _ _ => Reaches.of_step (.drop 0) _ trivial

/- A connection that is handled stays with its holder. -/
theorem handle_performs
    {handling : Handling}
    (hOrdinary : handling.IsOrdinary)
    (conn : Connection)
    (engagement : Engagement) :
    Performs ((handling.carryOut engagement).run conn) db
      [⟨conn, engagement⟩] fun run =>
        [⟨run.2, run.1⟩] :=
  fun _ _ =>
    Reaches.of_step (.handle 0 handling) _ hOrdinary

/- What is handled may have a result of its own. -/
theorem use_performs
    {use : Use σ α}
    {engagement : Engagement}
    {handling : Handling}
    (next : α → Engagement)
    (hOrdinary : handling.IsOrdinary)
    (hUse :
      handling.carryOut engagement =
        (do return next (← use) : Use σ Engagement))
    (conn : Connection) :
    Performs (use.run conn) db [⟨conn, engagement⟩]
      fun run => [⟨run.2, next run.1⟩] := by
  have hHandle :=
    handle_performs db hOrdinary conn engagement
  rw [hUse] at hHandle
  exact hHandle

/- A replica may be said to have failed at any time. -/
theorem suspect_performs (target : Target) :
    Performs (Act.markReplicaDown target) db []
      fun _ => [] :=
  fun _ _ => Reaches.of_step (.suspect target) _ trivial

/- The pools may be closed at any time. -/
theorem close_performs :
    Performs Act.close db [] fun _ => [] :=
  fun _ _ => Reaches.of_step .close _ trivial

/- A statement outside of transactions. -/
theorem run_performs
    {statement : Session.Statement}
    (hOrdinary : statement.call.isControl = false)
    (conn : Connection) :
    Performs ((Use.perform statement.call).run conn) db
      [.free conn] fun run => [.free run.2] := by
  have hHandling :
      (Handling.run statement).IsOrdinary := hOrdinary
  have hRun := handle_performs db hHandling conn .free
  cases statement with
  | select intent statement => exact hRun
  | dml statement => exact hRun
  | batch sql => exact hRun

/- A sign of life is asked for by who has the connection. -/
theorem ping_performs (conn : Connection) :
    Performs (Use.ping.run conn) db [.free conn]
      fun run => [.free run.2] := by
  have hHandling : Handling.ping.IsOrdinary := trivial
  exact handle_performs db hHandling conn .free

------------------------------------------------------------
-- Statements on a Database
------------------------------------------------------------

/- A connection is checked out, used, and let go of. -/
theorem withConnection_performs
    (demand : Demand)
    (statement : Session.Statement)
    (hOrdinary : statement.call.isControl = false) :
    Performs
      (Act.withConnection demand.serve
        (Use.perform statement.call)) db [] fun _ =>
        [] := by
  apply (checkout_performs db demand).bind
  intro result after
  cases result with
  | error e => exact .done rfl
  | ok conn =>
      apply (run_performs after hOrdinary conn).bind
      rintro ⟨result, used⟩ after
      apply (release_performs after used).bind
      intro _ after
      exact .done rfl

/-
  A statement that changes rows holds a connection to the
  primary while it runs.
-/
theorem dml_performs
    {statement : Bound}
    (hOrdinary : (Call.dml statement).isControl = false) :
    Performs (Act.dml statement) db [] fun _ => [] :=
  withConnection_performs db (.routed .write false)
    (.dml statement) hOrdinary

/- A read that failed may be tried once more. -/
theorem select_performs
    {statement : Bound}
    (hOrdinary : (Call.select statement).isControl = false)
    (intent : Intent) :
    Performs (Act.select intent statement) db []
      fun _ => [] := by
  let demand : Demand := .routed intent false
  apply (checkout_performs db demand).bind
  intro result after
  cases result with
  | error e => exact .done rfl
  | ok conn =>
      let query : Session.Statement :=
        .select intent statement
      have hQuery : query.call.isControl = false :=
        hOrdinary
      apply (run_performs after hQuery conn).bind
      rintro ⟨result, used⟩ after
      apply (release_performs after used).bind
      intro _ after
      cases result with
      | ok rows => exact .done rfl
      | error e =>
          apply Performs.of_get
          split
          · exact withConnection_performs after demand
              (.select intent statement) hOrdinary
          · exact .done rfl

/- So does text without parameters. -/
theorem batch_performs
    {sql : String}
    (hOrdinary : (Call.batch sql).isControl = false) :
    Performs (Act.batch sql) db [] fun _ => [] := by
  apply (checkout_performs db (.role .primary)).bind
  intro result after
  cases result with
  | error e => exact .done rfl
  | ok conn =>
      let text : Session.Statement := .batch sql
      have hText : text.call.isControl = false := hOrdinary
      apply (run_performs after hText conn).bind
      rintro ⟨result, used⟩ after
      apply (release_performs after used).bind
      intro _ after
      exact .done rfl

------------------------------------------------------------
-- Transactions
------------------------------------------------------------

/- A transaction as its client holds it. -/
def ofTransaction (transaction : Transaction) : Holding :=
  ⟨transaction.conn, .inside transaction.scope []⟩

/- Where its client is once a transaction was to begin. -/
def begun : Except Error Scope → Engagement
  | .ok scope => .inside scope []
  | .error _ => .free

/-
  A transaction holds its connection from the beginning on.
-/
theorem begin_performs :
    Performs Transaction.begin db [] fun result =>
      result.toOption.toList.map ofTransaction := by
  apply (checkout_performs db (.role .primary)).bind
  intro result after
  cases result with
  | error e => exact .done rfl
  | ok conn =>
      have hUse :
          Handling.begin.carryOut .free =
            (do return begun (← Scope.beginOutermost) :
              Use σ Engagement) := by
        unfold Handling.carryOut
        refine bind_congr ?_
        intro result
        cases result <;> rfl
      have hBegin : Handling.begin.IsOrdinary := trivial
      apply (use_performs after begun hBegin hUse conn).bind
      rintro ⟨result, used⟩ after
      cases result with
      | ok scope => exact .done rfl
      | error e =>
          apply (release_performs after used).bind
          intro _ after
          exact .done rfl

section Ending

variable (transaction : Transaction)

/-
  The end of a transaction, before its connection goes back.
-/
private theorem finish_performs
    {use : Use σ α}
    {ending : Session.Ending}
    (next : α → Engagement)
    (hUse :
      Handling.endOutermost transaction.scope ending =
        (do return next (← use) : Use σ Engagement)) :
    Performs (use.run transaction.conn) db
      [ofTransaction transaction]
      fun run => [⟨run.2, next run.1⟩] := by
  have hEnding : (Handling.finish ending).IsOrdinary :=
    trivial
  have hCarry :
      (Handling.finish ending).carryOut
          (.inside transaction.scope []) =
        (do return next (← use) : Use σ Engagement) :=
    hUse
  exact use_performs db next hEnding hCarry transaction.conn

/-
  A transaction lets go of its connection when it is
  committed.
-/
theorem commit_performs :
    Performs transaction.commit db
      [ofTransaction transaction]
      fun _ => [] := by
  have hCommit :
      Handling.endOutermost transaction.scope .commit =
        (do
          let _ ← transaction.scope.commit
          return .free : Use σ Engagement) :=
    rfl
  apply (finish_performs db transaction _ hCommit).bind
  rintro ⟨⟨result, scope⟩, used⟩ after
  apply (release_performs after used).bind
  intro _ after
  exact .done rfl

/-
  A transaction lets go of its connection when it is rolled
  back.
-/
theorem rollback_performs :
    Performs transaction.rollback db
      [ofTransaction transaction] fun _ => [] := by
  have hRollback :
      Handling.endOutermost transaction.scope .rollback =
        (do
          let _ ← transaction.scope.rollback
          return .free : Use σ Engagement) :=
    rfl
  apply (finish_performs db transaction _ hRollback).bind
  rintro ⟨⟨result, scope⟩, used⟩ after
  apply (release_performs after used).bind
  intro _ after
  exact .done rfl

/-
  What was left is undone before its connection goes back.
-/
theorem drop_performs :
    Performs transaction.drop db [ofTransaction transaction]
      fun _ => [] := by
  have hDrop :
      Handling.endOutermost transaction.scope
          (.drop false) =
        (do
          let _ ← transaction.scope.abandon
          return .abandoned : Use σ Engagement) :=
    rfl
  have hUndo : Handling.undo.IsOrdinary := trivial
  have hRollback :
      Handling.undo.carryOut .abandoned =
        (do
          let _ ← Scope.rollbackAbandoned
          return .free : Use σ Engagement) :=
    rfl
  apply (finish_performs db transaction _ hDrop).bind
  rintro ⟨scope, left⟩ after
  apply (use_performs after _ hUndo hRollback left).bind
  rintro ⟨_, used⟩ after
  exact release_performs after used

/-
  A transaction that is dropped lets go of its connection
  once its rollback was run.
-/
theorem dropIdle_performs :
    Performs transaction.dropIdle db
      [ofTransaction transaction] fun _ => [] := by
  have hDrop :
      Handling.endOutermost transaction.scope (.drop true) =
        (do
          let _ ← (do
            let _ ← transaction.scope.abandon
            Use.spoil)
          return .free : Use σ Engagement) :=
    rfl
  have hFinish := finish_performs db transaction _ hDrop
  intro others waiters
  exact (hFinish others waiters).trans
    (release_performs _ _ others waiters)

end Ending

------------------------------------------------------------
-- Opening a Database
------------------------------------------------------------

/- A place that is probed keeps no connection held. -/
theorem probe_performs (target : Target) :
    Performs (Act.probe target) db [] fun _ => [] := by
  apply (checkout_performs db (.target target)).bind
  intro result after
  cases result with
  | error e => exact .done rfl
  | ok conn =>
      apply (ping_performs after conn).bind
      rintro ⟨result, used⟩ after
      cases result with
      | ok _ =>
          apply (release_performs after used).bind
          intro _ after
          exact .done rfl
      | error e =>
          have hSpoil : Handling.spoil.IsOrdinary := trivial
          have hSpoiled :=
            handle_performs after hSpoil used .free
          intro others waiters
          exact (hSpoiled others waiters).trans
            (release_performs after used.spoil others
              waiters)

theorem probeReplica_performs (index : Nat) :
    Performs (Act.probeReplica index) db [] fun _ =>
      [] := by
  apply (probe_performs db (.replica index)).bind
  intro result after
  cases result with
  | ok _ => exact .done rfl
  | error e => exact suspect_performs after (.replica index)

/- Replicas are probed one after the other. -/
theorem probeReplicas_performs (indices : List Nat) :
    Performs (indices.forM Act.probeReplica) db []
      fun _ => [] := by
  induction indices generalizing db with
  | nil => exact .done rfl
  | cons index rest ih =>
      apply (probeReplica_performs db index).bind
      intro _ after
      exact ih after

/-
  A database is opened by deeds, and no one holds anything.
-/
theorem open_performs :
    Performs Act.open db [] fun _ => [] := by
  apply Performs.of_get
  cases hValid : db.config.validate with
  | error fault => exact .done rfl
  | ok _ =>
      apply (probe_performs db .primary).bind
      intro result after
      cases result with
      | error e =>
          apply (close_performs after).bind
          intro _ last
          exact .done rfl
      | ok _ =>
          apply Performs.of_get
          apply (probeReplicas_performs after _).bind
          intro _ last
          exact .done rfl

end World

end SqlAccess
