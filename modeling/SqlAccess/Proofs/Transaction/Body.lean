import SqlAccess.Proofs.Pool.Chronicle
import SqlAccess.Proofs.Pool.Engagement
import SqlAccess.Proofs.Routing.Alone
import SqlAccess.Proofs.Transaction.Durability

/-
  This file defines what a block can do in its transaction.
  What comes of a step decides about the next one.  A block
  runs statements, and begins and ends scopes in each other;
  it may come to its result in the midst of some, which are
  left then.  A block is followed as a session is, by the
  moves that it makes.

  Key definitions include:
    * `Session.Body`
    * `Session.Scopes`
    * `Session.Body.carryOut`
    * `Session.Leads`
    * `Session.calls`

  Key theorems include:
    * `Session.Leads.play_append`
    * `Session.Leads.heard`
    * `Session.Body.carryOut_leads`
    * `Session.Body.carryOut_careful`
-/

namespace SqlAccess

variable {σ α : Type}

namespace Session

------------------------------------------------------------
-- Bodies
------------------------------------------------------------

/-
  What is done in a transaction, with some number of scopes
  that are open in it.  Only the innermost scope can be
  used.  The transaction itself cannot be ended.
-/
inductive Body (α : Type) : Nat → Type
  | done {depth}
      (result : Except Error α) : Body α depth
  | run {depth}
      (statement : Statement)
      (next :
        Except Error statement.call.Answer →
          Body α depth) :
      Body α depth
  | begin {depth}
      (begun : Body α (depth + 1))
      (failed : Error → Body α depth) : Body α depth
  | finish {depth}
      (ending : Ending)
      (next : Except Error Unit → Body α depth) :
      Body α (depth + 1)

/-
  A transaction's own scope and those that are open in it.
-/
inductive Scopes : Nat → Type
  | outermost (scope : Scope) : Scopes 0
  | inner {depth}
      (scope : Scope)
      (outer : Scopes depth) : Scopes (depth + 1)

namespace Scopes

variable {depth : Nat}

/- The scope of the transaction. -/
def root {depth : Nat} : Scopes depth → Scope
  | outermost scope => scope
  | inner _ outer => outer.root

/- The open scopes, the innermost first. -/
def nested {depth : Nat} : Scopes depth → List Scope
  | outermost _ => []
  | inner scope outer => scope :: outer.nested

/- The scope that can be used. -/
def innermost {depth : Nat} : Scopes depth → Scope
  | outermost scope => scope
  | inner scope _ => scope

/-
  Leave the open scopes without an end, the innermost first.
-/
def leave
    {depth : Nat} :
    Scopes depth → Use σ (List Move)
  | outermost _ => return []
  | inner scope outer => do
      let _ ← scope.abandon
      let moves ← outer.leave
      return .finish (.drop false) :: moves

/- The session with these scopes on a connection. -/
def session
    (scopes : Scopes depth)
    (conn : Connection) : Session :=
  ⟨⟨scopes.root, conn⟩, scopes.nested⟩

@[simp] theorem session_conn
    (scopes : Scopes depth)
    (conn : Connection) :
    (scopes.session conn).conn = conn :=
  rfl

/-
  The scope of a session is the innermost one of its scopes.
-/
theorem scope_session
    (scopes : Scopes depth)
    (conn : Connection) :
    (scopes.session conn).scope = scopes.innermost := by
  cases scopes <;> rfl

end Scopes

/- End a nested scope. -/
def endScope
    (scope : Scope) : Ending → Use σ (Except Error Unit)
  | .commit => do
      let (result, _) ← scope.commit
      return result
  | .rollback => do
      let (result, _) ← scope.rollback
      return result
  | .drop _ => do
      let _ ← scope.abandon
      return .ok ()

/-
  Carry out a body in its scopes.  The moves that are made
  are given back beside the result.
-/
def Body.carryOut
    {depth : Nat} :
    Body α depth → Scopes depth →
      Use σ (List Move × Except Error α)
  | done result, scopes => do
      let moves ← scopes.leave
      return (moves, result)
  | run statement next, scopes => do
      let answer ← scopes.innermost.executor.run statement
      let (moves, result) ← (next answer).carryOut scopes
      return (.run statement :: moves, result)
  | begin begun failed, scopes => do
      match ← scopes.innermost.begin with
      | .ok scope =>
          let (moves, result) ←
            begun.carryOut (.inner scope scopes)
          return (.begin :: moves, result)
      | .error e =>
          let (moves, result) ← (failed e).carryOut scopes
          return (.begin :: moves, result)
  | finish ending next, .inner scope outer => do
      let ended ← endScope scope ending
      let (moves, result) ← (next ended).carryOut outer
      return (.finish ending :: moves, result)

------------------------------------------------------------
-- Moves that Lead Somewhere
------------------------------------------------------------

/- The calls of a timeline with their fates. -/
def calls (items : List Item) : List (Call × Fate) :=
  items.filterMap fun
    | .called _ call fate => some (call, fate)
    | _ => none

/- The calls of two parts are made one after the other. -/
@[simp] theorem calls_append (items later : List Item) :
    calls (items ++ later) = calls items ++ calls later :=
  List.filterMap_append

@[simp] theorem calls_begun (name : String) :
    calls [.begun name] = [] :=
  rfl

@[simp] theorem calls_ended
    (name : String)
    (ending : Ending)
    (ok : Bool) : calls [.ended name ending ok] = [] :=
  rfl

@[simp] theorem calls_closed (ending : Ending) (ok : Bool) :
    calls [.closed ending ok] = [] :=
  rfl

/- Numbers change nothing of the calls. -/
@[simp] theorem calls_numbered
    (number : Nat)
    (made : List (Call × Fate)) :
    calls (numbered number made) = made := by
  induction made generalizing number with
  | nil => rfl
  | cons entry rest ih =>
      exact congrArg (entry :: ·) (ih (number + 1))

/- The calls since some state are those that were heard. -/
theorem calls_callsSince
    {id : Nat}
    {made : List (Call × Fate)}
    {before after : Database σ}
    (hHeard : Database.Heard id made before after) :
    calls (callsSince before after id) = made := by
  rw [callsSince_eq hHeard, calls_numbered]

/-
  Moves that do not end a session lead it to another one.
-/
inductive Leads :
    List Move → Session → Database σ →
      Session → Database σ → Prop
  | refl {session db} : Leads [] session db session db
  | step
    {move moves items session next last db middle after}
      (hStep :
        step move session db = (items, some next, middle))
      (hRest : Leads moves next middle last after) :
      Leads (move :: moves) session db last after

section Leads

variable {moves : List Move} {session last : Session}
variable {db after : Database σ} {standing : Standing}
variable {allowed : Call → Prop}

/- A move comes before others. -/
theorem Leads.cons
    {move : Move}
    {next : Session}
    {middle : Database σ}
    (hStep :
      (Session.step move session db).2 =
        (some next, middle))
    (hRest : Leads moves next middle last after) :
    Leads (move :: moves) session db last after :=
  .step (Prod.ext rfl hStep) hRest

/- What follows goes on from where the moves have led. -/
theorem Leads.play_append
    (hLeads : Leads moves session db last after)
    (later : List Move) :
    play (moves ++ later) session db =
      play moves session db ++ play later last after := by
  induction hLeads with
  | refl => rfl
  | step hStep hRest ih =>
      simp only [List.cons_append, play, hStep, ih,
        List.append_assoc]

/- A move that does not end a session is part of a run. -/
theorem Stands.step
    {move : Move}
    {items : List Item}
    {next : Session}
    (hStands : Stands session standing)
    (hAllowed :
      ∀ statement, move = .run statement →
        allowed statement.call)
    (hStep :
      Session.step move session db =
        (items, some next, after)) :
    ∃ final, Run allowed standing items final ∧
      Stands next final := by
  have hAdvances := step_advances hStands move hAllowed db
  rw [hStep] at hAdvances
  exact hAdvances

/- What moves lead to is a run of the session. -/
theorem Leads.run
    (hLeads : Leads moves session db last after)
    (hStands : Stands session standing)
    (hAllowed :
      ∀ statement, .run statement ∈ moves →
        allowed statement.call) :
    ∃ final,
      Run allowed standing (play moves session db) final ∧
        Stands last final := by
  induction hLeads generalizing standing with
  | refl => exact ⟨standing, .nil, hStands⟩
  | @step move moves items session next _ _ _ _ hStep
    hRest ih =>
      have hMove :
          ∀ statement, move = .run statement →
            allowed statement.call := by
        rintro statement rfl
        exact hAllowed statement List.mem_cons_self
      have hMoves :
          ∀ statement, .run statement ∈ moves →
            allowed statement.call :=
        fun statement hMem =>
          hAllowed statement (List.mem_cons_of_mem _ hMem)
      rcases hStands.step hMove hStep with
        ⟨middle, hFirst, hMiddle⟩
      rcases ih hMiddle hMoves with ⟨final, hRun, hLast⟩
      simp only [play, hStep]
      exact ⟨final, hFirst.trans hRun, hLast⟩

/- A move shows the calls that it has made. -/
theorem step_heard
    {move : Move}
    {items : List Item}
    {next : Session}
    (hStands : Stands session standing)
    (hStep :
      step move session db = (items, some next, after)) :
    Database.Heard session.conn.link.id (calls items) db
        after ∧
      next.conn.link = session.conn.link := by
  cases move with
  | run statement =>
      rcases statement.run_yields hStands.scope_active
          session.conn db with ⟨made, hHeard, hLink, -⟩
      have hCalls := calls_callsSince hHeard
      rw [step_run] at hStep
      cases hStep
      rw [hCalls]
      exact ⟨hHeard, hLink⟩
  | begin =>
      rcases Scope.begin_yields hStands.scope_active
          session.conn db with ⟨made, hHeard, hLink, -⟩
      have hCalls := calls_callsSince hHeard
      rw [step_begin] at hStep
      dsimp only at hStep
      split at hStep
      · cases hStep
        rw [calls_append, hCalls, calls_begun,
          List.append_nil]
        exact ⟨hHeard, hLink⟩
      · cases hStep
        rw [hCalls]
        exact ⟨hHeard, hLink⟩
  | finish ending =>
      cases hNested : session.nested with
      | nil =>
          rw [step_finish_nil session db hNested] at hStep
          cases hStep
      | cons scope outer =>
          have hScopes := hStands.nested
          rw [hNested] at hScopes
          rcases List.map_eq_cons_iff.1 hScopes.symm with
            ⟨name, -, -, rfl, -⟩
          rcases endNested_yields name ending
            session.conn db
            with ⟨made, hHeard, hLink, -⟩
          have hCalls := calls_callsSince hHeard
          rw [step_finish_cons session db hNested] at hStep
          cases hStep
          rw [calls_append, hCalls, calls_ended,
            List.append_nil]
          exact ⟨hHeard, hLink⟩

/- The calls that are shown were made, and no others. -/
theorem Leads.heard
    (hLeads : Leads moves session db last after)
    (hStands : Stands session standing) :
    Database.Heard session.conn.link.id
        (calls (play moves session db)) db after ∧
      last.conn.link = session.conn.link := by
  induction hLeads generalizing standing with
  | refl => exact ⟨.of_history_eq rfl, rfl⟩
  | step hStep hRest ih =>
      have hNext :
          ∃ middle,
            Run (fun _ => True) standing _ middle ∧
            Stands _ middle :=
        hStands.step (fun _ _ => trivial) hStep
      rcases hNext with ⟨middle, -, hMiddle⟩
      rcases step_heard hStands hStep with
        ⟨hFirst, hLink⟩
      rcases ih hMiddle with ⟨hLater, hLast⟩
      rw [hLink] at hLater
      simp only [play, hStep, calls_append]
      exact ⟨hFirst.trans hLater, hLast.trans hLink⟩

end Leads

------------------------------------------------------------
-- Bodies as Moves
------------------------------------------------------------

/- A statement in a scope, with its answer. -/
theorem Statement.run_isOk
    (statement : Statement)
    (scope : Scope)
    (conn : Connection)
    (db : Database σ) :
    ((statement.run scope).run conn).run db =
      let run :=
        ((scope.executor.run statement).run conn).run db
      ((run.1.1.isOk, run.1.2), run.2) := by
  cases statement <;> rfl

/- The end of a nested scope, with why it failed. -/
theorem endNested_isOk
    (scope : Scope)
    (ending : Ending)
    (conn : Connection)
    (db : Database σ) :
    ((endNested scope ending).run conn).run db =
      let run := ((endScope scope ending).run conn).run db
      ((run.1.1.isOk, run.1.2), run.2) := by
  cases ending <;> rfl

section Bodies

variable {depth : Nat}

/-
  The session goes on when the innermost scope has ended.
-/
theorem step_inner
    (scope : Scope)
    (outer : Scopes depth)
    (ending : Ending)
    (conn : Connection)
    (db : Database σ) :
    let run := ((endScope scope ending).run conn).run db
    (step (.finish ending)
        ((Scopes.inner scope outer).session conn) db).2 =
      (some (outer.session run.1.2), run.2) := by
  rw [step_finish_cons _ db rfl ending]
  simp only [endNested_isOk]
  rfl

/- What beginning a scope makes of the session. -/
theorem step_begin_inner
    (scopes : Scopes depth)
    (conn : Connection)
    (db : Database σ) :
    let run := (scopes.innermost.begin.run conn).run db
    (step .begin (scopes.session conn) db).2 =
      (match run.1.1 with
        | .ok scope =>
            some
              ((Scopes.inner scope scopes).session run.1.2)
        | .error _ => some (scopes.session run.1.2),
        run.2) := by
  rw [step_begin, scopes.scope_session]
  rcases hBegin :
      (scopes.innermost.begin.run conn).run db with
    ⟨⟨e | scope, used⟩, middle⟩
  · simp only [Scopes.session_conn, hBegin]
    rfl
  · simp only [Scopes.session_conn, hBegin]
    rfl

/- The scopes that are left are left by moves. -/
theorem Scopes.leave_leads
    (scopes : Scopes depth)
    (conn : Connection)
    (db : Database σ) :
    let run := (scopes.leave.run conn).run db
    Leads run.1.1 (scopes.session conn) db
      ((Scopes.outermost scopes.root).session run.1.2)
      run.2 := by
  induction scopes generalizing conn db with
  | outermost scope => exact .refl
  | inner scope outer ih =>
      have hStep :=
        step_inner scope outer (.drop false) conn db
      exact .cons hStep (ih _ _)

/-
  A body makes moves, and comes to its result when all
  scopes in the transaction were ended or left.
-/
theorem Body.carryOut_leads
    (body : Body α depth)
    (scopes : Scopes depth)
    (conn : Connection)
    (db : Database σ) :
    let run := ((body.carryOut scopes).run conn).run db
    Leads run.1.1.1 (scopes.session conn) db
      ((Scopes.outermost scopes.root).session run.1.2)
      run.2 := by
  induction body generalizing conn db with
  | done result => exact scopes.leave_leads conn db
  | run statement next ih =>
      let first :=
        ((scopes.innermost.executor.run statement).run
          conn).run db
      have hStep :
          (step (.run statement) (scopes.session conn)
            db).2 =
            (some (scopes.session first.1.2), first.2) := by
        rw [step_run, scopes.scope_session]
        simp only [Statement.run_isOk]
        rfl
      exact .cons hStep
        (ih first.1.1 scopes first.1.2 first.2)
  | begin begun failed ihBegun ihFailed =>
      have hStep := step_begin_inner scopes conn db
      rw [carryOut, Use.bind_run]
      rcases hBegin :
          (scopes.innermost.begin.run conn).run db with
        ⟨⟨e | scope, used⟩, middle⟩
      · rw [hBegin] at hStep
        exact .cons hStep (ihFailed e scopes used middle)
      · rw [hBegin] at hStep
        exact .cons hStep
          (ihBegun (.inner scope scopes) used middle)
  | finish ending next ih =>
      cases scopes with
      | inner scope outer =>
          have hStep :=
            step_inner scope outer ending conn db
          exact .cons hStep (ih _ outer _ _)

end Bodies

------------------------------------------------------------
-- Bodies as Careful Uses
------------------------------------------------------------

/- A statement of a body takes care. -/
theorem run_answer_careful
    (statement : Statement)
    (scope : Scope) :
    Use.Careful
      (scope.executor.run statement :
        Use σ (Except Error statement.call.Answer)) := by
  cases statement with
  | select intent statement =>
      exact scope.whileActive_careful
        (Use.perform_careful (.select statement))
  | dml statement =>
      exact scope.whileActive_careful
        (Use.perform_careful (.dml statement))
  | batch sql =>
      exact scope.whileActive_careful
        (Use.perform_careful (.batch sql))

/- However a scope of a body ends, care is taken. -/
theorem endScope_careful (scope : Scope) (ending : Ending) :
    Use.Careful
      (endScope scope ending :
        Use σ (Except Error Unit)) := by
  cases ending with
  | commit =>
      exact scope.commit_careful.bind fun _ => .pure _
  | rollback =>
      exact scope.rollback_careful.bind fun _ => .pure _
  | drop idle =>
      exact scope.abandon_careful.bind fun _ => .pure _

/- Scopes that are left are dropped with care. -/
theorem Scopes.leave_careful
    {depth : Nat}
    (scopes : Scopes depth) :
    Use.Careful (scopes.leave : Use σ (List Move)) := by
  induction scopes with
  | outermost scope => exact .pure _
  | inner scope outer ih =>
      exact scope.abandon_careful.bind fun _ =>
        ih.bind fun _ => .pure _

/- A body leaves everything but its connection alone. -/
theorem Body.carryOut_careful
    {depth : Nat}
    (body : Body α depth)
    (scopes : Scopes depth) :
    Use.Careful
      (body.carryOut scopes :
        Use σ (List Move × Except Error α)) := by
  induction body with
  | done result =>
      exact scopes.leave_careful.bind fun _ => .pure _
  | run statement next ih =>
      apply (run_answer_careful statement _).bind
      intro answer
      exact (ih answer scopes).bind fun _ => .pure _
  | begin begun failed ihBegun ihFailed =>
      rw [carryOut]
      apply scopes.innermost.begin_careful.bind
      intro result
      cases result with
      | ok scope =>
          exact (ihBegun (.inner scope scopes)).bind
            fun _ => .pure _
      | error e =>
          exact (ihFailed e scopes).bind fun _ => .pure _
  | finish ending next ih =>
      cases scopes with
      | inner scope outer =>
          apply (endScope_careful scope ending).bind
          intro ended
          exact (ih ended outer).bind fun _ => .pure _

end Session

end SqlAccess
