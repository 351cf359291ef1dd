import SqlAccess.Pool.Use

/-
  This file says what a use of a connection asks of the
  backend: the calls on the connection, in order and with
  their fates, and what becomes of the connection.

  Key definitions include:
    * `Event.callOn?`
    * `Database.Heard`
    * `Use.Yields`
    * `Connection.Kept`
    * `Use.Sent`
    * `Use.Stuck`
    * `Use.Performed`

  Key theorems include:
    * `Use.Yields.bind`
    * `Use.dispatch_yields`
    * `Use.flushAll_yields`
    * `Use.perform_yields`
-/

namespace SqlAccess

------------------------------------------------------------
-- Calls between Two States
------------------------------------------------------------

/- The call of an event on a connection, and its fate. -/
def Event.callOn?
    (id : Nat) :
    Event → Option (Call × Fate)
  | .called other call fate =>
      if other = id then some (call, fate) else none
  | _ => none

/-
  The calls on a connection between two states of a
  database, whatever else happened there.
-/
def Database.Heard
    {σ : Type}
    (id : Nat)
    (calls : List (Call × Fate))
    (before after : Database σ) : Prop :=
  ∃ events : List Event,
    after.history = events ++ before.history ∧
      events.reverse.filterMap (Event.callOn? id) = calls

namespace Database.Heard

variable {σ : Type} {id : Nat}

/- Nothing is heard while the history stays the same. -/
theorem of_history_eq
    {before after : Database σ}
    (hHistory : after.history = before.history) :
    Heard id [] before after :=
  ⟨[], by simpa using hHistory, rfl⟩

/- What is heard first comes first. -/
theorem trans
    {first second : List (Call × Fate)}
    {before middle after : Database σ}
    (hFirst : Heard id first before middle)
    (hSecond : Heard id second middle after) :
    Heard id (first ++ second) before after := by
  rcases hFirst with ⟨early, hMiddle, rfl⟩
  rcases hSecond with ⟨late, hAfter, rfl⟩
  refine ⟨late ++ early, ?_, ?_⟩
  · rw [hAfter, hMiddle, List.append_assoc]
  · simp

/- The history only grows. -/
theorem length_le
    {calls : List (Call × Fate)}
    {before after : Database σ}
    (hHeard : Heard id calls before after) :
    before.history.length + calls.length ≤
      after.history.length := by
  rcases hHeard with ⟨events, hAfter, rfl⟩
  have hFewer :=
    List.length_filterMap_le (Event.callOn? id)
      events.reverse
  rw [hAfter, List.length_append]
  simp only [List.length_reverse] at hFewer
  omega

/-
  The last call that is heard is the latest in the history.
-/
theorem latest
    {calls : List (Call × Fate)}
    {entry : Call × Fate}
    {before after : Database σ}
    (hHeard : Heard id (calls ++ [entry]) before after) :
    after.history.findSome? (Event.callOn? id) =
      some entry := by
  rcases hHeard with ⟨events, hAfter, hCalls⟩
  have hHead :
      events.findSome? (Event.callOn? id) = some entry := by
    rw [← List.head?_filterMap, ← List.getLast?_reverse,
      ← List.filterMap_reverse, hCalls,
      List.getLast?_concat]
  rw [hAfter, List.findSome?_append, hHead, Option.some_or]

end Database.Heard

------------------------------------------------------------
-- Uses
------------------------------------------------------------

namespace Use

variable {σ α β : Type}

/-
  A call is noted with its fate, and the rest is the same.
-/
theorem ask_run
    (call : Call)
    (conn : Connection)
    (db : Database σ) :
    let answer :=
      db.backend.perform conn.link call db.memory
    ((ask call).run conn).run db =
      ((answer.1, conn),
        { db with memory := answer.2 }.record
          (.called conn.link.id call answer.1.fate)) :=
  rfl

/- One use after another. -/
theorem bind_run
    (use : Use σ α)
    (next : α → Use σ β)
    (conn : Connection)
    (db : Database σ) :
    ((use >>= next).run conn).run db =
      let run := (use.run conn).run db
      ((next run.1.1).run run.1.2).run run.2 :=
  rfl

/-
  From a connection and a database, a use ends as a
  condition on its result, the connection and the calls
  says.  It stays on the same link.
-/
def Yields
    (use : Use σ α)
    (conn : Connection)
    (db : Database σ)
    (post :
      α → Connection → List (Call × Fate) → Prop) :
    Prop :=
  let run := (use.run conn).run db
  ∃ calls,
    Database.Heard conn.link.id calls db run.2 ∧
      run.1.2.link = conn.link ∧
      post run.1.1 run.1.2 calls

section Rules

variable {conn : Connection} {db : Database σ}

theorem Yields.pure
    {a : α}
    {post :
      α → Connection → List (Call × Fate) → Prop}
    (hPost : post a conn []) :
    Yields (pure a : Use σ α) conn db post :=
  ⟨[], .of_history_eq rfl, rfl, hPost⟩

/- One use after another asks for the calls of both. -/
theorem Yields.bind
    {use : Use σ α}
    {next : α → Use σ β}
    {post :
      α → Connection → List (Call × Fate) → Prop}
    {last :
      β → Connection → List (Call × Fate) → Prop}
    (hUse : Yields use conn db post)
    (hNext :
      ∀ a used calls after,
        post a used calls →
          Yields (next a) used after fun b final more =>
            last b final (calls ++ more)) :
    Yields (use >>= next) conn db last := by
  rcases hUse with ⟨calls, hHeard, hLink, hPost⟩
  rcases hNext _ _ _ ((use.run conn).run db).2 hPost with
    ⟨more, hMore, hLast, hFinal⟩
  refine ⟨calls ++ more, hHeard.trans ?_, ?_, hFinal⟩
  · rw [hLink] at hMore
    exact hMore
  · exact hLast.trans hLink

/- A weaker condition holds where a stronger one does. -/
theorem Yields.mono
    {use : Use σ α}
    {post weaker :
      α → Connection → List (Call × Fate) → Prop}
    (hUse : Yields use conn db post)
    (hWeaker :
      ∀ a used calls, post a used calls →
        weaker a used calls) :
    Yields use conn db weaker := by
  rcases hUse with ⟨calls, hHeard, hLink, hPost⟩
  exact ⟨calls, hHeard, hLink, hWeaker _ _ _ hPost⟩

/- A change of the connection alone asks for nothing. -/
theorem Yields.modify
    {change : Connection → Connection}
    {post :
      Unit → Connection → List (Call × Fate) → Prop}
    (hLink : (change conn).link = conn.link)
    (hPost : post () (change conn) []) :
    Yields (modify change : Use σ Unit) conn db post :=
  ⟨[], .of_history_eq rfl, hLink, hPost⟩

end Rules

end Use

------------------------------------------------------------
-- What a Call Leaves Behind
------------------------------------------------------------

/-
  A connection after calls on it.  Only whether it is relied
  on, and whether a call on it never ends, can have changed.
-/
structure Connection.Kept
    (conn used : Connection) :
    Prop where
  link : used.link = conn.link
  target : used.target = conn.target
  inTransaction : used.inTransaction = conn.inTransaction
  pending : used.pending = conn.pending
  savepoints : used.savepoints = conn.savepoints

namespace Connection.Kept

theorem refl (conn : Connection) : Kept conn conn :=
  ⟨rfl, rfl, rfl, rfl, rfl⟩

/- A connection is kept through two sequences of calls. -/
theorem trans
    {conn used last : Connection}
    (hUsed : Kept conn used)
    (hLast : Kept used last) : Kept conn last :=
  ⟨hLast.link.trans hUsed.link,
    hLast.target.trans hUsed.target,
    hLast.inTransaction.trans hUsed.inTransaction,
    hLast.pending.trans hUsed.pending,
    hLast.savepoints.trans hUsed.savepoints⟩

/- A connection that is spoiled is kept otherwise. -/
theorem spoil (conn : Connection) : Kept conn conn.spoil :=
  ⟨rfl, rfl, rfl, rfl, rfl⟩

end Connection.Kept

namespace Act

variable {σ : Type}

/- That a replica failed is no event. -/
theorem markReplicaDown_history
    (target : Target)
    (db : Database σ) :
    ((markReplicaDown target).run db).2.history =
      db.history := by
  cases target <;> rfl

/- That a replica answers is no event. -/
theorem markReplicaUp_history
    (target : Target)
    (db : Database σ) :
    ((markReplicaUp target).run db).2.history =
      db.history := by
  cases target <;> rfl

end Act

namespace Use

variable {σ : Type}

/- Calls that ask only to stop what runs. -/
def OnlyCancels (calls : List (Call × Fate)) : Prop :=
  ∀ entry ∈ calls, entry.1 = .cancel

theorem onlyCancels_nil : OnlyCancels [] := by
  simp [OnlyCancels]

/- The connection is as it was, and nothing was asked. -/
def Untouched
    (conn used : Connection)
    (calls : List (Call × Fate)) : Prop :=
  used = conn ∧ calls = []

theorem database_yields
    (conn : Connection)
    (db : Database σ) :
    Yields database conn db fun _ => Untouched conn :=
  ⟨[], .of_history_eq rfl, rfl, rfl, rfl⟩

theorem spoil_yields
    (conn : Connection)
    (db : Database σ) :
    Yields spoil conn db fun _ => Untouched conn.spoil :=
  Yields.modify rfl ⟨rfl, rfl⟩

/- A connection is condemned without a call. -/
theorem condemn_yields
    (conn : Connection)
    (db : Database σ) :
    Yields condemn conn db fun _ => Untouched conn.spoil :=
  ⟨[], .of_history_eq (Act.markReplicaDown_history _ db),
    rfl, rfl, rfl⟩

/- A call is noted with its fate. -/
theorem ask_yields
    (call : Call)
    (conn : Connection)
    (db : Database σ) :
    Yields (ask call) conn db fun reply used calls =>
      used = conn ∧ calls = [(call, reply.fate)] := by
  refine ⟨_,
    ⟨[.called conn.link.id call _], rfl, rfl⟩, rfl,
      rfl, ?_⟩
  simp [Event.callOn?]
  rfl

/-
  A call that takes too long is followed by a cancel at
  most.
-/
theorem giveUp_yields
    (sql : String)
    (limit : Duration)
    (conn : Connection)
    (db : Database σ) :
    Yields (giveUp sql limit) conn db fun _ used calls =>
      OnlyCancels calls ∧ conn.Kept used := by
  apply (database_yields conn db).bind
  rintro seen conn _ db ⟨rfl, rfl⟩
  by_cases hCancel : seen.backend.cancellable
  · simp only [hCancel, if_true]
    apply (ask_yields .cancel conn db).bind
    rintro reply conn _ db ⟨rfl, rfl⟩
    apply (spoil_yields conn db).bind
    rintro _ _ _ db ⟨rfl, rfl⟩
    apply Yields.pure
    exact ⟨by simp [OnlyCancels], .spoil conn⟩
  · simp only [hCancel]
    apply (spoil_yields conn db).bind
    rintro _ _ _ db ⟨rfl, rfl⟩
    apply Yields.pure
    exact ⟨onlyCancels_nil, .spoil conn⟩

/- A call that takes too long is at most cancelled. -/
theorem outlast_yields
    (sql : String)
    (conn : Connection)
    (db : Database σ) :
    Yields (outlast sql) conn db fun _ used calls =>
      OnlyCancels calls ∧ conn.Kept used := by
  apply (database_yields conn db).bind
  rintro seen conn _ db ⟨rfl, rfl⟩
  cases hLimit : seen.config.statementTimeout with
  | some limit => exact giveUp_yields sql limit conn db
  | none =>
      exact ⟨[], .of_history_eq rfl, rfl, onlyCancels_nil,
        rfl, rfl, rfl, rfl, rfl⟩

------------------------------------------------------------
-- Statements
------------------------------------------------------------

/-
  A call was sent and answered, or it failed, or it took too
  long and was cancelled.  The result says which.
-/
inductive Sent
    (call : Call) : List (Call × Fate) → Bool → Prop
  | answered : Sent call [(call, .done)] true
  | failed {fate cancels}
      (hFate : fate ≠ .done)
      (hCancels : OnlyCancels cancels) :
      Sent call ((call, fate) :: cancels) false

/-
  A call is sent once, and its result tells how it ended.
-/
theorem dispatch_yields
    (call : Call)
    (conn : Connection)
    (db : Database σ) :
    Yields (dispatch call) conn db fun result used calls =>
      Sent call calls result.isOk ∧ conn.Kept used := by
  apply (ask_yields call conn db).bind
  rintro reply conn _ db ⟨rfl, rfl⟩
  cases reply with
  | done answer =>
      refine ⟨[], .of_history_eq ?_, rfl, ?_,
        .refl conn⟩
      · exact Act.markReplicaUp_history conn.target db
      · exact .answered
  | failed e =>
      have hSent :
          Sent call [(call, Fate.failed e)] false :=
        .failed (by simp) onlyCancels_nil
      by_cases hSpoils : e.spoilsConnection
      · simp only [hSpoils, if_true]
        apply (condemn_yields conn db).bind
        rintro _ _ _ db ⟨rfl, rfl⟩
        exact Yields.pure ⟨hSent, .spoil conn⟩
      · simp only [hSpoils]
        exact Yields.pure ⟨hSent, .refl conn⟩
  | silent =>
      apply (outlast_yields call.sql conn db).bind
      rintro e used cancels db ⟨hCancels, hKept⟩
      apply Yields.pure
      refine ⟨?_, hKept⟩
      simp only [List.append_nil, List.cons_append,
        List.nil_append]
      exact .failed (by simp [Reply.fate]) hCancels

/- What was pending was answered, in order. -/
def flushed (pending : List String) : List (Call × Fate) :=
  pending.map fun sql => (.batch sql, .done)

/-
  What was pending was run until something failed, and
  nothing after it.
-/
def Stuck
    (pending : List String)
    (calls : List (Call × Fate)) : Prop :=
  ∃ before sql later failure,
    pending = before ++ sql :: later ∧
      Sent (.batch sql) failure false ∧
      calls = flushed before ++ failure

/-
  What was pending was run, all of it or until a failure.
-/
inductive Flushed
    (pending : List String) :
    List (Call × Fate) → Bool → Prop
  | all : Flushed pending (flushed pending) true
  | stuck {calls}
      (hStuck : Stuck pending calls) :
      Flushed pending calls false

/-
  What is pending is run behind a statement that was
  answered.
-/
theorem Flushed.cons
    {sql : String}
    {pending : List String}
    {calls : List (Call × Fate)}
    {ok : Bool}
    (hFlushed : Flushed pending calls ok) :
    Flushed (sql :: pending)
      ((.batch sql, .done) :: calls) ok := by
  cases hFlushed with
  | all => exact .all
  | stuck hStuck =>
      rcases hStuck with
        ⟨before, other, later, failure, rfl, hSent, rfl⟩
      exact .stuck
        ⟨sql :: before, other, later, failure, rfl, hSent,
          rfl⟩

/- What is pending is run until something fails. -/
theorem flushAll_yields
    (pending : List String)
    (conn : Connection)
    (db : Database σ) :
    Yields (flushAll pending) conn db
      fun result used calls =>
      Flushed pending calls result.isOk ∧
        conn.Kept used := by
  induction pending generalizing conn db with
  | nil => exact Yields.pure ⟨.all, .refl conn⟩
  | cons sql rest ih =>
      apply (dispatch_yields (.batch sql) conn db).bind
      rintro result used calls db ⟨hSent, hKept⟩
      cases result with
      | ok answer =>
          cases hSent with
          | answered =>
              apply (ih used db).mono
              rintro _ last more ⟨hFlushed, hLast⟩
              exact ⟨hFlushed.cons, hKept.trans hLast⟩
      | error e =>
          apply (spoil_yields used db).bind
          rintro _ _ _ db ⟨rfl, rfl⟩
          apply Yields.pure
          refine ⟨.stuck
            ⟨[], sql, rest, calls, rfl, hSent, ?_⟩,
              hKept.trans (.spoil used)⟩
          simp [flushed]

/-
  What a connection has pending was run first, and then a
  call was sent, unless something failed before it.
-/
inductive Performed
    (call : Call)
    (pending : List String) :
    List (Call × Fate) → Bool → Prop
  | sent {calls ok}
      (hSent : Sent call calls ok) :
      Performed call pending (flushed pending ++ calls) ok
  | stuck {calls}
      (hStuck : Stuck pending calls) :
      Performed call pending calls false

/- A connection with nothing pending any more. -/
def Settled (conn used : Connection) : Prop :=
  ({ conn with pending := [] } : Connection).Kept used

/-
  A statement is sent behind what is pending, and nothing is
  pending then.
-/
theorem perform_yields
    (call : Call)
    (conn : Connection)
    (db : Database σ) :
    Yields (perform call) conn db fun result used calls =>
      Performed call conn.pending calls result.isOk ∧
        Settled conn used := by
  have hFlush :
      Yields flush conn db fun result used calls =>
        Flushed conn.pending calls result.isOk ∧
          Settled conn used :=
    flushAll_yields conn.pending
      { conn with pending := [] } db
  apply hFlush.bind
  rintro result used calls db ⟨hFlushed, hSettled⟩
  cases result with
  | ok _ =>
      cases hFlushed with
      | all =>
          apply (dispatch_yields call used db).mono
          rintro result last more ⟨hSent, hKept⟩
          exact ⟨.sent hSent, hSettled.trans hKept⟩
  | error e =>
      cases hFlushed with
      | stuck hStuck =>
          apply Yields.pure
          rw [List.append_nil]
          exact ⟨.stuck hStuck, hSettled⟩

end Use

end SqlAccess
