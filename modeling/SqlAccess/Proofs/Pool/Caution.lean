import SqlAccess.Proofs.Pool.Exchange

/-
  This file says what a use of a connection cannot do.  It
  leaves the pools and all other connections alone, and a
  connection that is still relied on has had no call that
  may have been carried out without an answer.

  Key definitions include:
    * `Fate.isHarmless`
    * `Connection.Relied`
    * `Database.Apart`
    * `Use.Cautious`
    * `Use.Careful`

  Key theorems include:
    * `Use.Yields.and`
    * `Use.Careful.bind`
    * `Use.dispatch_careful`
    * `Use.perform_careful`
    * `Use.ping_careful`
-/

namespace SqlAccess

------------------------------------------------------------
-- Relied Connections
------------------------------------------------------------

/-
  Whether a call is known to be carried out or not: it is
  not if the connection broke or the call took too long.
-/
def Fate.isHarmless : Fate → Bool
  | done => true
  | failed e => !e.spoilsConnection
  | silent => false

/-
  A connection that is relied on and not stuck in a call.
-/
structure Connection.Relied (conn : Connection) : Prop where
  healthy : conn.healthy = true
  answered : conn.unanswered = false

/- What is spoiled is not relied on. -/
theorem Connection.not_relied_spoil (conn : Connection) :
    ¬ conn.spoil.Relied := by
  intro hRelied
  have hHealthy := hRelied.healthy
  simp [Connection.spoil] at hHealthy

------------------------------------------------------------
-- What Is Left Alone
------------------------------------------------------------

/-
  Between two states of a database, nothing has happened to
  its pools, and there were calls on the given connection
  only.
-/
structure Database.Apart
    {σ : Type}
    (id : Nat)
    (before after : Database σ) : Prop where
  pools : after.pools = before.pools
  opened : after.opened = before.opened
  calls :
    ∃ events : List Event,
      after.history = events ++ before.history ∧
        ∀ event ∈ events,
          ∃ call fate, event = .called id call fate

namespace Database.Apart

variable {σ : Type} {id : Nat}

/- Where nothing happened, all is left alone. -/
theorem of_eq
    {before after : Database σ}
    (hPools : after.pools = before.pools)
    (hOpened : after.opened = before.opened)
    (hHistory : after.history = before.history) :
    Apart id before after :=
  ⟨hPools, hOpened, [], by simpa using hHistory,
    by simp⟩

theorem refl (db : Database σ) : Apart id db db :=
  .of_eq rfl rfl rfl

/- What is left alone twice is left alone. -/
theorem trans
    {before middle after : Database σ}
    (hMiddle : Apart id before middle)
    (hAfter : Apart id middle after) :
    Apart id before after := by
  rcases hMiddle.calls with ⟨early, hEarly, hFirst⟩
  rcases hAfter.calls with ⟨late, hLate, hSecond⟩
  refine ⟨hAfter.pools.trans hMiddle.pools,
    hAfter.opened.trans hMiddle.opened, late ++ early,
      ?_, ?_⟩
  · rw [hLate, hEarly, List.append_assoc]
  · intro event hEvent
    rw [List.mem_append] at hEvent
    exact hEvent.elim (hSecond event) (hFirst event)

/- Nothing is heard on any other connection. -/
theorem others
    {before after : Database σ}
    (hApart : Apart id before after)
    (other : Nat)
    (hOther : other ≠ id) :
    Heard other [] before after := by
  rcases hApart.calls with ⟨events, hAfter, hCalls⟩
  refine ⟨events, hAfter, ?_⟩
  rw [List.filterMap_eq_nil_iff]
  intro event hEvent
  rw [List.mem_reverse] at hEvent
  rcases hCalls event hEvent with ⟨call, fate, rfl⟩
  simp [Event.callOn?, Ne.symm hOther]

end Database.Apart

namespace Act

variable {σ : Type} {id : Nat}

/- That a replica failed is noted apart from the pools. -/
theorem markReplicaDown_apart
    (target : Target)
    (db : Database σ) :
    Database.Apart id db
      ((markReplicaDown target).run db).2 := by
  cases target with
  | primary => exact .refl db
  | replica index => exact .of_eq rfl rfl rfl

/- That a replica answers is noted apart from the pools. -/
theorem markReplicaUp_apart
    (target : Target)
    (db : Database σ) :
    Database.Apart id db
      ((markReplicaUp target).run db).2 := by
  cases target with
  | primary => exact .refl db
  | replica index => exact .of_eq rfl rfl rfl

/- A call is made on its own connection. -/
theorem ask_apart
    (link : Link)
    (call : Call)
    (db : Database σ) :
    Database.Apart link.id db
      ((ask link call).run db).2 := by
  refine ⟨rfl, rfl, [.called link.id call _], rfl, ?_⟩
  simp

end Act

namespace Use

variable {σ α β : Type}

/- A use stays on its link and leaves the rest alone. -/
def Confined (use : Use σ α) : Prop :=
  ∀ (conn : Connection) (db : Database σ),
    ((use.run conn).run db).1.2.link = conn.link ∧
      Database.Apart conn.link.id db
        ((use.run conn).run db).2

namespace Confined

theorem pure (a : α) : Confined (pure a : Use σ α) :=
  fun _ db => ⟨rfl, .refl db⟩

/- A use stays on its link step by step. -/
theorem bind
    {use : Use σ α}
    {next : α → Use σ β}
    (hUse : Confined use)
    (hNext : ∀ a, Confined (next a)) :
    Confined (use >>= next) := by
  intro conn db
  rcases hUse conn db with ⟨hLink, hApart⟩
  have hLater :=
    hNext ((use.run conn).run db).1.1
      ((use.run conn).run db).1.2 ((use.run conn).run db).2
  rw [hLink] at hLater
  exact ⟨hLater.1, hApart.trans hLater.2⟩

/- A connection may change, but not its link. -/
theorem changing
    {change : Connection → Connection}
    (hLink : ∀ conn, (change conn).link = conn.link) :
    Confined (modify change : Use σ Unit) :=
  fun conn db => ⟨hLink conn, .refl db⟩

theorem connection :
    Confined (connection : Use σ Connection) :=
  fun _ db => ⟨rfl, .refl db⟩

/- What leaves the rest of a database alone is confined. -/
theorem onDatabase
    {act : Act σ α}
    (hAct :
      ∀ (id : Nat) (db : Database σ),
        Database.Apart id db (act.run db).2) :
    Confined (onDatabase act) :=
  fun conn db => ⟨rfl, hAct conn.link.id db⟩

theorem ask (call : Call) :
    Confined (ask call : Use σ (Reply call.Answer)) :=
  fun conn db => ⟨rfl, Act.ask_apart conn.link call db⟩

theorem spoil : Confined (spoil : Use σ Unit) :=
  changing fun _ => rfl

/-
  A connection that is not relied on any more is confined.
-/
theorem condemn : Confined (condemn : Use σ Unit) := by
  apply spoil.bind
  intro _
  apply connection.bind
  intro conn
  apply onDatabase
  intro _ db
  exact Act.markReplicaDown_apart conn.target db

theorem neverEnds (sql : String) :
    Confined (neverEnds sql : Use σ Error) := by
  have hModify :
      Confined
        (modify fun conn =>
          { conn with unanswered := true } :
          Use σ Unit) :=
    changing fun _ => rfl
  exact hModify.bind fun _ => pure _

/- A call is given up on its own connection. -/
theorem giveUp (sql : String) (limit : Duration) :
    Confined (giveUp sql limit : Use σ Error) := by
  have hDatabase :
      Confined (database : Use σ (Database σ)) :=
    onDatabase fun _ db => .refl db
  apply hDatabase.bind
  intro db
  by_cases hCancel : db.backend.cancellable
  · simp only [hCancel, if_true]
    apply (ask .cancel).bind
    intro _
    exact spoil.bind fun _ => pure _
  · simp only [hCancel]
    exact spoil.bind fun _ => pure _

/- A call that takes too long is cancelled there. -/
theorem outlast (sql : String) :
    Confined (outlast sql : Use σ Error) := by
  have hDatabase :
      Confined (database : Use σ (Database σ)) :=
    onDatabase fun _ db => .refl db
  apply hDatabase.bind
  intro db
  cases hLimit : db.config.statementTimeout with
  | some limit => exact giveUp sql limit
  | none => exact neverEnds sql

/-
  What follows a failure, which may spoil the connection.
-/
theorem condemnIf
    (spoils : Bool)
    (a : α) :
    Confined
      (do
        if spoils then Use.condemn
        return a : Use σ α) := by
  cases spoils with
  | true => exact condemn.bind fun _ => pure a
  | false => exact pure a

/- A call is confined, however it ends. -/
theorem dispatch (call : Call) :
    Confined
      (dispatch call :
        Use σ (Except Error call.Answer)) := by
  apply (ask call).bind
  intro reply
  cases reply with
  | done answer =>
      apply connection.bind
      intro conn
      have hUp :
          Confined
            (Use.onDatabase
              (Act.markReplicaUp conn.target) :
              Use σ Unit) :=
        onDatabase fun _ db =>
          Act.markReplicaUp_apart conn.target db
      exact hUp.bind fun _ => pure _
  | failed e => exact condemnIf e.spoilsConnection _
  | silent => exact (outlast call.sql).bind fun _ => pure _

/- A sign of life is asked for on the link. -/
theorem ping :
    Confined (ping : Use σ (Except Error Unit)) := by
  apply (ask .ping).bind
  intro reply
  cases reply with
  | done answer => exact pure _
  | failed e => exact condemnIf e.spoilsConnection _
  | silent => exact (neverEnds "").bind fun _ => pure _

end Confined

end Use

------------------------------------------------------------
-- Caution
------------------------------------------------------------

namespace Use

variable {σ α β : Type}

/-
  A connection that is relied on was relied on before, and
  each call in between is known to be carried out or not.
-/
def Cautious
    (conn used : Connection)
    (calls : List (Call × Fate)) : Prop :=
  used.Relied →
    conn.Relied ∧ ∀ entry ∈ calls,
      entry.2.isHarmless = true

namespace Cautious

variable {conn used last : Connection}
variable {calls more : List (Call × Fate)}

theorem refl (conn : Connection) : Cautious conn conn [] :=
  fun hRelied => ⟨hRelied, by simp⟩

/- Calls are harmless in two parts if they are in each. -/
theorem trans
    (hUsed : Cautious conn used calls)
    (hLast : Cautious used last more) :
    Cautious conn last (calls ++ more) := by
  intro hRelied
  rcases hLast hRelied with ⟨hMiddle, hMore⟩
  rcases hUsed hMiddle with ⟨hConn, hCalls⟩
  refine ⟨hConn, ?_⟩
  intro entry hEntry
  rw [List.mem_append] at hEntry
  cases hEntry with
  | inl hFirst => exact hCalls entry hFirst
  | inr hLater => exact hMore entry hLater

/- Nothing is promised by a connection not relied on. -/
theorem of_not_relied
    (hRelied : ¬ used.Relied) : Cautious conn used calls :=
  fun hUsed => absurd hUsed hRelied

end Cautious

/- The calls of a use are those between the two states. -/
theorem Yields.and
    {use : Use σ α}
    {conn : Connection}
    {db : Database σ}
    {post also :
      α → Connection → List (Call × Fate) → Prop}
    (hPost : Yields use conn db post)
    (hAlso : Yields use conn db also) :
    Yields use conn db fun a used calls =>
      post a used calls ∧ also a used calls := by
  rcases hPost with ⟨calls, hHeard, hLink, hFirst⟩
  rcases hAlso with ⟨same, hSame, -, hSecond⟩
  rcases hHeard with ⟨events, hAfter, rfl⟩
  rcases hSame with ⟨others, hOthers, rfl⟩
  have hEvents : events = others := by
    rw [hAfter] at hOthers
    exact List.append_cancel_right hOthers
  subst hEvents
  exact ⟨_, ⟨events, hAfter, rfl⟩, hLink, hFirst,
    hSecond⟩

/-
  A use that leaves everything else alone and after which
  the connection is relied on for good reason only.
-/
structure Careful (use : Use σ α) : Prop where
  confined : Confined use
  cautious :
    ∀ (conn : Connection) (db : Database σ),
      Yields use conn db fun _ => Cautious conn

namespace Careful

theorem pure (a : α) : Careful (pure a : Use σ α) :=
  ⟨.pure a, fun conn _ => Yields.pure (.refl conn)⟩

/- Care is taken step by step. -/
theorem bind
    {use : Use σ α}
    {next : α → Use σ β}
    (hUse : Careful use)
    (hNext : ∀ a, Careful (next a)) :
    Careful (use >>= next) := by
  refine
    ⟨hUse.confined.bind fun a => (hNext a).confined, ?_⟩
  intro conn db
  apply (hUse.cautious conn db).bind
  intro a used calls after hCalls
  apply ((hNext a).cautious used after).mono
  intro _ last more hMore
  exact hCalls.trans hMore

/- A change is careful if it restores no reliance. -/
theorem changing
    {change : Connection → Connection}
    (hLink : ∀ conn, (change conn).link = conn.link)
    (hRelied :
      ∀ conn, (change conn).Relied → conn.Relied) :
    Careful (modify change : Use σ Unit) := by
  refine ⟨.changing hLink, ?_⟩
  intro conn db
  apply Yields.modify (hLink conn)
  intro hChanged
  exact ⟨hRelied conn hChanged, by simp⟩

theorem spoil : Careful (spoil : Use σ Unit) :=
  changing (fun _ => rfl) fun conn hRelied =>
    absurd hRelied conn.not_relied_spoil

theorem setInside (inside : Bool) :
    Careful (setInside inside : Use σ Unit) :=
  changing (fun _ => rfl) fun _ hRelied =>
    ⟨hRelied.healthy, hRelied.answered⟩

theorem defer (sql : String) :
    Careful (defer sql : Use σ Unit) :=
  changing (fun _ => rfl) fun _ hRelied =>
    ⟨hRelied.healthy, hRelied.answered⟩

theorem forgetPending :
    Careful (forgetPending : Use σ Unit) :=
  changing (fun _ => rfl) fun _ hRelied =>
    ⟨hRelied.healthy, hRelied.answered⟩

end Careful

/-
  Nobody relies on a connection with a call that never ends.
-/
theorem neverEnds_unrelied
    (sql : String)
    (conn : Connection)
    (db : Database σ) :
    Yields (neverEnds sql) conn db fun _ used _ =>
      ¬ used.Relied := by
  refine ⟨[], .of_history_eq rfl, rfl, ?_⟩
  intro hRelied
  cases hRelied.answered

/- A call that takes too long leaves nothing to rely on. -/
theorem outlast_unrelied
    (sql : String)
    (conn : Connection)
    (db : Database σ) :
    Yields (outlast sql) conn db fun _ used _ =>
      ¬ used.Relied := by
  apply (database_yields conn db).bind
  rintro seen conn _ db ⟨rfl, rfl⟩
  cases hLimit : seen.config.statementTimeout with
  | some limit =>
      apply (database_yields conn db).bind
      rintro seen conn _ db ⟨rfl, rfl⟩
      by_cases hCancel : seen.backend.cancellable
      · simp only [hCancel, if_true]
        apply (ask_yields .cancel conn db).bind
        rintro reply conn _ db ⟨rfl, rfl⟩
        apply (spoil_yields conn db).bind
        rintro _ _ _ db ⟨rfl, rfl⟩
        exact Yields.pure conn.not_relied_spoil
      · simp only [hCancel]
        apply (spoil_yields conn db).bind
        rintro _ _ _ db ⟨rfl, rfl⟩
        exact Yields.pure conn.not_relied_spoil
  | none => exact neverEnds_unrelied sql conn db

/- Nobody relies on a connection that is condemned. -/
theorem condemn_unrelied
    (conn : Connection)
    (db : Database σ) :
    Yields condemn conn db fun _ used _ =>
      ¬ used.Relied := by
  apply (condemn_yields conn db).mono
  rintro _ _ _ ⟨rfl, rfl⟩
  exact conn.not_relied_spoil

/-
  A failure that leaves the call in doubt spoils the
  connection.
-/
theorem condemnIf_yields
    {e : Error}
    (call : Call)
    (a : α)
    (conn : Connection)
    (db : Database σ) :
    Yields
      (do
        if e.spoilsConnection then condemn
        return a)
      conn db fun _ used calls =>
        Cautious conn used
          ((call, .failed e) :: calls) := by
  by_cases hSpoils : e.spoilsConnection
  · simp only [hSpoils, if_true]
    apply (condemn_unrelied conn db).bind
    intro _ used calls db hUsed
    exact Yields.pure (.of_not_relied hUsed)
  · simp only [hSpoils]
    apply Yields.pure
    intro hRelied
    refine ⟨hRelied, ?_⟩
    intro entry hEntry
    rw [List.mem_singleton] at hEntry
    subst hEntry
    simpa [Fate.isHarmless] using hSpoils

/-
  A call that fails badly or never ends spoils its
  connection.
-/
theorem dispatch_careful (call : Call) :
    Careful
      (dispatch call :
        Use σ (Except Error call.Answer)) := by
  refine ⟨.dispatch call, ?_⟩
  intro conn db
  apply (ask_yields call conn db).bind
  rintro reply conn _ db ⟨rfl, rfl⟩
  cases reply with
  | done answer =>
      refine ⟨[], .of_history_eq ?_, rfl, ?_⟩
      · exact Act.markReplicaUp_history conn.target db
      · intro hRelied
        exact ⟨hRelied,
          by simp [Reply.fate, Fate.isHarmless]⟩
  | failed e => exact condemnIf_yields call _ conn db
  | silent =>
      apply (outlast_unrelied call.sql conn db).bind
      intro e used calls db hUsed
      exact Yields.pure (.of_not_relied hUsed)

/- So does a sign of life that is not given. -/
theorem ping_careful :
    Careful (ping : Use σ (Except Error Unit)) := by
  refine ⟨.ping, ?_⟩
  intro conn db
  apply (ask_yields .ping conn db).bind
  rintro reply conn _ db ⟨rfl, rfl⟩
  cases reply with
  | done answer =>
      apply Yields.pure
      intro hRelied
      exact ⟨hRelied,
        by simp [Reply.fate, Fate.isHarmless]⟩
  | failed e => exact condemnIf_yields .ping _ conn db
  | silent =>
      apply (neverEnds_unrelied "" conn db).bind
      intro e used calls db hUsed
      exact Yields.pure (.of_not_relied hUsed)

/- What is pending is run with care, one after the other. -/
theorem flushAll_careful (pending : List String) :
    Careful
      (flushAll pending : Use σ (Except Error Unit)) := by
  induction pending with
  | nil => exact .pure _
  | cons sql rest ih =>
      apply (dispatch_careful (.batch sql)).bind
      intro result
      cases result with
      | ok answer => exact ih
      | error e => exact Careful.spoil.bind fun _ => .pure _

/- What is pending is forgotten and then run with care. -/
theorem flush_careful :
    Careful (flush : Use σ (Except Error Unit)) := by
  have hTake :
      Careful (takePending : Use σ (List String)) := by
    refine ⟨fun _ db => ⟨rfl, .refl db⟩, ?_⟩
    intro conn db
    refine ⟨[], .of_history_eq rfl, rfl, ?_⟩
    intro hRelied
    exact ⟨⟨hRelied.healthy, hRelied.answered⟩,
      by simp⟩
  exact hTake.bind flushAll_careful

/- A statement runs with care behind what is pending. -/
theorem perform_careful (call : Call) :
    Careful
      (perform call :
        Use σ (Except Error call.Answer)) := by
  apply flush_careful.bind
  intro result
  cases result with
  | ok answer => exact dispatch_careful call
  | error e => exact .pure _

end Use

end SqlAccess
