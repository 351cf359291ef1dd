import SqlAccess.Proofs.Pool.Errand

/-
  This file says what each part of a use does to a
  connection: it stays on the connection, makes the calls
  that it was said to make, and the connection knows whether
  a transaction is open on it.

  Key definitions include:
    * `Part`
    * `Aim.part`
    * `Connection.Tracks`
    * `Use.Tracking`
    * `Use.Steady`
    * `Errand.Makes`

  Key theorems include:
    * `Handling.prepare_steady`
    * `Handling.prepare_tracking`
    * `Errand.advance_yields`
    * `Errand.advance_tracking`
-/

namespace SqlAccess

variable {σ : Type}

------------------------------------------------------------
-- What Parts Do to a Connection
------------------------------------------------------------

/-
  What a call is to a transaction: its beginning, its end,
  or anything else.
-/
inductive Part
  | beginning
  | work
  | ending
deriving DecidableEq

namespace Part

/- A call that has begun a transaction. -/
def Begins (part : Part) (entry : Call × Fate) : Prop :=
  part = beginning ∧ entry = (.batch "BEGIN", .done)

/- A call that has ended a transaction. -/
def Ends (part : Part) (entry : Call × Fate) : Prop :=
  part = ending ∧ entry.2 = .done ∧
    (entry.1 = .batch "COMMIT" ∨
      entry.1 = .batch "ROLLBACK")

end Part

/- What the call of an aim is to the transaction. -/
def Aim.part : Aim → Part
  | begin => .beginning
  | commit scope _ =>
      if scope.isNested then .work else .ending
  | rollback scope _ =>
      if scope.isNested then .work else .ending
  | _ => .work

/- What the next call of an errand is to the transaction. -/
def Errand.part (errand : Errand) : Part :=
  match errand.pending with
  | _ :: _ => .work
  | [] => errand.aim.part

/-
  A connection after some calls knows whether it is inside
  of a transaction: it is after one has begun, and it is
  still if it was and none has ended.
-/
structure Connection.Tracks
    (part : Part)
    (calls : List (Call × Fate))
    (conn used : Connection) : Prop where
  target : used.target = conn.target
  begun :
    (∃ entry ∈ calls, part.Begins entry) →
      used.inTransaction = true
  kept :
    conn.inTransaction = true →
      (∀ entry ∈ calls, ¬ part.Ends entry) →
        used.inTransaction = true

namespace Connection.Tracks

variable {part : Part} {calls : List (Call × Fate)}
variable {conn used : Connection}

/- Nothing begins or ends. -/
theorem of_same
    (hTarget : used.target = conn.target)
    (hInside : used.inTransaction = conn.inTransaction)
    (hBegins : ∀ entry ∈ calls, ¬ part.Begins entry) :
    Tracks part calls conn used := by
  refine ⟨hTarget, ?_, ?_⟩
  · rintro ⟨entry, hEntry, hBegin⟩
    exact absurd hBegin (hBegins entry hEntry)
  · intro hConn _
    exact hInside.trans hConn

end Connection.Tracks

namespace Part

/- A statement begins no transaction. -/
theorem not_begins_work (entry : Call × Fate) :
    ¬ work.Begins entry := by
  simp [Begins]

/- The end of a transaction begins none. -/
theorem not_begins_ending (entry : Call × Fate) :
    ¬ ending.Begins entry := by
  simp [Begins]

/- A call that failed has begun nothing. -/
theorem not_begins_of_sent
    {part : Part}
    {call : Call}
    {calls : List (Call × Fate)}
    (hSent : Use.Sent call calls false) :
    ∀ entry ∈ calls, ¬ part.Begins entry := by
  cases hSent with
  | @failed fate cancels hFate hCancels =>
      rintro entry hEntry ⟨-, rfl⟩
      rw [List.mem_cons] at hEntry
      rcases hEntry with hHead | hCancel
      · cases hHead
        exact hFate rfl
      · cases hCancels _ hCancel

end Part

/-
  A use that leaves everything else alone, in a part of a
  transaction that the connection keeps account of.
-/
def Use.Tracking
    {α : Type}
    (part : Part)
    (use : Use σ α) : Prop :=
  Confined use ∧
    ∀ (conn : Connection) (db : Database σ),
      Yields use conn db fun _ used calls =>
        conn.Tracks part calls used

------------------------------------------------------------
-- Before the First Call
------------------------------------------------------------

namespace Use

variable {α β : Type}

/-
  A use that neither begins nor ends a transaction: it keeps
  the target, and whether the connection is inside of one.
  It makes no calls if it is to be quiet.
-/
def Steady (quiet : Bool) (use : Use σ α) : Prop :=
  Confined use ∧
    ∀ (conn : Connection) (db : Database σ),
      Yields use conn db fun _ used calls =>
        (quiet = true → calls = []) ∧
          used.target = conn.target ∧
          used.inTransaction = conn.inTransaction

namespace Steady

variable {quiet : Bool}

theorem pure (a : α) : Steady quiet (pure a : Use σ α) :=
  ⟨.pure a,
    fun _ _ => Yields.pure ⟨fun _ => rfl, rfl, rfl⟩⟩

/- What is steady stays so step by step. -/
theorem bind
    {use : Use σ α}
    {next : α → Use σ β}
    (hUse : Steady quiet use)
    (hNext : ∀ a, Steady quiet (next a)) :
    Steady quiet (use >>= next) := by
  refine ⟨hUse.1.bind fun a => (hNext a).1, ?_⟩
  intro conn db
  apply (hUse.2 conn db).bind
  rintro a used calls after ⟨hCalls, hTarget, hInside⟩
  apply ((hNext a).2 used after).mono
  rintro _ last more ⟨hMore, hLast, hStill⟩
  refine ⟨?_, hLast.trans hTarget, hStill.trans hInside⟩
  intro hQuiet
  rw [hCalls hQuiet, hMore hQuiet, List.append_nil]

/- A change of the connection that leaves both alone. -/
theorem changing
    {change : Connection → Connection}
    (hLink : ∀ conn, (change conn).link = conn.link)
    (hTarget : ∀ conn, (change conn).target = conn.target)
    (hInside :
      ∀ conn,
        (change conn).inTransaction = conn.inTransaction) :
    Steady quiet (modify change : Use σ Unit) :=
  ⟨.changing hLink, fun conn _ =>
    Yields.modify (hLink conn)
      ⟨fun _ => rfl, hTarget conn, hInside conn⟩⟩

theorem spoil : Steady quiet (spoil : Use σ Unit) :=
  changing (fun _ => rfl) (fun _ => rfl) fun _ => rfl

theorem defer (sql : String) :
    Steady quiet (defer sql : Use σ Unit) :=
  changing (fun _ => rfl) (fun _ => rfl) fun _ => rfl

theorem forgetPending :
    Steady quiet (forgetPending : Use σ Unit) :=
  changing (fun _ => rfl) (fun _ => rfl) fun _ => rfl

theorem takePending :
    Steady quiet (takePending : Use σ (List String)) :=
  ⟨fun _ db => ⟨rfl, .refl db⟩,
    fun _ _ => ⟨[], .of_history_eq rfl, rfl, fun _ => rfl,
      rfl, rfl⟩⟩

/- A savepoint is counted without a call. -/
theorem freshSavepoint :
    Steady quiet (Scope.freshSavepoint : Use σ String) :=
  ⟨fun _ db => ⟨rfl, .refl db⟩,
    fun _ _ => ⟨[], .of_history_eq rfl, rfl, fun _ => rfl,
      rfl, rfl⟩⟩

/- A sign of life is no part of a transaction. -/
theorem ping :
    Steady false (ping : Use σ (Except Error Unit)) := by
  refine ⟨.ping, ?_⟩
  intro conn db
  apply (Handling.ping_kept conn db).mono
  rintro _ used _ ⟨hKept, -⟩
  exact ⟨nofun, hKept.target, hKept.inTransaction⟩

/- A scope that is left runs nothing. -/
theorem abandon (scope : Scope) :
    Steady quiet (scope.abandon : Use σ Scope) := by
  unfold Scope.abandon
  split
  · split
    · exact (defer _).bind fun _ => pure _
    · exact forgetPending.bind fun _ => pure _
  · exact pure _

end Steady

end Use

namespace Handling

variable {quiet : Bool}

/- To submit something makes no call yet. -/
theorem submit_steady (aim : Aim) :
    Use.Steady quiet (submit aim : Use σ Activity) :=
  Use.Steady.takePending.bind fun _ => .pure _

/- To submit something in a scope makes no call yet. -/
theorem submitWithin_steady
    (scope : Scope)
    (aim : Aim)
    (otherwise : Engagement) :
    Use.Steady quiet
      (submitWithin scope aim otherwise :
        Use σ Activity) := by
  unfold submitWithin
  split
  · exact submit_steady aim
  · exact .pure _

/- To prepare a rollback makes no call yet. -/
theorem prepareRollback_steady
    (scope : Scope)
    (next : Engagement) :
    Use.Steady quiet
      (prepareRollback scope next : Use σ Activity) := by
  unfold prepareRollback
  split
  · cases hNested : scope.isNested with
    | true => exact submit_steady _
    | false =>
        exact Use.Steady.forgetPending.bind
          fun _ => submit_steady _
  · exact .pure _

/- A transaction that is dropped makes no call yet. -/
theorem endOutermost_drop_steady
    (scope : Scope)
    (idle : Bool) :
    Use.Steady quiet
      (endOutermost scope (.drop idle) :
        Use σ Engagement) := by
  cases idle with
  | false =>
      exact (Use.Steady.abandon scope).bind fun _ => .pure _
  | true =>
      apply (Use.Steady.abandon scope).bind
      intro _
      exact Use.Steady.spoil.bind fun _ => .pure _

/-
  Up to the first call, no transaction begins or ends.  Only
  a sign of life is asked for at once.
-/
theorem prepare_steady
    {handling : Handling}
    (hQuiet : quiet = true → handling ≠ .ping)
    (engagement : Engagement) :
    Use.Steady quiet
      (handling.prepare engagement : Use σ Activity) := by
  fun_cases prepare handling engagement
  case case1 statement => exact submit_steady _
  case case2 statement scope outer =>
    exact submitWithin_steady scope _ _
  case case3 => exact submit_steady _
  case case4 scope outer hActive =>
    exact Use.Steady.freshSavepoint.bind
      fun _ => submit_steady _
  case case5 scope outer hEnded => exact .pure _
  case case6 scope outer =>
    exact submitWithin_steady scope _ _
  case case7 scope outer =>
    exact prepareRollback_steady scope _
  case case8 => exact submit_steady _
  case case9 =>
    cases quiet with
    | false => exact Use.Steady.ping.bind fun _ => .pure _
    | true => exact absurd rfl (hQuiet rfl)
  case case10 =>
    exact Use.Steady.spoil.bind fun _ => .pure _
  case case11 scope idle =>
    exact (endOutermost_drop_steady _ _).bind fun _ =>
      .pure _
  case case12 scope parent outer idle =>
    exact (Use.Steady.abandon _).bind fun _ => .pure _
  case case13 => exact .pure _

/- Preparing for a handling is ordinary work. -/
theorem prepare_tracking
    (handling : Handling)
    (engagement : Engagement) :
    Use.Tracking .work
      (handling.prepare engagement : Use σ Activity) := by
  have hSteady :
      Use.Steady false
        (handling.prepare engagement :
          Use σ Activity) := by
    apply prepare_steady
    exact nofun
  refine ⟨hSteady.1, ?_⟩
  intro conn db
  apply (hSteady.2 conn db).mono
  rintro _ used calls ⟨-, hTarget, hInside⟩
  exact .of_same hTarget hInside
    fun entry _ => Part.not_begins_work entry

end Handling

------------------------------------------------------------
-- The Calls of an Errand
------------------------------------------------------------

namespace Aim

/-
  An end that failed leaves the transaction open for the
  session.
-/
theorem concludeEnd_failed_steady
    (scope : Scope)
    (next : Engagement) :
    Use.Steady true
      (concludeEnd scope next false : Use σ Engagement) :=
  Use.Steady.spoil.bind fun _ => .pure next

/- What failed has neither begun nor ended a transaction. -/
theorem conclude_failed_steady (aim : Aim) :
    Use.Steady true
      (aim.conclude false : Use σ Engagement) := by
  cases aim with
  | run statement engagement => exact .pure _
  | begin => exact .pure _
  | nest name scope outer => exact .pure _
  | commit scope next =>
      exact concludeEnd_failed_steady scope next
  | rollback scope next =>
      exact concludeEnd_failed_steady scope next

/- What a client concludes stays on its connection. -/
theorem conclude_confined (aim : Aim) (ok : Bool) :
    Use.Confined (aim.conclude ok : Use σ Engagement) := by
  have hEnd :
      ∀ scope next,
        Use.Confined
          (concludeEnd scope next ok :
            Use σ Engagement) := by
    intro scope next
    cases ok with
    | false =>
        exact (concludeEnd_failed_steady scope next).1
    | true =>
        cases hNested : scope.isNested with
        | true =>
            simp only [concludeEnd, hNested]
            exact .pure next
        | false =>
            simp only [concludeEnd, hNested]
            exact
              (Use.Careful.setInside false).confined.bind
              fun _ => .pure next
  cases ok with
  | false => exact aim.conclude_failed_steady.1
  | true =>
      cases aim with
      | run statement engagement => exact .pure _
      | begin =>
          exact (Use.Careful.setInside true).confined.bind
            fun _ => .pure _
      | nest name scope outer => exact .pure _
      | commit scope next => exact hEnd scope next
      | rollback scope next => exact hEnd scope next

end Aim

/- The statement that ends a whole transaction. -/
theorem Scope.end_text
    {scope : Scope}
    (hOutermost : scope.isNested = false) :
    scope.commitSql = "COMMIT" ∧
      scope.rollbackSql = "ROLLBACK" := by
  rcases scope with ⟨phase, savepoint⟩
  cases savepoint with
  | some name => cases hOutermost
  | none => exact ⟨rfl, rfl⟩

namespace Aim

/- A scope has ended, and with it a whole transaction. -/
theorem concludeEnd_tracks
    {scope : Scope}
    {sql : String}
    {conn used : Connection}
    (hSql :
      scope.isNested = false →
        sql = "COMMIT" ∨ sql = "ROLLBACK")
    (hKept : conn.Kept used)
    (next : Engagement)
    (db : Database σ) :
    Use.Yields (concludeEnd scope next true) used db
      fun _ last more =>
        more = [] ∧
          conn.Tracks
            (if scope.isNested then .work else .ending)
            [(.batch sql, .done)] last := by
  cases hNested : scope.isNested with
  | true =>
      simp only [concludeEnd, hNested]
      refine Use.Yields.pure ⟨rfl, .of_same hKept.target
        hKept.inTransaction ?_⟩
      intro entry _
      exact Part.not_begins_work entry
  | false =>
      simp only [concludeEnd, hNested]
      refine ⟨[], .of_history_eq rfl, rfl, rfl,
        hKept.target, ?_, ?_⟩
      · rintro ⟨entry, -, hBegins⟩
        exact absurd hBegins (Part.not_begins_ending entry)
      · intro _ hEnds
        have hEnd :
            Part.ending.Ends (.batch sql, .done) := by
          refine ⟨rfl, rfl, ?_⟩
          rcases hSql hNested with rfl | rfl
          · exact .inl rfl
          · exact .inr rfl
        exact absurd hEnd (hEnds _ List.mem_cons_self)

/- The call of an aim was answered. -/
theorem conclude_tracks
    {aim : Aim}
    {conn used : Connection}
    (hKept : conn.Kept used)
    (db : Database σ) :
    Use.Yields (aim.conclude true) used db
      fun _ last more =>
      more = [] ∧
        conn.Tracks aim.part [(aim.call, .done)] last := by
  have hSame :
      conn.Tracks .work [(aim.call, .done)] used :=
    .of_same hKept.target hKept.inTransaction
      fun entry _ => Part.not_begins_work entry
  cases aim with
  | run statement engagement =>
      exact Use.Yields.pure ⟨rfl, hSame⟩
  | begin =>
      exact ⟨[], .of_history_eq rfl, rfl, rfl,
        hKept.target, fun _ => rfl, fun _ _ => rfl⟩
  | nest name scope outer =>
      exact Use.Yields.pure ⟨rfl, hSame⟩
  | commit scope next =>
      apply concludeEnd_tracks _ hKept next db
      intro hOutermost
      exact .inl (Scope.end_text hOutermost).1
  | rollback scope next =>
      apply concludeEnd_tracks _ hKept next db
      intro hOutermost
      exact .inr (Scope.end_text hOutermost).2

end Aim

namespace Errand

/- An errand stays on its connection. -/
theorem advance_confined (errand : Errand) :
    Use.Confined (errand.advance : Use σ Activity) := by
  unfold advance
  cases errand.pending with
  | nil =>
      apply (Use.Confined.dispatch _).bind
      intro result
      exact (errand.aim.conclude_confined _).bind
        fun _ => .pure _
  | cons sql rest =>
      apply (Use.Confined.dispatch (.batch sql)).bind
      intro result
      cases result with
      | ok answer => exact .pure _
      | error e =>
          apply Use.Confined.spoil.bind
          intro _
          exact (errand.aim.conclude_confined false).bind
            fun _ => .pure _

/- The next call of an errand. -/
def next (errand : Errand) : Call :=
  match errand.pending with
  | sql :: _ => .batch sql
  | [] => errand.aim.call

/- The calls of an errand begin with the next one. -/
theorem exists_calls_eq (errand : Errand) :
    ∃ later, errand.calls = errand.next :: later := by
  rcases errand with ⟨pending, aim⟩
  cases pending with
  | nil => exact ⟨[], rfl⟩
  | cons sql rest => exact ⟨_, rfl⟩

/-
  The next call of an errand is made, with a request to stop
  it at most, and the other calls are left, or none is.
-/
structure Makes
    (errand : Errand)
    (activity : Activity)
    (calls : List (Call × Fate)) : Prop where
  sent : ∃ ok, Use.Sent errand.next calls ok
  left :
    activity.calls = [] ∨
      errand.calls = errand.next :: activity.calls

/-
  The connection keeps account of the transaction that its
  calls begin or end.
-/
theorem advance_yields
    (errand : Errand)
    (conn : Connection)
    (db : Database σ) :
    Use.Yields errand.advance conn db
      fun activity used calls =>
        conn.Tracks errand.part calls used ∧
          errand.Makes activity calls := by
  rcases errand with ⟨pending, aim⟩
  cases pending with
  | cons sql rest =>
      apply (Use.dispatch_yields (.batch sql) conn db).bind
      rintro result used calls after ⟨hSent, hKept⟩
      cases result with
      | ok answer =>
          apply Use.Yields.pure
          rw [List.append_nil]
          refine
            ⟨.of_same hKept.target hKept.inTransaction ?_,
            ⟨_, hSent⟩, .inr rfl⟩
          intro entry _
          exact Part.not_begins_work entry
      | error e =>
          apply (Use.spoil_yields used after).bind
          rintro _ _ _ middle ⟨rfl, rfl⟩
          apply (aim.conclude_failed_steady.2 _ middle).bind
          rintro engagement last more final
            ⟨hQuiet, hTarget, hInside⟩
          cases hQuiet rfl
          apply Use.Yields.pure
          rw [List.append_nil, List.append_nil,
            List.append_nil]
          refine ⟨.of_same (hTarget.trans hKept.target)
            (hInside.trans hKept.inTransaction) ?_,
            ⟨_, hSent⟩, .inl rfl⟩
          intro entry _
          exact Part.not_begins_work entry
  | nil =>
      apply (Use.dispatch_yields aim.call conn db).bind
      rintro result used calls after ⟨hSent, hKept⟩
      cases result with
      | ok answer =>
          cases hSent with
          | answered =>
              apply (Aim.conclude_tracks hKept after).bind
              rintro engagement last _ final
                ⟨rfl, hTracks⟩
              exact Use.Yields.pure
                ⟨hTracks, ⟨true, .answered⟩,
                  .inl rfl⟩
      | error e =>
          apply
            (aim.conclude_failed_steady.2 used after).bind
          rintro engagement last more final
            ⟨hQuiet, hTarget, hInside⟩
          cases hQuiet rfl
          apply Use.Yields.pure
          rw [List.append_nil, List.append_nil]
          exact ⟨.of_same (hTarget.trans hKept.target)
            (hInside.trans hKept.inTransaction)
            (Part.not_begins_of_sent hSent), ⟨_, hSent⟩,
            .inl rfl⟩

/- A call of an errand is tracked as the part that it is. -/
theorem advance_tracking (errand : Errand) :
    Use.Tracking errand.part
      (errand.advance : Use σ Activity) :=
  ⟨errand.advance_confined, fun conn db =>
    (errand.advance_yields conn db).mono fun _ _ _ hPost =>
      hPost.1⟩

end Errand

end SqlAccess
