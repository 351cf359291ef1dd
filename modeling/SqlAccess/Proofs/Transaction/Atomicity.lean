import SqlAccess.Proofs.Pool.Retirement
import SqlAccess.Proofs.Transaction.Undertaking

/-
  This file shows that a block in a transaction is carried
  out as a whole.  It succeeds if its body does and "COMMIT"
  was answered, and then its work is durable.  Whatever else
  comes of it, nothing of its work is durable, and its
  connection is out of the transaction or out of use.

  Key definitions include:
    * `Transaction.Handed`

  Key theorems include:
    * `Transaction.begin_retires`
    * `Transaction.Undertaking.Sound.retires`
    * `Transaction.all_or_nothing`
-/

namespace SqlAccess

variable {σ α : Type}

namespace Transaction

------------------------------------------------------------
-- Connections of Blocks
------------------------------------------------------------

section Begins

variable {db opened after : Database σ}
variable {conn used : Connection} {e : Error}

/- Without a connection, no transaction begins. -/
theorem begin_of_refused
    (hCheckout :
      (Act.checkout .primary).run db = (.error e, opened)) :
    begin.run db = (.error e, opened) := by
  unfold begin
  rw [Act.bind_run, hCheckout]
  rfl

variable
  (hCheckout :
    (Act.checkout .primary).run db = (.ok conn, opened))
include hCheckout

/-
  A connection on which no transaction begins is let go of.
-/
theorem begin_of_denied
    (hBegun :
      (Scope.beginOutermost.run conn).run opened =
        ((.error e, used), after)) :
    begin.run db =
      (.error e, ((Act.release used).run after).2) := by
  unfold begin
  rw [Act.bind_run, hCheckout]
  dsimp only
  rw [Act.bind_run, hBegun]
  rfl

/- A transaction that begins has its connection. -/
theorem begin_of_begun
    {scope : Scope}
    (hBegun :
      (Scope.beginOutermost.run conn).run opened =
        ((.ok scope, used), after)) :
    begin.run db = (.ok ⟨scope, used⟩, after) := by
  unfold begin
  rw [Act.bind_run, hCheckout]
  dsimp only
  rw [Act.bind_run, hBegun]
  rfl

end Begins

section Connections

variable {crowd : Crowd σ} {limit : Nat}
variable {opened : Database σ} {conn : Connection}
variable (hLawful : crowd.Lawful limit)
variable (hReady : crowd.Ready)

/- A connection that is handed out for a transaction. -/
structure Handed
    (crowd : Crowd σ)
    (opened : Database σ)
    (conn : Connection) : Prop where
  pending : conn.pending = []
  quiet : ∀ id, Database.Heard id [] crowd.db opened
  only :
    Crowd.Discarded conn.id { crowd with db := opened }

include hLawful hReady

/-
  What a checkout of the primary hands out is a connection
  of the crowd that nobody else has.
-/
theorem checkout_handed
    (hCheckout :
      (Act.checkout .primary).run crowd.db =
        (.ok conn, opened)) :
    Handed crowd opened conn := by
  have hSupplied :
      crowd.db.Supplied opened [] [conn] := by
    have hSupplies :=
      Act.checkout_supplies crowd.db .primary
    rw [Act.Supplies, hCheckout] at hSupplies
    exact hSupplies
  have hClear :=
    hReady.supplied hSupplied (List.forall_mem_nil _)
  exact ⟨(hClear conn List.mem_cons_self).pending,
    hSupplied.quiet,
    Crowd.handed_discarded hLawful hSupplied⟩

end Connections

section Sessions

variable {crowd : Crowd σ} {opened after : Database σ}
variable {conn used : Connection}

variable (hHanded : Handed crowd opened conn)
include hHanded

/- A connection on which no transaction begins. -/
theorem Handed.denied_fits
    {e : Error}
    (hBegun :
      (Scope.beginOutermost.run conn).run opened =
        ((.error e, used), after))
    (hBefore : crowd.db.mayBeOpen conn.id = false) :
    Engagement.free.Fits used
      (after.mayBeOpen conn.id) := by
  have hClosed : opened.mayBeOpen conn.id = false :=
    (hHanded.quiet conn.id).mayBeOpen.trans hBefore
  have hFits :
      Engagement.free.Fits conn
        (opened.mayBeOpen conn.id) :=
    ⟨hHanded.pending, fun _ _ => hClosed⟩
  rcases Handling.beginOutermost_yields conn opened
    hFits with
    ⟨calls, hHeard, -, hUsed⟩
  rw [hBegun] at hHeard hUsed
  have hAfter : after.mayBeOpen conn.id = _ :=
    hHeard.mayBeOpen
  rw [hAfter]
  exact hUsed

/-
  If a transaction does not begin on a connection, no
  session has one open that had none, or the connection is
  out of use.
-/
theorem Handed.denied
    {e : Error}
    (hBegun :
      (Scope.beginOutermost.run conn).run opened =
        ((.error e, used), after))
    {id : Nat}
    (hOpen :
      ((Act.release used).run after).2.mayBeOpen id =
        true) :
    crowd.db.mayBeOpen id = true ∨
      Crowd.Retires id
        { crowd with
          db := ((Act.release used).run after).2 } :=
  by
  have hConfined :=
    Scope.beginOutermost_careful.confined conn opened
  rw [hBegun] at hConfined
  rcases hConfined with ⟨hLink, hApart⟩
  have hId : used.id = conn.id := congrArg Link.id hLink
  by_cases hSame : id = conn.id
  · subst hSame
    cases hBefore : crowd.db.mayBeOpen conn.id with
    | true => exact .inl rfl
    | false =>
        have hFits := hHanded.denied_fits hBegun hBefore
        have hOnly := hHanded.only.used hApart
        rw [← hId] at hFits hOnly hOpen ⊢
        rcases Crowd.release_retires hOnly hFits with
          hShut | hRetires
        · rw [hShut] at hOpen
          cases hOpen
        · exact .inr hRetires
  · left
    have hHeard :=
      ((hHanded.quiet id).trans
        (hApart.others id hSame)).release used
    rw [hHeard.mayBeOpen] at hOpen
    exact hOpen

/- A transaction begins with one call on its connection. -/
theorem Handed.begun
    {scope : Scope}
    (hBegun :
      (Scope.beginOutermost.run conn).run opened =
        ((.ok scope, used), after)) :
    Database.Heard used.id [(.batch "BEGIN", .done)]
      crowd.db
        after ∧
      Crowd.Discarded used.id
        { crowd with db := after } := by
  have hConfined :=
    Scope.beginOutermost_careful.confined conn opened
  rw [hBegun] at hConfined
  rcases hConfined with ⟨hLink, hApart⟩
  have hId : used.id = conn.id := congrArg Link.id hLink
  rcases Scope.beginOutermost_yields conn opened with
    ⟨calls, hHeard, -, hRoot⟩
  rw [hBegun] at hHeard hRoot
  rcases hRoot scope rfl with ⟨-, -, rfl⟩
  rw [hHanded.pending] at hHeard
  rw [hId]
  exact ⟨(hHanded.quiet conn.id).trans hHeard,
    hHanded.only.used hApart⟩

end Sessions

section Begins

variable {crowd : Crowd σ} {limit : Nat}
variable (hLawful : crowd.Lawful limit)
variable (hReady : crowd.Ready)
include hLawful hReady

/-
  If no transaction begins, a session that may have one open
  may have had it before, or its connection is out of use.
-/
theorem begin_retires
    {e : Error}
    {failed : Database σ}
    (hBegin : begin.run crowd.db = (.error e, failed))
    {id : Nat}
    (hOpen : failed.mayBeOpen id = true) :
    crowd.db.mayBeOpen id = true ∨
      Crowd.Retires id { crowd with db := failed } := by
  rcases hCheckout :
      (Act.checkout .primary).run crowd.db with
    ⟨refusal | conn, opened⟩
  · rw [begin_of_refused hCheckout] at hBegin
    cases hBegin
    have hSupplies :=
      Act.checkout_supplies crowd.db .primary
    rw [Act.Supplies, hCheckout] at hSupplies
    left
    exact (hSupplies.quiet id).mayBeOpen.symm.trans hOpen
  · have hHanded :=
      checkout_handed hLawful hReady hCheckout
    rcases hBegun :
        (Scope.beginOutermost.run conn).run opened with
      ⟨⟨denial | scope, used⟩, after⟩
    · rw [begin_of_denied hCheckout hBegun] at hBegin
      cases hBegin
      exact hHanded.denied hBegun hOpen
    · rw [begin_of_begun hCheckout hBegun] at hBegin
      cases hBegin

/-
  A transaction that has begun is alone on its connection,
  where only its beginning was called.
-/
theorem begin_handed
    {transaction : Transaction}
    {begun : Database σ}
    (hBegin :
      begin.run crowd.db = (.ok transaction, begun)) :
    Database.Heard transaction.conn.id
        [(.batch "BEGIN", .done)] crowd.db begun ∧
      Crowd.Discarded transaction.conn.id
        { crowd with db := begun } := by
  rcases hCheckout :
      (Act.checkout .primary).run crowd.db with
    ⟨refusal | conn, opened⟩
  · rw [begin_of_refused hCheckout] at hBegin
    cases hBegin
  · have hHanded :=
      checkout_handed hLawful hReady hCheckout
    rcases hBegun :
        (Scope.beginOutermost.run conn).run opened with
      ⟨⟨denial | scope, used⟩, after⟩
    · rw [begin_of_denied hCheckout hBegun] at hBegin
      cases hBegin
    · rw [begin_of_begun hCheckout hBegun] at hBegin
      cases hBegin
      exact hHanded.begun hBegun

end Begins

section Ends

/-
  At its end, a block uses its connection once more, and
  lets go of it.
-/
theorem endRoot_fits
    (conn : Connection)
    (result : Except Error α)
    (db : Database σ) :
    ∃ used after,
      used.link = conn.link ∧
      Database.Apart conn.link.id db after ∧
      Engagement.free.Fits used
        (after.mayBeOpen conn.link.id) ∧
      ((Session.endRoot ⟨.root, conn⟩
        (endingOf result)).run
          db).2 =
        ((Act.release used).run after).2 := by
  cases result with
  | ok a =>
      let run := (Scope.root.commit.run conn).run db
      rcases Scope.root.commit_careful.confined conn db with
        ⟨hLink, hApart⟩
      rcases
          @Handling.endOutermost_yields σ
            (db.mayBeOpen conn.link.id) conn db .commit with
        ⟨calls, hHeard, -, hFits⟩
      rw [← hHeard.mayBeOpen] at hFits
      exact ⟨run.1.2, run.2, hLink, hApart, hFits, rfl⟩
  | error e =>
      let run := (Scope.root.rollback.run conn).run db
      rcases Scope.root.rollback_careful.confined conn
        db with
        ⟨hLink, hApart⟩
      rcases
          @Handling.endOutermost_yields σ
            (db.mayBeOpen conn.link.id) conn db
              .rollback with
        ⟨calls, hHeard, -, hFits⟩
      rw [← hHeard.mayBeOpen] at hFits
      exact ⟨run.1.2, run.2, hLink, hApart, hFits, rfl⟩

/-
  When a block has ended, the session of its connection has
  no transaction open, or the connection is out of use.
-/
theorem Undertaking.Sound.retires
    {crowd : Crowd σ}
    {undertaking : Undertaking σ α}
    (hSound : undertaking.Sound)
    (hDiscarded :
      Crowd.Discarded undertaking.transaction.conn.id
        { crowd with db := undertaking.begun }) :
    let id := undertaking.transaction.conn.id
    let last := undertaking.ended.2
    last.mayBeOpen id = false ∨
      Crowd.Retires id { crowd with db := last } := by
  intro id last
  rcases endRoot_fits undertaking.used undertaking.given
      undertaking.reached with
    ⟨used, after, hUsed, hLater, hFits, hEnded⟩
  have hLast : last = ((Act.release used).run after).2 := by
    rw [← hEnded, ← hSound.left_eq]
    rfl
  have hId : used.id = id :=
    congrArg Link.id (hUsed.trans hSound.link)
  have hOnly :
      Crowd.Discarded used.id
        { crowd with db := after } := by
    rw [hId]
    exact (hDiscarded.used hSound.apart).used hLater
  rw [hSound.link] at hFits
  rw [hLast, ← hId]
  exact Crowd.release_retires hOnly (hId ▸ hFits)

end Ends

------------------------------------------------------------
-- Blocks as a Whole
------------------------------------------------------------

section Blocks

variable {ν : Type} {db : Database σ}
variable {body : Scope → Use σ (ν × Except Error α)}

/-
  A block without a transaction runs nothing of its body.
-/
theorem block_refused
    {e : Error}
    {failed : Database σ}
    (hBegin : begin.run db = (.error e, failed))
    (noNotes : ν) :
    (block noNotes body).run db =
      ((noNotes, .error e), failed) := by
  unfold block
  rw [Act.bind_run, hBegin]
  rfl

/-
  A block with a transaction runs its body and then ends the
  transaction.
-/
theorem block_begun
    {transaction : Transaction}
    {begun : Database σ}
    (hBegin : begin.run db = (.ok transaction, begun))
    (noNotes : ν) :
    (block noNotes body).run db =
      let run :=
        ((body transaction.scope).run transaction.conn).run
          begun
      let settled :=
        (({ transaction with conn := run.1.2 } :
          Transaction).settle run.1.1.2).run run.2
      ((run.1.1.1, settled.1), settled.2) := by
  unfold block
  rw [Act.bind_run, hBegin]
  rfl

end Blocks

/- A block whose transaction begins is an undertaking. -/
theorem block_undertakes
    {db begun : Database σ}
    {transaction : Transaction}
    (hBegin : begin.run db = (.ok transaction, begun))
    (body : Session.Body α 0) :
    (block [] fun scope =>
        body.carryOut (.outermost scope)).run db =
      let undertaking := body.undertake transaction begun
      ((undertaking.moves, undertaking.settled.1),
        undertaking.settled.2) :=
  block_begun hBegin []

/-
  A block in a transaction is all or nothing.  Whatever
  other clients have done before, whatever its body does,
  and whatever comes of each call: if no transaction begins,
  the body is not carried out.  If one does, the calls on
  its connection are those that its timeline shows; the
  block succeeds if and only if its body has and "COMMIT"
  was the last call and was answered; a body that fails says
  why, unless "ROLLBACK" was not answered, and then both
  failures are told; and what it has done is durable if it
  succeeds, and is not if not.  In the end, no session has a
  transaction open that had none before, unless its
  connection is out of use for ever.
-/
theorem all_or_nothing
    (config : Config)
    (backend : Backend σ)
    (memory : σ)
    (turns : List Crowd.Turn)
    (body : Session.Body α 0) :
    let crowd :=
      (Crowd.new config backend memory).pass turns
    let run :=
      (block [] fun scope =>
        body.carryOut (.outermost scope)).run crowd.db
    let after : Crowd σ := { crowd with db := run.2 }
    (∀ e failed,
      begin.run crowd.db = (.error e, failed) →
      run = (([], .error e), failed) ∧
        ∀ id, failed.mayBeOpen id = true →
          crowd.db.mayBeOpen id = true ∨
            after.Retires id) ∧
    ∀ transaction begun,
      begin.run crowd.db = (.ok transaction, begun) →
        let undertaking := body.undertake transaction begun
        let id := transaction.conn.id
        let last := (run.2.callsOn id).getLast?
        run.1.1 = undertaking.moves ∧
        run.2.callsOn id =
          crowd.db.callsOn id ++
            (.batch "BEGIN", .done) ::
              Session.calls undertaking.items ∧
        (∀ a, run.1.2 = .ok a ↔
          undertaking.given = .ok a ∧
            last = some (.batch "COMMIT", .done)) ∧
        (∀ e, undertaking.given = .error e →
          (last = some (.batch "ROLLBACK", .done) →
            run.1.2 = .error e) ∧
          (last ≠ some (.batch "ROLLBACK", .done) →
            ∃ other failure,
              (undertaking.left.rollback.run
                undertaking.reached).1 = .error other ∧
              run.1.2 = .error failure ∧
              TellsBoth e other failure)) ∧
        undertaking.Decides run.1.2.isOk ∧
        (run.2.mayBeOpen id = false ∨
          after.Retires id) := by
  intro crowd run after
  have hLawful : crowd.Lawful config.maxConnections :=
    (Crowd.Lawful.new config backend memory).pass turns
  have hReady : crowd.Ready :=
    (Crowd.Ready.new config backend memory).pass turns
  refine ⟨?_, ?_⟩
  · intro e failed hBegin
    have hRun : run = (([], .error e), failed) :=
      block_refused hBegin []
    refine ⟨hRun, ?_⟩
    intro id hOpen
    have hAfter : after = { crowd with db := failed } := by
      simp only [after, hRun]
    rw [hAfter]
    exact begin_retires hLawful hReady hBegin hOpen
  · intro transaction begun hBegin undertaking id last
    have hSound : undertaking.Sound :=
      Undertaking.sound hBegin body
    have hRun :
        run =
          ((undertaking.moves, undertaking.settled.1),
            undertaking.settled.2) :=
      block_undertakes hBegin body
    have hDb : run.2 = undertaking.ended.2 := by
      rw [hRun]
      exact undertaking.settled_db
    rcases begin_handed hLawful hReady hBegin with
      ⟨hBegun, hOnly⟩
    rcases hSound.heard with ⟨-, -, -, -, hHeard⟩
    have hCalls :
        run.2.callsOn id =
          crowd.db.callsOn id ++
            (.batch "BEGIN", .done) ::
              Session.calls undertaking.items := by
      rw [hDb]
      exact (hBegun.trans hHeard).callsOn_eq
    let earlier : List (Call × Fate) :=
      crowd.db.callsOn id ++ [(.batch "BEGIN", .done)]
    have hLast :
        last =
          (earlier ++
            Session.calls undertaking.items).getLast? := by
      simp only [last, earlier, hCalls, List.append_assoc,
        List.singleton_append]
    have hResult : run.1.2 = undertaking.settled.1 := by
      rw [hRun]
    refine ⟨?_, hCalls, ?_, ?_, ?_, ?_⟩
    · rw [hRun]
    · intro a
      rw [hResult, hLast]
      exact hSound.settled_ok _ a
    · intro e hGiven
      rw [hResult, hLast]
      exact hSound.settled_error _ hGiven
    · rw [hResult, undertaking.settled_isOk]
      exact Undertaking.decides hBegin body
    · have hAfter :
          after =
            { crowd with db := undertaking.ended.2 } := by
        simp only [after, hDb]
      rw [hDb, hAfter]
      exact hSound.retires hOnly

/-
  A body that runs a statement, and another one in a scope.
-/
def sampleBody : Session.Body Nat 0 :=
  .run (.batch "a") fun _ =>
    .begin
      (.run (.batch "b") fun _ =>
        .finish .commit fun _ => .done (.ok 7))
      fun e => .done (.error e)

/-
  What a block with this body comes to if some calls fail.
-/
def sampleBlock
    (faults : List Nat) :
    Except Error Nat × Database Nat :=
  let run :=
    (block [] fun scope =>
      sampleBody.carryOut (.outermost scope)).run
        (sampleDatabase faults)
  (run.1.2, run.2)

/-
  One body keeps all of its work and one keeps none, as they
  end.
-/
theorem all_or_nothing_sample :
    let kept := sampleBody.undertake sample (sampleBegun [])
    let undone :=
      sampleBody.undertake sample (sampleBegun [5])
    ((sampleBlock []).2.callsOn 1).getLast? =
        some (.batch "COMMIT", .done) ∧
      (Server.begun.replay kept.items).durable.map
          Work.number = [3, 5] ∧
      (Server.begun.replay undone.items).durable = [] := by
  intro kept undone
  rcases
      (all_or_nothing (.new .sqlite "p") (.failing []) 0 []
        sampleBody).2 sample (sampleBegun []) rfl with
    ⟨-, -, hOk, -, hKept, -⟩
  rcases
      (all_or_nothing (.new .sqlite "p") (.failing [5]) 0 []
        sampleBody).2 sample (sampleBegun [5]) rfl with
    ⟨-, -, -, -, hUndone, -⟩
  have hSucceeded : (sampleBlock []).1 = .ok 7 := by
    decide +kernel
  have hFailed : (sampleBlock [5]).1.isOk = false := by
    decide +kernel
  refine ⟨((hOk 7).1 hSucceeded).2, ?_, ?_⟩
  · have hOrdinary :=
      Session.ordinary_of_all
        (by decide +kernel :
          kept.moves.all Session.Move.isOrdinary = true)
    rw [hKept.ordinary hOrdinary]
    decide +kernel
  · have hOrdinary :=
      Session.ordinary_of_all
        (by decide +kernel :
          undone.moves.all Session.Move.isOrdinary = true)
    refine (hUndone.ordinary hOrdinary).trans (if_neg ?_)
    rw [Bool.not_eq_true]
    exact hFailed

end Transaction

end SqlAccess
