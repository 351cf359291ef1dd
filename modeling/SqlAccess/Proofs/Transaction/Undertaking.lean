import SqlAccess.Proofs.Transaction.Body
import SqlAccess.Proofs.Transaction.Settlement

/-
  This file follows a block whose transaction has begun to
  its end.  The calls on its connection are those of its
  timeline.  If the block succeeds, "COMMIT" was the last
  call and was answered, and the work is durable.  If not,
  nothing is, and the failure is that of the body, or tells
  that the work could not be undone, either.

  Key definitions include:
    * `Transaction.Undertaking`
    * `Session.Body.undertake`
    * `Transaction.Undertaking.Decides`

  Key theorems include:
    * `Transaction.Undertaking.sound`
    * `Transaction.Undertaking.decides`
    * `Transaction.Undertaking.Sound.heard`
    * `Transaction.Undertaking.Sound.settled_ok`
    * `Transaction.Undertaking.Sound.settled_error`
-/

namespace SqlAccess

variable {σ α : Type}

namespace Transaction

------------------------------------------------------------
-- Undertakings
------------------------------------------------------------

/-
  A block whose transaction has begun: the moves of its
  body, what the body has come to, and the connection and
  the database at the end of the body.
-/
structure Undertaking (σ α : Type) where
  transaction : Transaction
  begun : Database σ
  moves : List Session.Move
  given : Except Error α
  used : Connection
  reached : Database σ

end Transaction

/-
  Carry out the body of a block, as far as its own result.
-/
def Session.Body.undertake
    (body : Session.Body α 0)
    (transaction : Transaction)
    (begun : Database σ) : Transaction.Undertaking σ α :=
  let run :=
    ((body.carryOut (.outermost transaction.scope)).run
      transaction.conn).run begun
  ⟨transaction, begun, run.1.1.1, run.1.1.2, run.1.2,
    run.2⟩

namespace Transaction

namespace Undertaking

/- The transaction as the body has left it. -/
def left (undertaking : Undertaking σ α) : Transaction :=
  { undertaking.transaction with conn := undertaking.used }

/- The timeline of the body. -/
def bodyItems
    (undertaking : Undertaking σ α) : List Session.Item :=
  undertaking.transaction.timeline undertaking.moves
    undertaking.begun

/- The timeline of the whole transaction. -/
def items
    (undertaking : Undertaking σ α) : List Session.Item :=
  undertaking.transaction.timeline
    (undertaking.moves ++
      [.finish (endingOf undertaking.given)])
    undertaking.begun

/- What the end of the block made of the transaction. -/
def ended
    (undertaking : Undertaking σ α) :
    Bool × Database σ :=
  (Session.endRoot undertaking.left
    (endingOf undertaking.given)).run undertaking.reached

/- The body of a block has led from its begin to its end. -/
structure Sound
    (undertaking : Undertaking σ α) :
    Prop where
  link :
    undertaking.used.link =
      undertaking.transaction.conn.link
  apart :
    Database.Apart undertaking.transaction.conn.link.id
      undertaking.begun undertaking.reached
  stands :
    Session.Stands ⟨undertaking.transaction, []⟩ .fresh
  leads :
    Session.Leads undertaking.moves
      ⟨undertaking.transaction, []⟩ undertaking.begun
      ⟨undertaking.left, []⟩ undertaking.reached

/- Whatever its body does, an undertaking is sound. -/
theorem sound
    {transaction : Transaction}
    {db begun : Database σ}
    (hBegin :
      Transaction.begin.run db = (.ok transaction, begun))
    (body : Session.Body α 0) :
    (body.undertake transaction begun).Sound := by
  rcases begin_ok hBegin with ⟨hScope, hPending, -⟩
  rcases (body.carryOut_careful
      (.outermost transaction.scope)).confined
        transaction.conn begun with
    ⟨hLink, hApart⟩
  refine ⟨hLink, hApart,
    ⟨hScope, rfl, hPending, Nat.zero_le _⟩, ?_⟩
  exact body.carryOut_leads (.outermost transaction.scope)
    transaction.conn begun

section Sound

variable {undertaking : Undertaking σ α}

/- What the end of the block adds to the timeline. -/
def closingItems
    (undertaking : Undertaking σ α) : List Session.Item :=
  Session.callsSince undertaking.reached undertaking.ended.2
      undertaking.used.id ++
    [.closed (endingOf undertaking.given)
      undertaking.ended.1]

/- Whether the work of a block is kept. -/
def kept (undertaking : Undertaking σ α) : Bool :=
  undertaking.given.isOk && undertaking.ended.1

/- The end of the block comes after its body. -/
theorem Sound.items_eq (hSound : undertaking.Sound) :
    undertaking.items =
      undertaking.bodyItems ++
        undertaking.closingItems := by
  have hPlay :=
    hSound.leads.play_append
      [.finish (endingOf undertaking.given)]
  refine hPlay.trans ?_
  simp only [Session.play, Session.step_finish_nil]
  rfl

/- The body leaves the transaction at some standing. -/
theorem Sound.run (hSound : undertaking.Sound) :
    ∃ standing,
      Session.Run (fun _ => True) .fresh
        undertaking.bodyItems
          standing ∧
        Session.Stands ⟨undertaking.left, []⟩
          standing :=
  hSound.leads.run hSound.stands fun _ _ => trivial

/-
  The end of a block may run what is pending, and then ends
  the transaction.
-/
theorem Sound.closing (hSound : undertaking.Sound) :
    ∃ standing flush last closing,
      undertaking.closingItems = flush ++ closing ∧
        standing.Sound ∧
        Session.Run (fun _ => False) standing flush last ∧
        Session.Closing last closing := by
  rcases hSound.run with ⟨standing, hRun, hStands⟩
  have hAdvances :
      Session.Advances (fun _ => False) standing
        (Session.step (.finish (endingOf undertaking.given))
          ⟨undertaking.left, []⟩ undertaking.reached) :=
    Session.step_advances hStands _ (by rintro _ ⟨⟩) _
  rw [Session.step_finish_nil _ _ rfl] at hAdvances
  rcases hAdvances with
    ⟨flush, last, closing, hItems, hFlush, hClosing⟩
  exact ⟨standing, flush, last, closing, hItems,
    hRun.sound Session.Standing.fresh_sound, hFlush,
      hClosing⟩

end Sound

/-
  The whole transaction is committed if the block is kept.
-/
theorem rootCommitted_closingItems
    (undertaking : Undertaking σ α) :
    Session.rootCommitted undertaking.closingItems =
      undertaking.kept := by
  have hCalls :=
    Session.rootCommitted_callsSince undertaking.reached
      undertaking.ended.2 undertaking.used.id
  unfold Session.rootCommitted at hCalls ⊢
  rw [closingItems, List.any_append, hCalls, Bool.false_or,
    kept, endingOf]
  cases undertaking.given.isOk <;>
    cases undertaking.ended.1 <;> rfl

/- No statement of the body has ended the transaction. -/
def StaysInside (undertaking : Undertaking σ α) : Prop :=
  ∀ statement, .run statement ∈ undertaking.moves →
    statement.call.Spares undertaking.bodyItems

/-
  What becomes of the work of a block.  If it is kept, all
  that could be seen when it was committed is durable.  If
  not, then nothing is that was not before the end of the
  block, and that is nothing at all unless the body has
  ended the transaction itself.  Of statements that do not
  control the transaction, those are kept whose scopes were
  not undone.
-/
structure Decides
    (undertaking : Undertaking σ α)
    (isKept : Bool) : Prop where
  committed :
    isKept = true →
      ∃ before number,
        undertaking.items =
            before ++
              [.called number (.batch "COMMIT") .done,
                .closed .commit true] ∧
          (Server.begun.replay undertaking.items).durable =
            (Server.begun.replay before).visible
  undone :
    isKept = false →
      (Server.begun.replay undertaking.items).durable =
        (Server.begun.replay undertaking.bodyItems).durable
  nothing :
    isKept = false → undertaking.StaysInside →
      (Server.begun.replay undertaking.items).durable = []
  ordinary :
    (∀ statement, .run statement ∈ undertaking.moves →
      statement.call.isOrdinary = true) →
        (Server.begun.replay undertaking.items).durable =
          if isKept then
            Session.retained
              (fun name rest =>
                !(Session.marks name rest).undone)
              [] undertaking.items
          else []

section Decides

variable {undertaking : Undertaking σ α}

/- The closing of the transaction is a commit or is none. -/
theorem rootCommitted_closing
    {flush closing : List Session.Item}
    {standing last : Session.Standing}
    (hItems : undertaking.closingItems = flush ++ closing)
    (hFlush :
      Session.Run (fun _ => False) standing flush last) :
    Session.rootCommitted closing = undertaking.kept := by
  have hAll := undertaking.rootCommitted_closingItems
  have hNone := hFlush.not_rootCommitted
  unfold Session.rootCommitted at hAll hNone ⊢
  rwa [hItems, List.any_append, hNone, Bool.false_or]
    at hAll

/-
  An undertaking that is kept commits in the end, and what
  was visible is durable.
-/
theorem Sound.decides_kept
    (hSound : undertaking.Sound)
    (hKept : undertaking.kept = true) :
    ∃ before number,
      undertaking.items =
          before ++
            [.called number (.batch "COMMIT") .done,
              .closed .commit true] ∧
        (Server.begun.replay undertaking.items).durable =
          (Server.begun.replay before).visible := by
  rcases hSound.closing with
    ⟨standing, flush, last, closing, hItems, -, hFlush,
      hClosing⟩
  have hCommitted := rootCommitted_closing hItems hFlush
  rw [hKept] at hCommitted
  rcases hClosing.of_rootCommitted hCommitted with
    ⟨-, -, number, rfl⟩
  have hAll :
      undertaking.items =
        undertaking.bodyItems ++ flush ++
          [.called number (.batch "COMMIT") .done,
            .closed .commit true] := by
    rw [hSound.items_eq, hItems, List.append_assoc]
  refine ⟨undertaking.bodyItems ++ flush, number,
    hAll, ?_⟩
  rw [hAll, Server.replay_append]
  simp [Server.replay, Server.hear, Server.answer,
    Server.obey]

/- What the library runs at the end does no work. -/
theorem Sound.decides_undone
    (hSound : undertaking.Sound)
    (hKept : undertaking.kept = false) :
    (Server.begun.replay undertaking.items).durable =
      (Server.begun.replay
        undertaking.bodyItems).durable := by
  rcases hSound.closing with
    ⟨standing, flush, last, closing, hItems, hStanding,
      hFlush, hClosing⟩
  have hCommitted := rootCommitted_closing hItems hFlush
  rw [hKept] at hCommitted
  rw [hSound.items_eq, hItems, ← List.append_assoc,
    Server.replay_append, hClosing.uncommitted hCommitted,
    Server.replay_append]
  refine (Server.replay_keeps ?_).durable
  intro number call hMem
  rcases hFlush.done_call hStanding hMem with
    hNever | hPassing
  · cases hNever
  · rcases Call.isPassing_iff.1 hPassing with
      ⟨hIdle, hOngoing⟩
    exact ⟨hOngoing, .inr hIdle⟩

/- Nothing is durable of a body that stays inside. -/
theorem Sound.inside
    (hSound : undertaking.Sound)
    (hInside : undertaking.StaysInside) :
    (Server.begun.replay undertaking.bodyItems).durable =
      [] := by
  rcases hSound.leads.run hSound.stands hInside with
    ⟨standing, hRun, -⟩
  refine (Server.replay_keeps ?_).durable
  intro number call hMem
  refine ⟨?_, .inl rfl⟩
  rcases hRun.done_call Session.Standing.fresh_sound hMem
    with hSpares | hPassing
  · rw [Bool.eq_false_iff]
    intro hEnds
    exact hSpares hEnds number hMem
  · exact (Call.isPassing_iff.1 hPassing).2

/-
  The whole transaction is committed if the block is kept.
-/
theorem Sound.rootCommitted (hSound : undertaking.Sound) :
    Session.rootCommitted undertaking.items =
      undertaking.kept := by
  rcases hSound.run with ⟨standing, hRun, -⟩
  have hNone := hRun.not_rootCommitted
  have hClosing := undertaking.rootCommitted_closingItems
  unfold Session.rootCommitted at hNone hClosing ⊢
  rw [hSound.items_eq, List.any_append, hNone, hClosing,
    Bool.false_or]

/- Ordinary work is kept as its scopes are. -/
theorem Sound.decides_ordinary
    (hSound : undertaking.Sound)
    (hOrdinary :
      ∀ statement,
        .run statement ∈ undertaking.moves →
        statement.call.isOrdinary = true) :
    (Server.begun.replay undertaking.items).durable =
      if undertaking.kept then
        Session.retained
          (fun name rest =>
            !(Session.marks name rest).undone)
          [] undertaking.items
      else [] := by
  have hCourse :
      Session.Course (fun call => call.isOrdinary = true)
        .fresh undertaking.items := by
    refine Session.play_course hSound.stands _ ?_ _
    intro statement hMem
    rcases List.mem_append.1 hMem with hBody | hEnd
    · exact hOrdinary statement hBody
    · cases List.mem_singleton.1 hEnd
  rw [hCourse.durable fun _ => id, hSound.rootCommitted]

/- An undertaking is decided as a whole. -/
theorem decides
    {transaction : Transaction}
    {db begun : Database σ}
    (hBegin :
      Transaction.begin.run db = (.ok transaction, begun))
    (body : Session.Body α 0) :
    (body.undertake transaction begun).Decides
      (body.undertake transaction begun).kept := by
  have hSound := sound hBegin body
  refine ⟨hSound.decides_kept, hSound.decides_undone, ?_,
    hSound.decides_ordinary⟩
  intro hKept hInside
  rw [hSound.decides_undone hKept]
  exact hSound.inside hInside

end Decides

------------------------------------------------------------
-- Calls of a Block
------------------------------------------------------------

section Calls

variable {undertaking : Undertaking σ α}

/- A body leaves no nested scopes behind. -/
theorem Sound.left_eq (hSound : undertaking.Sound) :
    undertaking.left = ⟨.root, undertaking.used⟩ := by
  have hRoot : undertaking.transaction.scope = .root :=
    hSound.stands.root
  rw [left, hRoot]

/-
  The calls of the whole transaction are those that its
  timeline shows.  The end of the block is the last of them.
-/
theorem Sound.heard (hSound : undertaking.Sound) :
    ∃ pending made,
      Use.Performed (.batch (endingSql undertaking.given))
          pending made undertaking.ended.1 ∧
        Session.calls undertaking.items =
          Session.calls undertaking.bodyItems ++ made ∧
        Database.Heard undertaking.transaction.conn.id
          (Session.calls undertaking.items)
            undertaking.begun
          undertaking.ended.2 := by
  have hBody := (hSound.leads.heard hSound.stands).1
  have hEnd :=
    endRoot_performs undertaking.used undertaking.given
      undertaking.reached
  rw [← hSound.left_eq] at hEnd
  rcases hEnd with ⟨pending, made, hPerformed, hMade⟩
  have hClosing :
      Session.calls undertaking.closingItems = made := by
    rw [closingItems, Session.calls_append,
      Session.calls_closed, List.append_nil]
    exact Session.calls_callsSince hMade
  have hCalls :
      Session.calls undertaking.items =
        Session.calls undertaking.bodyItems ++ made := by
    rw [hSound.items_eq, Session.calls_append, hClosing]
  refine ⟨pending, made, hPerformed, hCalls, ?_⟩
  rw [hCalls]
  have hId :
      undertaking.used.link.id =
        undertaking.transaction.conn.id :=
    congrArg Link.id hSound.link
  rw [hId] at hMade
  exact hBody.trans hMade

/-
  The end of the block succeeds if it is the last answer.
-/
theorem Sound.last_iff
    (hSound : undertaking.Sound)
    (earlier : List (Call × Fate)) :
    (earlier ++ Session.calls undertaking.items).getLast? =
        some
          (.batch (endingSql undertaking.given), .done) ↔
      undertaking.ended.1 = true := by
  rcases hSound.heard with
    ⟨pending, made, hPerformed, hCalls, -⟩
  rw [hCalls, ← List.append_assoc]
  exact hPerformed.getLast?_iff (by rintro ⟨⟩) _

end Calls

section Results

variable {undertaking : Undertaking σ α}

/- What the block comes to. -/
def settled
    (undertaking : Undertaking σ α) :
    Except Error α × Database σ :=
  (undertaking.left.settle undertaking.given).run
    undertaking.reached

/- A transaction is settled by its end. -/
theorem settled_db (undertaking : Undertaking σ α) :
    undertaking.settled.2 = undertaking.ended.2 :=
  (settle_run undertaking.left undertaking.given
    undertaking.reached).1

/- A transaction succeeds if its body and its commit do. -/
theorem settled_eq_ok
    (undertaking : Undertaking σ α)
    (a : α) :
    undertaking.settled.1 = .ok a ↔
      undertaking.given = .ok a ∧
        undertaking.ended.1 = true :=
  (settle_run undertaking.left undertaking.given
    undertaking.reached).2.1 a

/- The block succeeds if its work is kept. -/
theorem settled_isOk (undertaking : Undertaking σ α) :
    undertaking.settled.1.isOk = undertaking.kept := by
  have hOk := undertaking.settled_eq_ok
  unfold kept
  cases hSettled : undertaking.settled.1 with
  | ok a =>
      rcases (hOk a).1 hSettled with ⟨hGiven, hEnded⟩
      rw [hGiven, hEnded]
      rfl
  | error e =>
      cases hGiven : undertaking.given with
      | error _ => rfl
      | ok a =>
          have hNot : undertaking.ended.1 ≠ true := by
            intro hEnded
            have hSame := (hOk a).2 ⟨hGiven, hEnded⟩
            rw [hSettled] at hSame
            cases hSame
          rw [Bool.eq_false_iff.2 hNot]
          rfl

/-
  A transaction succeeds if its body does and its last call
  is a commit that is answered.
-/
theorem Sound.settled_ok
    (hSound : undertaking.Sound)
    (earlier : List (Call × Fate))
    (a : α) :
    undertaking.settled.1 = .ok a ↔
      undertaking.given = .ok a ∧
        (earlier ++
          Session.calls undertaking.items).getLast? =
          some (.batch "COMMIT", .done) := by
  refine (undertaking.settled_eq_ok a).trans
    (and_congr_right fun hGiven => ?_)
  have hLast := hSound.last_iff earlier
  rw [hGiven] at hLast
  exact hLast.symm

/-
  A transaction whose body fails is undone, and fails with
  its error.
-/
theorem Sound.settled_error
    (hSound : undertaking.Sound)
    (earlier : List (Call × Fate))
    {e : Error}
    (hGiven : undertaking.given = .error e) :
    let last :=
      (earlier ++ Session.calls undertaking.items).getLast?
    (last = some (.batch "ROLLBACK", .done) →
      undertaking.settled.1 = .error e) ∧
    (last ≠ some (.batch "ROLLBACK", .done) →
      ∃ other failure,
        (undertaking.left.rollback.run
          undertaking.reached).1 = .error other ∧
        undertaking.settled.1 = .error failure ∧
        TellsBoth e other failure) := by
  intro last
  have hError :
      if undertaking.ended.1 then
        undertaking.settled.1 = .error e
      else
        ∃ other,
          (undertaking.left.rollback.run
            undertaking.reached).1 = .error other ∧
          undertaking.settled.1 =
            .error (blockFailed e other) :=
    (settle_run undertaking.left undertaking.given
      undertaking.reached).2.2 e hGiven
  have hLast := hSound.last_iff earlier
  rw [hGiven] at hLast
  refine ⟨?_, ?_⟩
  · intro hAnswered
    rw [if_pos (hLast.1 hAnswered)] at hError
    exact hError
  · intro hNot
    rw [if_neg fun hEnded => hNot (hLast.2 hEnded)]
      at hError
    rcases hError with ⟨other, hRollback, hFailed⟩
    exact ⟨other, _, hRollback, hFailed,
      blockFailed_tellsBoth e other⟩

end Results

end Undertaking

end Transaction

end SqlAccess
