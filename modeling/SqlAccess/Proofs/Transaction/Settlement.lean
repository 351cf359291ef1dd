import Mathlib.Data.List.Basic
import SqlAccess.Proofs.Pool.Accounting
import SqlAccess.Proofs.Transaction.Replay

/-
  This file says what can end a transaction, and what the
  end of a block makes of it.  Nothing becomes durable as
  long as no call that was answered ends the transaction.
  What the library runs inside of it does not, and does no
  work.  A block succeeds if its body has and can be
  committed.

  Key definitions include:
    * `Call.endsTransaction`
    * `Server.Keeps`
    * `Transaction.endingOf`
    * `Transaction.TellsBoth`

  Key theorems include:
    * `Server.replay_keeps`
    * `Use.Performed.getLast?_iff`
    * `Session.Run.done_call`
    * `Transaction.endRoot_performs`
    * `Transaction.settle_run`
-/

namespace SqlAccess

variable {σ α : Type}

------------------------------------------------------------
-- Calls That End a Transaction
------------------------------------------------------------

/- Whether a command ends the transaction. -/
def Command.endsTransaction : Command → Bool
  | commit => true
  | rollback => true
  | _ => false

namespace Call

/- Whether a call ends the transaction if it is answered. -/
def endsTransaction (call : Call) : Bool :=
  (call.commands?.getD []).any Command.endsTransaction

/- A call has not ended the transaction in a timeline. -/
def Spares
    (items : List Session.Item)
    (call : Call) : Prop :=
  call.endsTransaction = true →
    ∀ number, .called number call .done ∉ items

/- Whether a call does no work and does not end it. -/
def isPassing (call : Call) : Bool :=
  !call.isOrdinary && !call.endsTransaction

/-
  A call passes if it does no work and ends no transaction.
-/
theorem isPassing_iff {call : Call} :
    call.isPassing = true ↔
      call.isOrdinary = false ∧
        call.endsTransaction = false := by
  simp [isPassing]

/- Commands of which none ends the transaction pass. -/
theorem isPassing_of_commands
    {call : Call}
    {commands : List Command}
    (hCommands : call.commands? = some commands)
    (hPassing :
      commands.any Command.endsTransaction = false) :
    call.isPassing = true := by
  simp [isPassing, isOrdinary, isControl, endsTransaction,
    hCommands, hPassing]

section Savepoints

variable {name : String} (hName : ';' ∉ name.toList)
include hName

theorem savepoint_isPassing :
    (batch (Scope.savepointSql name)).isPassing = true :=
  isPassing_of_commands (Command.ofText?_savepointSql hName)
    rfl

theorem release_isPassing :
    (batch (Scope.releaseSql name)).isPassing = true :=
  isPassing_of_commands
    (Command.ofText?_releaseSql hName) rfl

theorem undo_isPassing :
    (batch (Scope.undoSql name)).isPassing = true :=
  isPassing_of_commands (Command.ofText?_undoSql hName) rfl

end Savepoints

theorem cancel_isPassing : cancel.isPassing = true :=
  rfl

end Call

------------------------------------------------------------
-- What Servers Keep
------------------------------------------------------------

/-
  Nothing becomes durable between two states of a server,
  and a transaction stays open.
-/
structure Server.Keeps (before after : Server) : Prop where
  durable : after.durable = before.durable
  inside :
    before.log.isSome = true → after.log.isSome = true

namespace Server

theorem Keeps.refl
    (server : Server) :
    Keeps server server :=
  ⟨rfl, id⟩

/- What is kept twice is kept. -/
theorem Keeps.trans
    {before middle after : Server}
    (hFirst : Keeps before middle)
    (hSecond : Keeps middle after) : Keeps before after :=
  ⟨hSecond.durable.trans hFirst.durable,
    fun hInside => hSecond.inside (hFirst.inside hInside)⟩

/-
  A command that ends no transaction keeps what is durable.
-/
theorem obey_keeps
    {command : Command}
    (hCommand : command.endsTransaction = false)
    (server : Server) :
    Keeps server (server.obey command) := by
  rcases server with ⟨durable, log⟩
  cases command with
  | commit => cases hCommand
  | rollback => cases hCommand
  | «begin» => exact ⟨rfl, fun _ => rfl⟩
  | savepoint name =>
      refine ⟨rfl, fun hInside => ?_⟩
      simpa [obey] using hInside
  | release name =>
      refine ⟨rfl, fun hInside => ?_⟩
      simpa [obey, atSavepoint] using hInside
  | rollbackTo name =>
      refine ⟨rfl, fun hInside => ?_⟩
      simpa [obey, atSavepoint] using hInside

/- Commands that end no transaction keep what is durable. -/
theorem foldl_obey_keeps
    {commands : List Command}
    (hCommands :
      commands.any Command.endsTransaction = false)
    (server : Server) :
    Keeps server (commands.foldl obey server) := by
  induction commands generalizing server with
  | nil => exact .refl server
  | cons command rest ih =>
      rw [List.any_cons, Bool.or_eq_false_iff] at hCommands
      exact (obey_keeps hCommands.1 server).trans
        (ih hCommands.2 _)

/-
  Work outside of a transaction would be durable at once.
-/
theorem answer_keeps
    {server : Server}
    {work : Work}
    (hEnds : work.call.endsTransaction = false)
    (hWork :
      server.log.isSome = true ∨
        work.call.isOrdinary = false) :
    Keeps server (server.answer work) := by
  unfold answer
  cases hCommands : work.call.commands? with
  | some commands =>
      rw [Call.endsTransaction, hCommands] at hEnds
      exact foldl_obey_keeps hEnds server
  | none =>
      cases hStatement : work.call.isStatement with
      | false => exact .refl server
      | true =>
          have hOrdinary : work.call.isOrdinary = true := by
            simp [Call.isOrdinary, Call.isControl,
              hCommands, hStatement]
          rw [hOrdinary] at hWork
          rcases hWork with hInside | hNot
          · rcases server with ⟨durable, log | log⟩
            · cases hInside
            · exact ⟨rfl, fun _ => rfl⟩
          · cases hNot

/-
  Nothing becomes durable as long as no call ends the
  transaction and no work is done outside of it.
-/
theorem replay_keeps
    {items : List Session.Item}
    {server : Server}
    (hItems :
      ∀ number call,
        .called number call .done ∈ items →
        call.endsTransaction = false ∧
          (server.log.isSome = true ∨
            call.isOrdinary = false)) :
    Keeps server (server.replay items) := by
  induction items generalizing server with
  | nil => exact .refl server
  | cons item items ih =>
      have hHeard : Keeps server (server.hear item) := by
        cases item with
        | called number call fate =>
            cases fate with
            | done =>
                rcases hItems number call List.mem_cons_self
                  with ⟨hEnds, hWork⟩
                exact answer_keeps hEnds hWork
            | _ => exact .refl server
        | _ => exact .refl server
      refine hHeard.trans (ih ?_)
      intro number call hMem
      rcases hItems number call
        (List.mem_cons_of_mem _ hMem)
        with ⟨hEnds, hWork⟩
      exact ⟨hEnds, hWork.imp_left hHeard.inside⟩

end Server

------------------------------------------------------------
-- The Last Call
------------------------------------------------------------

namespace Use

/-
  A call that failed is not the last one that was answered.
-/
theorem Sent.getLast?_ne
    {sent call : Call}
    {made : List (Call × Fate)}
    (hSent : Sent sent made false)
    (hCall : call ≠ .cancel)
    (earlier : List (Call × Fate)) :
    (earlier ++ made).getLast? ≠ some (call, .done) := by
  intro hLast
  cases hSent with
  | failed hFate hCancels =>
      rw [List.getLast?_append_of_ne_nil _ (by simp)]
        at hLast
      rcases List.mem_cons.1
        (List.mem_of_getLast? hLast) with
        hSame | hCancel
      · cases hSame
        exact hFate rfl
      · exact hCall (hCancels _ hCancel)

/- A call was answered if it is the last one that was. -/
theorem Performed.getLast?_iff
    {call : Call}
    {pending : List String}
    {made : List (Call × Fate)}
    {ok : Bool}
    (hPerformed : Performed call pending made ok)
    (hCall : call ≠ .cancel)
    (earlier : List (Call × Fate)) :
    (earlier ++ made).getLast? = some (call, .done) ↔
      ok = true := by
  cases hPerformed with
  | @sent made ok hSent =>
      rw [← List.append_assoc]
      cases ok with
      | true =>
          cases hSent
          simp
      | false =>
          simp only [Bool.false_eq_true, iff_false]
          exact hSent.getLast?_ne hCall _
  | stuck hStuck =>
      rcases hStuck with
        ⟨before, sql, later, failure, -, hSent, rfl⟩
      simp only [← List.append_assoc, Bool.false_eq_true,
        iff_false]
      exact hSent.getLast?_ne hCall _

end Use

------------------------------------------------------------
-- Calls of the Library
------------------------------------------------------------

namespace Session

section Calls

variable {allowed : Call → Prop} {first last : Standing}
variable {items : List Item} {number : Nat} {call : Call}

/- What the library asks for is about savepoints. -/
theorem Step.done_call
    (hStep : Step allowed first items last)
    (hSound : first.Sound)
    (hMem : .called number call .done ∈ items) :
    allowed call ∨ call.isPassing = true := by
  cases hStep with
  | @flushed scopes name =>
      cases List.mem_singleton.1 hMem
      have hName : ';' ∉ name.toList :=
        hSound.semicolon_notMem List.mem_cons_self
      exact .inr (Call.undo_isPassing hName)
  | lost hFate =>
      cases List.mem_singleton.1 hMem
      exact absurd rfl hFate
  | ran hAllowed =>
      cases List.mem_singleton.1 hMem
      exact .inl hAllowed
  | cancelled =>
      cases List.mem_singleton.1 hMem
      exact .inr Call.cancel_isPassing
  | refused hRisky hFate =>
      cases List.mem_singleton.1 hMem
      exact absurd rfl hFate
  | @began scopes used failed _ savepoint hFresh =>
      rcases List.mem_cons.1 hMem with hSame | hLater
      · cases hSame
        have hName :=
          semicolon_notMem_savepointName savepoint
        exact .inr (Call.savepoint_isPassing hName)
      · cases List.mem_singleton.1 hLater
  | @released name =>
      rcases List.mem_cons.1 hMem with hSame | hLater
      · cases hSame
        have hName : ';' ∉ name.toList :=
          hSound.semicolon_notMem List.mem_cons_self
        exact .inr (Call.release_isPassing hName)
      · cases List.mem_singleton.1 hLater
  | @undone name =>
      rcases List.mem_cons.1 hMem with hSame | hLater
      · cases hSame
        have hName : ';' ∉ name.toList :=
          hSound.semicolon_notMem List.mem_cons_self
        exact .inr (Call.undo_isPassing hName)
      · cases List.mem_singleton.1 hLater
  | broken hEnding => cases List.mem_singleton.1 hMem
  | dropped => cases List.mem_singleton.1 hMem

/-
  What is answered in a run is an allowed call or one that
  passes.
-/
theorem Run.done_call
    (hRun : Run allowed first items last)
    (hSound : first.Sound)
    (hMem : .called number call .done ∈ items) :
    allowed call ∨ call.isPassing = true := by
  induction hRun with
  | nil => cases hMem
  | cons hStep hRun ih =>
      rcases List.mem_append.1 hMem with hFirst | hLater
      · exact hStep.done_call hSound hFirst
      · exact ih (hStep.sound hSound) hLater

end Calls

/- A call is no commit of the whole transaction. -/
theorem rootCommitted_numbered
    (number : Nat)
    (made : List (Call × Fate)) :
    rootCommitted (numbered number made) = false := by
  induction made generalizing number with
  | nil => rfl
  | cons entry rest ih => exact ih (number + 1)

/- Calls alone do not close a transaction. -/
theorem rootCommitted_callsSince
    (before after : Database σ)
    (id : Nat) :
    rootCommitted (callsSince before after id) = false :=
  rootCommitted_numbered _ _

end Session

------------------------------------------------------------
-- Blocks That End
------------------------------------------------------------

namespace Transaction

/- A block is committed if it has succeeded. -/
def endingOf (result : Except Error α) : Session.Ending :=
  if result.isOk then .commit else .rollback

/- The statement that ends a block. -/
def endingSql (result : Except Error α) : String :=
  if result.isOk then "COMMIT" else "ROLLBACK"

/- The end of a block performs its statement. -/
theorem endRoot_performs
    (conn : Connection)
    (result : Except Error α)
    (db : Database σ) :
    let run :=
      (Session.endRoot ⟨.root, conn⟩
        (endingOf result)).run db
    ∃ pending made,
      Use.Performed (.batch (endingSql result)) pending made
          run.1 ∧
        Database.Heard conn.link.id made db run.2 := by
  cases result with
  | ok a =>
      rcases Session.endRoot_heard conn .commit db with
        ⟨made, hHeard, hPerformed⟩
      exact ⟨conn.pending, made, hPerformed, hHeard⟩
  | error e =>
      rcases Session.endRoot_heard conn .rollback db with
        ⟨made, hHeard, hPerformed⟩
      exact ⟨[], made, hPerformed, hHeard⟩

section Settling

variable (transaction : Transaction)
variable {db after : Database σ} {e other : Error}

/- A body that gives a result is committed. -/
theorem settle_committed
    (hCommit : transaction.commit.run db = (.ok (), after))
    (a : α) :
    (transaction.settle (.ok a)).run db =
      (.ok a, after) := by
  unfold settle
  rw [Act.bind_run, hCommit]
  rfl

/- A commit that fails is what the block fails with. -/
theorem settle_refused
    (hCommit :
      transaction.commit.run db = (.error e, after))
    (a : α) :
    (transaction.settle (.ok a)).run db =
      (.error e, after) := by
  unfold settle
  rw [Act.bind_run, hCommit]
  rfl

/- A body that fails is undone, and its error is told. -/
theorem settle_undone
    (hRollback :
      transaction.rollback.run db = (.ok (), after))
    (e : Error) :
    (transaction.settle (.error e : Except Error α)).run
        db =
      (.error e, after) := by
  unfold settle
  rw [Act.bind_run, hRollback]
  rfl

/-
  A rollback that fails is told together with the error of
  the body.
-/
theorem settle_stuck
    (hRollback :
      transaction.rollback.run db = (.error other, after))
    (e : Error) :
    (transaction.settle (.error e : Except Error α)).run
        db =
      (.error (blockFailed e other), after) := by
  unfold settle
  rw [Act.bind_run, hRollback]
  rfl

/- To end a transaction may be to commit it. -/
theorem endRoot_commit (db : Database σ) :
    (Session.endRoot transaction .commit).run db =
      let run := transaction.commit.run db
      (run.1.isOk, run.2) :=
  rfl

/- To end a transaction may be to undo it. -/
theorem endRoot_rollback (db : Database σ) :
    (Session.endRoot transaction .rollback).run db =
      let run := transaction.rollback.run db
      (run.1.isOk, run.2) :=
  rfl

end Settling

/- What the failure of a block says if it was not undone. -/
structure TellsBoth (e other failure : Error) : Prop where
  transaction : ∃ text, failure = .transaction text
  own : e.message.toList <:+: failure.message.toList
  undoing : other.message.toList <:+: failure.message.toList

/-
  What fails with a body and with its rollback tells both
  errors.
-/
theorem blockFailed_tellsBoth (e other : Error) :
    TellsBoth e other (blockFailed e other) := by
  have hText :
      (blockFailed e other).message.toList =
        "Transaction error: ".toList ++
          (e.message.toList ++
            (" (rollback failed: ".toList ++
              (other.message.toList ++ ")".toList))) := by
    unfold blockFailed Error.message
    simp only [String.toList_append, List.append_assoc]
  refine ⟨⟨_, rfl⟩, ?_, ?_⟩
  · rw [hText]
    exact List.infix_append' _ _ _
  · rw [hText, ← List.append_assoc,
      ← List.append_assoc]
    exact List.infix_append' _ _ _

/-
  A block succeeds if its body has and can be committed.  If
  its body fails, that is why it fails, unless it could not
  be rolled back, either.
-/
theorem settle_run
    (transaction : Transaction)
    (result : Except Error α)
    (db : Database σ) :
    let run := (transaction.settle result).run db
    let ended :=
      (Session.endRoot transaction (endingOf result)).run db
    run.2 = ended.2 ∧
      (∀ a, run.1 = .ok a ↔ result = .ok a ∧
        ended.1 = true) ∧
      ∀ e, result = .error e →
        if ended.1 then run.1 = .error e
        else
          ∃ other,
            (transaction.rollback.run db).1 =
              .error other ∧
              run.1 = .error (blockFailed e other) := by
  cases result with
  | error e =>
      simp only [endingOf, Except.isOk, Except.toBool,
        Bool.false_eq_true, if_false, endRoot_rollback]
      rcases hRollback : transaction.rollback.run db with
        ⟨other | _, after⟩
      · rw [transaction.settle_stuck hRollback e]
        refine ⟨rfl, ?_, ?_⟩
        · simp
        · rintro _ ⟨⟩
          exact ⟨other, rfl, rfl⟩
      · rw [transaction.settle_undone hRollback e]
        refine ⟨rfl, ?_, ?_⟩
        · simp
        · rintro _ ⟨⟩
          rfl
  | ok a =>
      simp only [endingOf, Except.isOk, Except.toBool,
        if_true, endRoot_commit]
      rcases hCommit : transaction.commit.run db with
        ⟨e | _, after⟩
      · rw [transaction.settle_refused hCommit a]
        refine ⟨rfl, ?_, ?_⟩
        · simp
        · rintro _ ⟨⟩
      · rw [transaction.settle_committed hCommit a]
        refine ⟨rfl, ?_, ?_⟩
        · simp
        · rintro _ ⟨⟩

end Transaction

end SqlAccess
