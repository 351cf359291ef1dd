import Mathlib.Data.List.Induction
import SqlAccess.Proofs.Latest
import SqlAccess.Routing.Health

/-
  This file reads the account of the replicas off what was
  told to it.  A replica is healthy if it has recovered
  since it failed, or if its latest failure is long enough
  ago; it was used last at the time of the latest use; and
  the cursor is the number of the turns that were taken.

  Key definitions include:
    * `Health.Command`
    * `Health.obey`
    * `Health.run`
    * `Health.Recovered`
    * `Health.Shows`
    * `Health.Answers`

  Key theorems include:
    * `Health.getElem?_obey`
    * `Health.Records.change`
    * `Health.Tells.obey`
    * `Health.follows_history`
-/

namespace SqlAccess

namespace Health

------------------------------------------------------------
-- Commands
------------------------------------------------------------

/-
  What is told to the account of the replicas or asked of
  it.
-/
inductive Command
  | fail (index now : Nat)
  | recover (index : Nat)
  | touch (index now : Nat)
  | takeTurn
  | snapshot (now : Nat)
deriving DecidableEq, Repr

/- What is answered: nothing, a cursor, or all replicas. -/
inductive Answer
  | done
  | cursor (turn : UInt64)
  | views (replicas : List Candidate)
deriving DecidableEq, Repr

/- The replica that a command is about. -/
def Command.index? : Command → Option Nat
  | .fail index _ => some index
  | .recover index => some index
  | .touch index _ => some index
  | .takeTurn => none
  | .snapshot _ => none

/- Carry a command out. -/
def obey (health : Health) : Command → Answer × Health
  | .fail index now => (.done, health.fail index now)
  | .recover index => (.done, health.recover index)
  | .touch index now => (.done, health.touch index now)
  | .takeTurn =>
      (.cursor health.takeTurn.1, health.takeTurn.2)
  | .snapshot now => (.views (health.snapshot now), health)

/- Carry commands out one after the other. -/
def run
    (health : Health) :
    List Command → List Answer × Health
  | [] => ([], health)
  | command :: rest =>
      let (answer, next) := health.obey command
      let (answers, last) := next.run rest
      (answer :: answers, last)

/- Commands are run one part after the other. -/
theorem run_append
    (health : Health)
    (front back : List Command) :
    health.run (front ++ back) =
      ((health.run front).1 ++
          ((health.run front).2.run back).1,
        ((health.run front).2.run back).2) := by
  induction front generalizing health with
  | nil => rfl
  | cons command front ih =>
      have hRest := ih (health.obey command).2
      simp only [List.cons_append, run, hRest]

/- Each command is answered. -/
theorem length_run
    (health : Health)
    (commands : List Command) :
    (health.run commands).1.length = commands.length := by
  induction commands generalizing health with
  | nil => rfl
  | cons command commands ih =>
      exact congrArg (· + 1) (ih (health.obey command).2)

/-
  What is answered to a command depends on the commands
  before it only.
-/
theorem getElem?_run
    (health : Health)
    (before after : List Command)
    (command : Command) :
    (health.run
      (before ++ command :: after)).1[before.length]? =
      some ((health.run before).2.obey command).1 := by
  have hLength := length_run health before
  rw [run_append, ← hLength]
  simp [run]

------------------------------------------------------------
-- Histories
------------------------------------------------------------

/-
  Whether a replica has recovered from each of its failures,
  so that it has not failed since the latest recovery.
-/
def Recovered
    (commands : List Command)
    (index : Nat) : Prop :=
  ∀ before now after,
    commands = before ++ .fail index now :: after →
      .recover index ∈ after

/-
  A replica has recovered last if it just has, or did not
  fail since it had.
-/
theorem recovered_snoc_iff
    {commands : List Command}
    {command : Command}
    {index : Nat} :
    Recovered (commands ++ [command]) index ↔
      command = .recover index ∨
        (∀ now, command ≠ .fail index now) ∧
          Recovered commands index := by
  constructor
  · intro hRecovered
    by_cases hHere : command = .recover index
    · exact .inl hHere
    · refine .inr ⟨?_, ?_⟩
      · rintro now rfl
        exact List.not_mem_nil
          (hRecovered commands now [] rfl)
      · rintro before now after rfl
        have hMem :=
          hRecovered before now
            (after ++ [command]) (by simp)
        rcases List.mem_append.1 hMem with hMem | hMem
        · exact hMem
        · exact absurd
            (List.mem_singleton.1 hMem).symm hHere
  · intro hRecovered before now after hCommands
    rcases snoc_eq_append_cons_iff.1 hCommands with
      ⟨-, rfl, -⟩ | ⟨rest, hFront, rfl⟩
    · rcases hRecovered with hHere | ⟨hOther, -⟩
      · cases hHere
      · exact absurd rfl (hOther now)
    · rw [List.mem_append]
      rcases hRecovered with rfl | ⟨-, hRecovered⟩
      · exact .inr List.mem_cons_self
      · exact .inl (hRecovered before now rest hFront)

/- What is seen of a replica at a time, by its history. -/
structure Shows
    (cooldown : Nat)
    (commands : List Command)
    (index now : Nat)
    (view : Candidate) : Prop where
  healthy :
    view.healthy = true ↔
      Recovered commands index ∨
        ∃ time, Latest (.fail index) commands time ∧
          time + cooldown ≤ now
  lastUsed :
    ∀ time,
      view.lastUsed = some time ↔
        Latest (.touch index) commands time

------------------------------------------------------------
-- One Replica
------------------------------------------------------------

/- What a command does to the account of one replica. -/
def Command.change
    (cooldown index : Nat)
    (state : ReplicaState) : Command → ReplicaState
  | .fail other now =>
      if other = index then
        { state with restsUntil := some (now + cooldown) }
      else state
  | .recover other =>
      if other = index then
        { state with restsUntil := none }
      else state
  | .touch other now =>
      if other = index then
        { state with lastUsed := some now }
      else state
  | .takeTurn => state
  | .snapshot _ => state

/- One replica is changed, and the others stay. -/
theorem getElem?_modifyState
    (health : Health)
    (other index : Nat)
    (change : ReplicaState → ReplicaState) :
    (health.modifyState other change).states[index]? =
      (health.states[index]?).map fun state =>
        if other = index then change state else state := by
  simp only [modifyState, List.getElem?_modify]
  rfl

/- Where there is no replica, nothing is changed. -/
theorem modifyState_of_length_le
    {health : Health}
    {index : Nat}
    {change : ReplicaState → ReplicaState}
    (hOut : health.states.length ≤ index) :
    health.modifyState index change = health := by
  rw [modifyState, List.modify_eq_self hOut]

/- A command changes each replica as it is told to. -/
theorem getElem?_obey
    (health : Health)
    (command : Command)
    (index : Nat) :
    (health.obey command).2.states[index]? =
      (health.states[index]?).map fun state =>
        command.change health.cooldown index state := by
  cases command with
  | fail other now => exact getElem?_modifyState _ _ _ _
  | recover other => exact getElem?_modifyState _ _ _ _
  | touch other now => exact getElem?_modifyState _ _ _ _
  | takeTurn => exact Option.map_id'.symm
  | snapshot now => exact Option.map_id'.symm

/- Commands about other replicas leave a replica alone. -/
theorem Command.change_of_index?_ne
    {command : Command}
    {cooldown index : Nat}
    {state : ReplicaState}
    (hOther : command.index? ≠ some index) :
    command.change cooldown index state = state := by
  cases command with
  | takeTurn => rfl
  | snapshot now => rfl
  | _ =>
      exact if_neg fun hSame => hOther (congrArg some hSame)

/-
  Whether the account of a replica is that of its history.
-/
structure Records
    (cooldown : Nat)
    (commands : List Command)
    (index : Nat)
    (state : ReplicaState) : Prop where
  recovered :
    state.restsUntil = none ↔ Recovered commands index
  failed :
    ∀ time ∈ state.restsUntil,
      ∃ now, Latest (.fail index) commands now ∧
        time = now + cooldown
  used :
    ∀ now,
      state.lastUsed = some now ↔
        Latest (.touch index) commands now

section Replica

variable {cooldown index : Nat} {commands : List Command}
variable {state : ReplicaState}

/-
  A command changes the account as it adds to the history.
-/
theorem Records.change
    (hRecords : Records cooldown commands index state)
    (command : Command) :
    Records cooldown (commands ++ [command]) index
      (command.change cooldown index state) := by
  rcases hRecords with ⟨hRecovered, hFailed, hUsed⟩
  by_cases hHere : command.index? = some index
  · cases command with
    | fail other now =>
        cases hHere
        constructor
        · simp [Command.change, recovered_snoc_iff]
        · intro time hTime
          simp only [Command.change, if_true,
            Option.mem_def, Option.some.injEq] at hTime
          exact ⟨now, latest_snoc_iff.2 (.inl rfl),
            hTime.symm⟩
        · simp [Command.change, latest_snoc_iff, hUsed]
    | recover other =>
        cases hHere
        constructor
        · simp [Command.change, recovered_snoc_iff]
        · simp [Command.change]
        · simp [Command.change, latest_snoc_iff, hUsed]
    | touch other now =>
        cases hHere
        constructor
        · simp [Command.change, recovered_snoc_iff,
            hRecovered]
        · simpa [Command.change, latest_snoc_iff]
            using hFailed
        · simp [Command.change, latest_snoc_iff]
    | takeTurn => cases hHere
    | snapshot now => cases hHere
  · rw [Command.change_of_index?_ne hHere]
    have hApart :
        ∀ other : Command, other.index? = some index →
          command ≠ other := by
      rintro _ hIndex rfl
      exact hHere hIndex
    have hNoFailure :=
      fun now => hApart (.fail index now) rfl
    have hNoRecovery := hApart (.recover index) rfl
    have hNoUse := fun now => hApart (.touch index now) rfl
    constructor
    · simp [recovered_snoc_iff, hNoFailure, hNoRecovery,
        hRecovered]
    · simpa [latest_snoc_iff, hNoFailure] using hFailed
    · simpa [latest_snoc_iff, hNoUse] using hUsed

/- What is seen of a replica is what its history says. -/
theorem Records.shows
    (hRecords : Records cooldown commands index state)
    (now : Nat) :
    Shows cooldown commands index now (state.view now) := by
  rcases hRecords with ⟨hRecovered, hFailed, hUsed⟩
  refine ⟨?_, hUsed⟩
  unfold ReplicaState.view
  cases hRests : state.restsUntil with
  | none => simp [← hRecovered, hRests]
  | some time =>
      have hNot : ¬ Recovered commands index := by
        simp [← hRecovered, hRests]
      rcases hFailed time hRests with
        ⟨failed, hLatest, rfl⟩
      simp only [hNot, Option.all_some, decide_eq_true_eq,
        false_or]
      constructor
      · intro hTime
        exact ⟨failed, hLatest, hTime⟩
      · intro hTime
        rcases hTime with ⟨other, hOther, hTime⟩
        rwa [hLatest.unique
          (fun _ _ hSame => by cases hSame; rfl)
          hOther]

end Replica

------------------------------------------------------------
-- All Replicas
------------------------------------------------------------

/-
  Whether the account of the replicas is that of a history.
-/
structure Tells
    (count cooldown : Nat)
    (commands : List Command)
    (health : Health) : Prop where
  length : health.states.length = count
  pause : health.cooldown = cooldown
  cursor : health.cursor = .ofNat (commands.count .takeTurn)
  states :
    ∀ index state, health.states[index]? = some state →
      Records cooldown commands index state

/- Nothing has happened to replicas in a new account. -/
theorem tells_new (count cooldown : Nat) :
    Tells count cooldown [] (new count cooldown) where
  length := List.length_replicate
  pause := rfl
  cursor := rfl
  states := by
    intro index state hState
    have hNew : state = ⟨none, none⟩ :=
      List.eq_of_mem_replicate (List.mem_of_getElem? hState)
    subst hNew
    constructor
    · simp [Recovered]
    · simp
    · simp [not_latest_nil]

section Commands

variable {count cooldown : Nat} {commands : List Command}
variable {health : Health}

/-
  A command carries the account on as it does the history.
-/
theorem Tells.obey
    (hTells : Tells count cooldown commands health)
    (command : Command) :
    Tells count cooldown (commands ++ [command])
      (health.obey command).2 := by
  rcases hTells with ⟨hLength, hPause, hCursor, hStates⟩
  constructor
  · rw [← hLength]
    cases command with
    | takeTurn => rfl
    | snapshot now => rfl
    | _ => exact List.length_modify _ _ _
  · rw [← hPause]
    cases command <;> rfl
  · rw [List.count_append, List.count_singleton]
    cases command with
    | takeTurn =>
        change health.cursor + 1 = _
        rw [hCursor]
        simp [UInt64.ofNat_add]
    | _ =>
        change health.cursor = _
        simpa using hCursor
  · intro index state hState
    rw [getElem?_obey, hPause, Option.map_eq_some_iff]
      at hState
    rcases hState with ⟨old, hOld, rfl⟩
    exact (hStates index old hOld).change command

/-
  The account after some commands is that of their history.
-/
theorem tells_run
    (count cooldown : Nat)
    (commands : List Command) :
    Tells count cooldown commands
      ((new count cooldown).run commands).2 := by
  induction commands using List.reverseRecOn with
  | nil => exact tells_new count cooldown
  | append_singleton commands command ih =>
      rw [run_append]
      exact ih.obey command

/-
  What the commands before a command have it answered with.
-/
inductive Answers
    (count cooldown : Nat)
    (before : List Command) : Command → Answer → Prop
  | fail {index now} :
      Answers count cooldown before (.fail index now) .done
  | recover {index} :
      Answers count cooldown before (.recover index) .done
  | touch {index now} :
      Answers count cooldown before (.touch index now) .done
  | turn {turn}
      (hTurn :
        turn.toNat = before.count .takeTurn % UInt64.size) :
      Answers count cooldown before .takeTurn (.cursor turn)
  | views {now views}
      (hCount : views.length = count)
      (hViews :
        ∀ index view, views[index]? = some view →
          Shows cooldown before index now view) :
      Answers count cooldown before (.snapshot now)
        (.views views)

/- What is answered goes by the history. -/
theorem Tells.answers
    (hTells : Tells count cooldown commands health)
    (command : Command) :
    Answers count cooldown commands command
      (health.obey command).1 := by
  cases command with
  | fail index now => exact .fail
  | recover index => exact .recover
  | touch index now => exact .touch
  | takeTurn =>
      refine .turn ?_
      change health.cursor.toNat = _
      rw [hTells.cursor, UInt64.toNat_ofNat']
  | snapshot now =>
      refine .views ?_ ?_
      · rw [snapshot, List.length_map, hTells.length]
      · intro index view hView
        rw [snapshot, List.getElem?_map,
          Option.map_eq_some_iff]
          at hView
        rcases hView with ⟨state, hState, rfl⟩
        exact (hTells.states index state hState).shows now

end Commands

/-
  Whatever is told to a new account of some replicas, and in
  whatever order of times: a replica is seen to be healthy
  if and only if it has recovered from all its failures, or
  the pause since the latest one is over; it is seen as used
  at the time of its latest use; and a turn gets as its
  cursor the number of the turns before it, in 64 bits.
  What is told of a replica leaves all others as they are,
  and what is told of no replica of the account leaves the
  whole account so.
-/
theorem follows_history :
    (∀ (count cooldown : Nat) (commands : List Command),
        let answers := ((new count cooldown).run commands).1
        answers.length = commands.length ∧
          ∀ before command after,
            commands = before ++ command :: after →
              ∃ answer,
                answers[before.length]? = some answer ∧
                Answers count cooldown before command
                  answer) ∧
      (∀ (health : Health) (command : Command)
        (index now : Nat),
        command.index? ≠ some index →
          ((health.obey command).2.snapshot now)[index]? =
            (health.snapshot now)[index]?) ∧
      (∀ (health : Health) (command : Command)
        (index : Nat), command.index? = some index →
          health.states.length ≤ index →
            (health.obey command).2 = health) := by
  refine ⟨?_, ?_, ?_⟩
  · intro count cooldown commands answers
    refine ⟨length_run _ _, ?_⟩
    rintro before command after rfl
    have hTells := tells_run count cooldown before
    exact ⟨_, getElem?_run _ before after command,
      hTells.answers command⟩
  · intro health command index now hOther
    have hSame :
        (fun state =>
          command.change health.cooldown index
            state) = id :=
      funext fun _ => Command.change_of_index?_ne hOther
    rw [snapshot, snapshot, List.getElem?_map,
      List.getElem?_map, getElem?_obey, hSame,
      Option.map_id]
    rfl
  · intro health command index hIndex hOut
    cases command with
    | takeTurn => cases hIndex
    | snapshot now => rfl
    | _ =>
        cases hIndex
        exact modifyState_of_length_le hOut

/-
  The later of two failures counts although its time is the
  earlier one, and a replica that does not exist changes
  nothing.
-/
theorem follows_history_sample :
    let before : List Command :=
      [.fail 1 50, .touch 0 9, .takeTurn, .fail 1 20,
        .fail 7 0]
    let views : List Candidate :=
      [⟨true, some 9⟩, ⟨true, none⟩]
    let health : Health := ((new 2 10).run before).2
    ((new 2 10).run
      (before ++ [.snapshot 30, .takeTurn])).1 =
        [.done, .done, .cursor 0, .done, .done,
          .views views, .cursor 1] ∧
      Shows 10 before 1 30 ⟨true, none⟩ ∧
      (health.obey (.fail 7 0)).2 = health ∧
      ((health.obey (.recover 0)).2.snapshot 30)[1]? =
        some ⟨true, none⟩ := by
  intro before views health
  rcases follows_history with
    ⟨hHistory, hApart, hOutside⟩
  rcases (hHistory 2 10 _).2 before
    (.snapshot 30) [.takeTurn]
    rfl with ⟨answer, hHere, hAnswer⟩
  have hRun :
      ((new 2 10).run
        (before ++ [.snapshot 30, .takeTurn])).1 =
        [.done, .done, .cursor 0, .done, .done,
          .views views, .cursor 1] := by
    decide
  rw [hRun] at hHere
  cases hHere
  have hOther :
      (Command.recover 0).index? ≠ some 1 := by decide
  cases hAnswer with
  | views hCount hViews =>
      exact ⟨hRun, hViews 1 _ rfl,
        hOutside health (.fail 7 0) 7 rfl (by decide),
        (hApart health (.recover 0) 1 30 hOther).trans
          (by decide)⟩

end Health

end SqlAccess
