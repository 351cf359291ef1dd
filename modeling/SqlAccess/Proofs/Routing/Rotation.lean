import Mathlib.Data.List.Rotate
import SqlAccess.Proofs.Routing.Choice
import SqlAccess.Routing.Health

/-
  This file shows that reads go round the healthy replicas
  when each is routed to the one that was used least
  recently.  The healthy replicas stand in a queue, the one
  that was used earliest in front; a read goes to the first
  of them, which then goes to the end.

  Key definitions include:
    * `Health.Event`
    * `Health.picks`
    * `Health.Keeps`
    * `Health.Queued`

  Key theorems include:
    * `Health.exists_queued`
    * `Health.Queued.read_eq`
    * `Health.Queued.touch`
    * `Health.picks_getElem?`
    * `Health.picks_window`
    * `Health.picks_rotate`
-/

namespace SqlAccess

namespace Health

------------------------------------------------------------
-- Runs
------------------------------------------------------------

/-
  What happens to the account of the replicas: a read at a
  time, or that a replica fails or works again.
-/
inductive Event
  | read (now : Nat)
  | fail (index now : Nat)
  | recover (index : Nat)
deriving DecidableEq, Repr

/- The time of a read. -/
def Event.readTime? : Event → Option Nat
  | read now => some now
  | _ => none

/-
  A read goes to the replica that was used least recently.
-/
def read
    (health : Health)
    (now : Nat) : Except Overflow Target × Health :=
  health.pick .read false .leastRecentlyUsed now

/- The account after an event. -/
def after (health : Health) : Event → Health
  | .read now => (health.read now).2
  | .fail index now => health.fail index now
  | .recover index => health.recover index

/- The places of the reads of a run. -/
def picks
    (health : Health) :
    List Event → List (Except Overflow Target)
  | [] => []
  | .read now :: events =>
      (health.read now).1 ::
        (health.after (.read now)).picks events
  | event :: events => (health.after event).picks events

/- The replicas that are healthy at a time. -/
def healthy
    (health : Health)
    (now : Nat) : List Nat :=
  (List.range health.states.length).filter
    (isHealthyAt (health.snapshot now))

/-
  Whether at every read of a run the healthy replicas are
  the given ones.
-/
def Keeps
    (replicas : List Nat)
    (health : Health) : List Event → Prop
  | [] => True
  | event :: events =>
      (∀ now ∈ event.readTime?,
        health.healthy now = replicas) ∧
        Keeps replicas (health.after event) events

/- The times of the reads of a run. -/
def readTimes (events : List Event) : List Nat :=
  events.filterMap Event.readTime?

/- The healthy replicas are those that are seen so. -/
theorem mem_healthy_iff
    {health : Health}
    {now index : Nat} :
    index ∈ health.healthy now ↔
      isHealthyAt (health.snapshot now) index = true := by
  rw [healthy, List.mem_filter, List.mem_range,
    and_iff_right_iff_imp]
  intro hHealthy
  have hBound := lt_length_of_isHealthyAt hHealthy
  rwa [snapshot, List.length_map] at hBound

/- No replica is listed twice. -/
theorem nodup_healthy (health : Health) (now : Nat) :
    (health.healthy now).Nodup :=
  List.nodup_range.filter _

/- The replicas that stay healthy differ. -/
theorem Keeps.nodup
    {replicas : List Nat}
    {health : Health}
    {events : List Event}
    (hKeeps : Keeps replicas health events)
    (hReads : readTimes events ≠ []) :
    replicas.Nodup := by
  induction events generalizing health with
  | nil => exact absurd rfl hReads
  | cons event events ih =>
      rcases hKeeps with ⟨hHere, hLater⟩
      cases event with
      | read now =>
          rw [← hHere now rfl]
          exact nodup_healthy health now
      | fail index now => exact ih hLater hReads
      | recover index => exact ih hLater hReads

/- Each read picks a place. -/
theorem length_picks
    (health : Health)
    (events : List Event) :
    (health.picks events).length =
      (readTimes events).length := by
  induction events generalizing health with
  | nil => rfl
  | cons event events ih =>
      cases event with
      | read now => exact congrArg (· + 1) (ih _)
      | fail index now => exact ih _
      | recover index => exact ih _

------------------------------------------------------------
-- Ranks
------------------------------------------------------------

/- When a replica was used last. -/
def lastUsed?
    (health : Health)
    (index : Nat) : Option Nat :=
  (health.states[index]?).bind ReplicaState.lastUsed

/-
  When a replica was used, as a rank; never is the least.
-/
def rank
    (health : Health)
    (index : Nat) : Nat :=
  (health.lastUsed? index).elim 0 (· + 1)

/-
  A replica was used earlier than another one, or they were
  used at the same time and it is the first of the two.
-/
def Precedes
    (health : Health)
    (first second : Nat) : Prop :=
  health.rank first < health.rank second ∨
    health.rank first = health.rank second ∧
      first < second

section Ranks

variable {health : Health} {index now : Nat}

/- A replica is seen as its state is at that time. -/
theorem snapshot_getElem?_eq_some_iff {view : Candidate} :
    (health.snapshot now)[index]? = some view ↔
      ∃ state, health.states[index]? = some state ∧
        state.view now = view := by
  rw [snapshot, List.getElem?_map, Option.map_eq_some_iff]

/- The rank of a replica is seen as it is kept. -/
theorem rank_eq_of_view
    {view : Candidate}
    (hView : (health.snapshot now)[index]? = some view) :
    view.rank = health.rank index := by
  rcases snapshot_getElem?_eq_some_iff.1 hView with
    ⟨state, hState, rfl⟩
  rw [rank, lastUsed?, hState]
  cases hUsed : state.lastUsed <;>
    simp [Candidate.rank, ReplicaState.view, hUsed]

/- A change that leaves the last use shows no other one. -/
theorem lastUsed?_modifyState
    {other : Nat}
    {change : ReplicaState → ReplicaState}
    (hChange :
      ∀ state, (change state).lastUsed = state.lastUsed) :
    (health.modifyState other change).lastUsed? index =
      health.lastUsed? index := by
  simp only [lastUsed?, modifyState, List.getElem?_modify]
  cases health.states[index]? with
  | none => rfl
  | some state => by_cases other = index <;> simp_all

/- A replica that is used was used last then. -/
theorem lastUsed?_touch
    {other : Nat}
    (hBound : other < health.states.length) :
    (health.touch other now).lastUsed? index =
      if other = index then some now
      else health.lastUsed? index := by
  simp only [lastUsed?, touch, modifyState,
    List.getElem?_modify]
  by_cases hSame : other = index
  · subst hSame
    simp [hBound]
  · simp [hSame]

end Ranks

------------------------------------------------------------
-- Queues
------------------------------------------------------------

/- The healthy replicas, the one used earliest in front. -/
structure Queued
    (replicas : List Nat)
    (health : Health)
    (queue : List Nat) : Prop where
  perm : queue.Perm replicas
  ordered : queue.Pairwise health.Precedes

/- Any replicas can be put in the order of their use. -/
theorem exists_queued
    {replicas : List Nat}
    (health : Health)
    (hNodup : replicas.Nodup) :
    ∃ queue, Queued replicas health queue := by
  let notAfter (first second : Nat) : Bool :=
    health.rank first < health.rank second ∨
      health.rank first = health.rank second ∧
        first ≤ second
  have hTrans :
      ∀ a b c, notAfter a b = true →
        notAfter b c = true →
        notAfter a c = true := by
    simp only [notAfter, decide_eq_true_eq]
    omega
  have hTotal :
      ∀ a b, (notAfter a b || notAfter b a) = true := by
    simp only [notAfter, Bool.or_eq_true, decide_eq_true_eq]
    omega
  have hPerm := List.mergeSort_perm replicas notAfter
  refine ⟨replicas.mergeSort notAfter, hPerm, ?_⟩
  have hSorted :=
    List.pairwise_mergeSort hTrans hTotal replicas
  refine (hSorted.and (hPerm.nodup_iff.2 hNodup)).imp ?_
  rintro first second ⟨hOrder, hApart⟩
  simp only [notAfter, decide_eq_true_eq] at hOrder
  unfold Precedes
  omega

namespace Queued

variable {replicas : List Nat} {health : Health}

/- What leaves the times of use leaves the queue. -/
theorem of_lastUsed?_eq
    {other : Health}
    {queue : List Nat}
    (hQueue : Queued replicas health queue)
    (hUsed :
      ∀ index,
        other.lastUsed? index = health.lastUsed? index) :
    Queued replicas other queue := by
  refine ⟨hQueue.perm, hQueue.ordered.imp ?_⟩
  intro first second hOrder
  simpa only [Precedes, rank, hUsed] using hOrder

section Reads

variable {first now : Nat} {rest : List Nat}
variable (hQueue : Queued replicas health (first :: rest))
include hQueue

/-
  The first of the queue is the healthy one used earliest.
-/
theorem isEarliest
    (hHealthy : health.healthy now = replicas) :
    IsEarliest (health.snapshot now) first
      (health.rank first) := by
  subst hHealthy
  have hFirst :
      isHealthyAt (health.snapshot now) first = true :=
    mem_healthy_iff.1
      (hQueue.perm.mem_iff.1 List.mem_cons_self)
  rcases isHealthyAt_iff.1 hFirst with
    ⟨view, hView, hSound⟩
  refine
    ⟨⟨view, hView, hSound, rank_eq_of_view hView⟩,
      ?_⟩
  intro other seen hSeen hAlso
  rw [rank_eq_of_view hSeen]
  have hOther : other ∈ first :: rest :=
    hQueue.perm.mem_iff.2
      (mem_healthy_iff.2
        (isHealthyAt_iff.2 ⟨seen, hSeen, hAlso⟩))
  rcases List.mem_cons.1 hOther with rfl | hLater
  · exact .inr ⟨rfl, Nat.le_refl _⟩
  · have hOrder :=
      (List.pairwise_cons.1 hQueue.ordered).1 other hLater
    unfold Precedes at hOrder
    omega

/- A read goes to the first of the queue. -/
theorem read_eq
    (hHealthy : health.healthy now = replicas) :
    health.read now =
      (.ok (.replica first), health.touch first now) := by
  have hChosen :
      leastRecentlyUsed? (health.snapshot now) =
        some first :=
    leastRecentlyUsed?_eq_some_iff.2
      ⟨_, hQueue.isEarliest hHealthy⟩
  have hSome : (health.snapshot now).isEmpty = false := by
    rw [List.isEmpty_eq_false_iff_exists_mem]
    rcases hQueue.isEarliest hHealthy with
      ⟨⟨view, hView, -⟩, -⟩
    exact ⟨view, List.mem_of_getElem? hView⟩
  simp [read, pick, cursorFor, Target.route,
    Balancing.choose?, hChosen, hSome, Except.map,
    Target.ofChoice]

/- What is used after all others goes to the end. -/
theorem touch
    (hBound : first < health.states.length)
    (hLater :
      ∀ index, ∀ stamp ∈ health.lastUsed? index,
        stamp < now) :
    Queued replicas (health.touch first now)
      (rest ++ [first]) := by
  rcases List.pairwise_cons.1 hQueue.ordered with
    ⟨hBefore, hRest⟩
  have hApart : ∀ other ∈ rest, first ≠ other := by
    rintro _ hMem rfl
    have hOrder := hBefore first hMem
    unfold Precedes at hOrder
    omega
  have hFirst :
      (health.touch first now).rank first = now + 1 := by
    rw [rank, lastUsed?_touch hBound, if_pos rfl]
    rfl
  have hOthers :
      ∀ other ∈ rest,
        (health.touch first now).rank other =
          health.rank other := by
    intro other hMem
    rw [rank, lastUsed?_touch hBound,
      if_neg (hApart other hMem)]
    rfl
  refine
    ⟨(List.perm_append_singleton first rest).trans
      hQueue.perm, List.pairwise_append.2
        ⟨?_, List.pairwise_singleton _ _, ?_⟩⟩
  · refine hRest.imp_of_mem ?_
    intro one two hOne hTwo hOrder
    rw [Precedes, hOthers one hOne, hOthers two hTwo]
    exact hOrder
  · intro other hMem last hLast
    rw [List.mem_singleton] at hLast
    subst hLast
    refine .inl ?_
    rw [hOthers other hMem, hFirst, rank]
    cases hUsed : health.lastUsed? other with
    | none => exact Nat.succ_pos now
    | some stamp =>
        exact Nat.succ_lt_succ (hLater other stamp hUsed)

end Reads

end Queued

------------------------------------------------------------
-- Turns
------------------------------------------------------------

/- All times of use are before some others. -/
def UsedBefore
    (health : Health)
    (times : List Nat) : Prop :=
  ∀ now ∈ times, ∀ state ∈ health.states,
    ∀ stamp ∈ state.lastUsed, stamp < now

/-
  All uses were before all of some times if each last one
  was.
-/
theorem usedBefore_iff
    {health : Health}
    {times : List Nat} :
    health.UsedBefore times ↔
      ∀ now ∈ times, ∀ index,
        ∀ stamp ∈ health.lastUsed? index,
          stamp < now := by
  simp only [UsedBefore, lastUsed?, List.mem_iff_getElem?,
    Option.mem_def, Option.bind_eq_some_iff]
  constructor
  · rintro hBefore now hNow index stamp
      ⟨state, hState, hStamp⟩
    exact hBefore now hNow state ⟨index, hState⟩ stamp
      hStamp
  · rintro hBefore now hNow state ⟨index, hState⟩ stamp
      hStamp
    exact hBefore now hNow index stamp
      ⟨state, hState, hStamp⟩

section Runs

variable {replicas : List Nat} {health : Health}

/- That a replica fails or works leaves the times of use. -/
theorem lastUsed?_fail
    (other now index : Nat) :
    (health.fail other now).lastUsed? index =
      health.lastUsed? index :=
  lastUsed?_modifyState fun _ => rfl

/- To recover is no use. -/
theorem lastUsed?_recover
    (other index : Nat) :
    (health.recover other).lastUsed? index =
      health.lastUsed? index :=
  lastUsed?_modifyState fun _ => rfl

/-
  Only the last uses matter for what was before some times.
-/
theorem UsedBefore.of_lastUsed?_eq
    {other : Health}
    {times : List Nat}
    (hBefore : health.UsedBefore times)
    (hUsed :
      ∀ index,
        other.lastUsed? index = health.lastUsed? index) :
    other.UsedBefore times := by
  rw [usedBefore_iff] at hBefore ⊢
  simpa only [hUsed] using hBefore

/- A read is before all later ones. -/
theorem UsedBefore.touch
    {first now : Nat}
    {times : List Nat}
    (hBefore : health.UsedBefore times)
    (hBound : first < health.states.length)
    (hNow : ∀ later ∈ times, now < later) :
    (health.touch first now).UsedBefore times := by
  rw [usedBefore_iff] at hBefore ⊢
  intro later hLater index stamp hStamp
  rw [lastUsed?_touch hBound] at hStamp
  by_cases hSame : first = index
  · rw [if_pos hSame, Option.mem_some_iff] at hStamp
    exact hStamp ▸ hNow later hLater
  · rw [if_neg hSame] at hStamp
    exact hBefore later hLater index stamp hStamp

/-
  A read goes to the replica that is in front after the
  queue was turned round once for each read before it.
-/
theorem picks_getElem?
    {events : List Event}
    {queue : List Nat}
    (hSome : replicas ≠ [])
    (hQueue : Queued replicas health queue)
    (hKeeps : Keeps replicas health events)
    (hTimes : (readTimes events).Pairwise (· < ·))
    (hBefore : health.UsedBefore (readTimes events))
    {turn : Nat}
    (hTurn : turn < (health.picks events).length) :
    (health.picks events)[turn]? =
      (queue.rotate turn).head?.map fun index =>
        .ok (.replica index) := by
  induction events generalizing health queue turn with
  | nil => cases hTurn
  | cons event events ih =>
      rcases hKeeps with ⟨hHealthy, hKeeps⟩
      cases event with
      | fail index now =>
          have hUsed := @lastUsed?_fail health index now
          exact ih (hQueue.of_lastUsed?_eq hUsed) hKeeps
            hTimes (hBefore.of_lastUsed?_eq hUsed) hTurn
      | recover index =>
          have hUsed := @lastUsed?_recover health index
          exact ih (hQueue.of_lastUsed?_eq hUsed) hKeeps
            hTimes (hBefore.of_lastUsed?_eq hUsed) hTurn
      | read now =>
          have hHere := hHealthy now rfl
          rcases List.pairwise_cons.1 hTimes with
            ⟨hNow, hLater⟩
          rcases List.forall_mem_cons.1 hBefore with
            ⟨-, hRest⟩
          have hStamps :=
            usedBefore_iff.1 hBefore now List.mem_cons_self
          cases queue with
          | nil =>
              exact absurd hQueue.perm.nil_eq.symm hSome
          | cons first rest =>
              have hFirst :
                  first ∈ health.healthy now := by
                rw [hHere]
                exact hQueue.perm.mem_iff.1
                  List.mem_cons_self
              have hBound : first < health.states.length :=
                List.mem_range.1
                  (List.mem_filter.1 hFirst).1
              have hRead := hQueue.read_eq hHere
              have hPicks :
                  health.picks (.read now :: events) =
                    .ok (.replica first) ::
                      (health.touch first now).picks
                        events := by
                rw [picks, after, hRead]
              rw [after, hRead] at hKeeps
              rw [hPicks] at hTurn ⊢
              cases turn with
              | zero => rfl
              | succ turn =>
                  rw [List.getElem?_cons_succ,
                    List.rotate_cons_succ]
                  exact ih (hQueue.touch hBound hStamps)
                    hKeeps hLater
                      (UsedBefore.touch hRest hBound hNow)
                    (Nat.lt_of_succ_lt_succ hTurn)

/- A run turns a queue of the healthy replicas round. -/
theorem exists_turns
    {events : List Event}
    (hSome : replicas ≠ [])
    (hKeeps : Keeps replicas health events)
    (hTimes : (readTimes events).Pairwise (· < ·))
    (hBefore : health.UsedBefore (readTimes events)) :
    ∃ queue : List Nat,
      queue.Perm replicas ∧
        ∀ turn < (health.picks events).length,
          (health.picks events)[turn]? =
            (queue.rotate turn).head?.map fun index =>
              .ok (.replica index) := by
  by_cases hReads : readTimes events = []
  · refine ⟨replicas, .refl _, ?_⟩
    intro turn hTurn
    rw [length_picks, hReads] at hTurn
    cases hTurn
  · rcases exists_queued health (hKeeps.nodup hReads) with
      ⟨queue, hQueue⟩
    exact ⟨queue, hQueue.perm, fun turn hTurn =>
      picks_getElem? hSome hQueue hKeeps hTimes hBefore
        hTurn⟩

end Runs

/- A window of turns is the queue, turned round. -/
theorem picks_window
    {targets : List (Except Overflow Target)}
    {queue : List Nat}
    (hTurns :
      ∀ turn < targets.length,
        targets[turn]? =
          (queue.rotate turn).head?.map fun index =>
            .ok (.replica index))
    {start : Nat}
    (hWindow : start + queue.length ≤ targets.length) :
    (targets.drop start).take queue.length =
      (queue.rotate start).map fun index =>
        .ok (.replica index) := by
  apply List.ext_getElem?
  intro turn
  by_cases hTurn : turn < queue.length
  · have hFront : turn < (queue.rotate start).length := by
      rwa [List.length_rotate]
    rw [List.getElem?_take_of_lt hTurn, List.getElem?_drop,
      hTurns _ (by omega), ← List.rotate_rotate,
      List.head?_rotate hFront, List.getElem?_map]
  · have hPast :
        ((targets.drop start).take queue.length).length ≤
          turn := by
      rw [List.length_take]
      omega
    rw [List.getElem?_eq_none hPast, List.getElem?_eq_none]
    rw [List.length_map, List.length_rotate]
    omega

/-
  Reads at growing times, all of them later than any use
  before, while the same replicas are healthy: as many reads
  in a row as there are healthy replicas go to each of these
  once, and a read goes where the one that many reads before
  it went.
-/
theorem picks_rotate
    {replicas : List Nat}
    {health : Health}
    {events : List Event}
    (hSome : replicas ≠ [])
    (hKeeps : Keeps replicas health events)
    (hTimes : (readTimes events).Pairwise (· < ·))
    (hBefore : health.UsedBefore (readTimes events)) :
    (health.picks events).length =
      (readTimes events).length ∧
      (∀ start,
        start + replicas.length ≤
          (health.picks events).length →
          (((health.picks events).drop start).take
            replicas.length).Perm
              (replicas.map fun index =>
                .ok (.replica index))) ∧
      (∀ turn,
        turn + replicas.length <
          (health.picks events).length →
          (health.picks events)[turn + replicas.length]? =
            (health.picks events)[turn]?) := by
  rcases exists_turns hSome hKeeps hTimes hBefore with
    ⟨queue, hPerm, hTurns⟩
  have hLength := hPerm.length_eq
  refine ⟨length_picks health events, ?_, ?_⟩
  · intro start hWindow
    rw [← hLength] at hWindow ⊢
    rw [picks_window hTurns hWindow]
    exact ((queue.rotate_perm start).trans hPerm).map _
  · intro turn hTurn
    have hRound :
        (queue.rotate turn).rotate replicas.length =
          queue.rotate turn := by
      rw [← hLength, ← List.length_rotate queue turn,
        List.rotate_length]
    rw [hTurns _ hTurn, hTurns _ (by omega),
      ← List.rotate_rotate, hRound]

/-
  Three of four replicas are healthy: one was never used and
  two were used at the same time.  In between, the other one
  fails once more and a healthy one is found to work.
-/
theorem picks_rotate_sample :
    let health : Health :=
      ⟨[⟨none, some 5⟩, ⟨some 100, none⟩,
        ⟨none, none⟩, ⟨some 7, some 5⟩], 0, 90⟩
    let events : List Event :=
      [.read 10, .read 11, .fail 1 12, .recover 3, .read 13,
        .read 20, .read 30]
    Keeps [0, 2, 3] health events ∧
      (readTimes events).Pairwise (· < ·) ∧
      health.UsedBefore (readTimes events) ∧
      health.picks events =
        [.ok (.replica 2), .ok (.replica 0),
          .ok (.replica 3), .ok (.replica 2),
          .ok (.replica 0)] ∧
      (((health.picks events).drop 1).take 3).Perm
        [.ok (.replica 0), .ok (.replica 2),
          .ok (.replica 3)] := by
  intro health events
  have hKeeps : Keeps [0, 2, 3] health events := by
    simp only [Keeps, events, Event.readTime?]
    decide
  have hTimes : (readTimes events).Pairwise (· < ·) := by
    decide
  have hBefore : health.UsedBefore (readTimes events) := by
    unfold UsedBefore
    decide
  have hRounds :=
    picks_rotate (by decide) hKeeps hTimes hBefore
  exact ⟨hKeeps, hTimes, hBefore, by decide,
    hRounds.2.1 1 (by decide)⟩

end Health

end SqlAccess
