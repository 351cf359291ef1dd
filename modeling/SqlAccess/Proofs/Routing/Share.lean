import Mathlib.Data.Nat.Count
import SqlAccess.Proofs.FirstFault
import SqlAccess.Proofs.Routing.Choice
import SqlAccess.Proofs.Routing.Rest

/-
  This file counts the reads that each replica gets in a
  window of rounds, one for each replica.  Every healthy
  replica gets its own read, and those of the unhealthy ones
  directly before it, if and only if no round of the window
  runs out of the numbers of 64 bits before it comes to a
  healthy replica.

  Key definitions include:
    * `unhealthyBefore`
    * `Target.window`
    * `Target.Shares`
    * `Target.Follows`

  Key theorems include:
    * `isNext_iff_le_unhealthyBefore`
    * `count_isNext`
    * `Target.follows_iff`
    * `Target.shares_iff_follows`
    * `Target.window_shares`
-/

namespace SqlAccess

------------------------------------------------------------
-- Replicas before a Replica
------------------------------------------------------------

/-
  The number of unhealthy replicas that come one after the
  other directly before a replica, in cyclic order: going
  back from it, as many as there are in front of a healthy
  one.
-/
def unhealthyBefore
    (replicas : List Candidate)
    (index : Nat) : Nat :=
  (List.range replicas.length).findIdx fun back =>
    isHealthyAt replicas
      ((index + (replicas.length - 1 - back)) %
        replicas.length)

section Before

variable {replicas : List Candidate} {index back : Nat}

/-
  A number is less than that of the unhealthy replicas
  before an index if and only if one more are unhealthy.
-/
theorem lt_unhealthyBefore_iff :
    back < unhealthyBefore replicas index ↔
      back < replicas.length ∧
        ∀ step ≤ back,
          isHealthyAt replicas
            ((index + (replicas.length - 1 - step)) %
              replicas.length) = false := by
  simp [unhealthyBefore, List.lt_findIdx_iff]

/-
  Going back from a healthy replica ends at that replica.
-/
theorem unhealthyBefore_lt
    (hHealthy : isHealthyAt replicas index = true) :
    unhealthyBefore replicas index < replicas.length := by
  have hIndex := lt_length_of_isHealthyAt hHealthy
  have hLast :
      replicas.length - 1 ∈ List.range replicas.length :=
    List.mem_range.2 (by omega)
  have hBound :
      unhealthyBefore replicas index <
        (List.range replicas.length).length := by
    refine List.findIdx_lt_length.2 ⟨_, hLast, ?_⟩
    rw [Nat.sub_self, Nat.add_zero, Nat.mod_eq_of_lt hIndex]
    exact hHealthy
  rwa [List.length_range] at hBound

/-
  An index is as many steps away from a place as the place
  is in front of the index.
-/
theorem step_eq_back
    {count step : Nat}
    (hIndex : index < count)
    (hBack : back < count)
    (hStep : step < count)
    (hPlace :
      (index + (count - back) + step) % count = index) :
    step = back := by
  have hSame :
      (index + (count - back + step)) % count =
        index % count := by
    rw [← Nat.add_assoc, hPlace, Nat.mod_eq_of_lt hIndex]
  have hZero := Nat.sub_mod_eq_zero_of_mod_eq hSame
  rw [Nat.add_sub_cancel_left] at hZero
  have hRound : count - back + step = count :=
    Nat.eq_of_dvd_of_lt_two_mul (by omega)
      (Nat.dvd_of_mod_eq_zero hZero) (by omega)
  omega

/-
  A number is not more than that of the unhealthy replicas
  before an index if and only if all of so many are
  unhealthy.  They are counted backwards from the index on
  one side, and forwards to it on the other.
-/
theorem le_unhealthyBefore_iff
    (hBack : back < replicas.length) :
    back ≤ unhealthyBefore replicas index ↔
      ∀ earlier < back,
        isHealthyAt replicas
          ((index + (replicas.length - back) + earlier) %
            replicas.length) = false := by
  cases back with
  | zero => simp
  | succ last =>
      rw [Nat.succ_le_iff, lt_unhealthyBefore_iff]
      constructor
      · rintro ⟨-, hBefore⟩ earlier hEarlier
        have hSame :
            index + (replicas.length - (last + 1)) +
                earlier =
              index +
                (replicas.length - 1 -
                  (last - earlier)) := by
          omega
        rw [hSame]
        exact hBefore _ (by omega)
      · intro hBefore
        refine ⟨by omega, ?_⟩
        intro earlier hEarlier
        have hSame :
            index + (replicas.length - 1 - earlier) =
              index + (replicas.length - (last + 1)) +
                (last - earlier) := by
          omega
        rw [hSame]
        exact hBefore _ (by omega)

/-
  Some places in front of a healthy replica, it is the next
  one if and only if all those between are unhealthy.
-/
theorem isNext_iff_le_unhealthyBefore
    (hHealthy : isHealthyAt replicas index = true)
    (hBack : back < replicas.length) :
    IsNext replicas (index + (replicas.length - back))
        index ↔
      back ≤ unhealthyBefore replicas index := by
  have hIndex := lt_length_of_isHealthyAt hHealthy
  rw [le_unhealthyBefore_iff hBack]
  constructor
  · rintro ⟨step, hStep, hPlace, -, hUntil⟩
    rwa [step_eq_back hIndex hBack hStep hPlace] at hUntil
  · intro hBefore
    have hSum :
        index + (replicas.length - back) + back =
          index + replicas.length := by
      omega
    refine ⟨back, hBack, ?_, hHealthy, hBefore⟩
    rw [hSum, Nat.add_mod_right, Nat.mod_eq_of_lt hIndex]

end Before

------------------------------------------------------------
-- Windows
------------------------------------------------------------

/- A window may be moved by any number of places. -/
theorem count_isNext_shift
    (replicas : List Candidate)
    (place index : Nat) :
    Nat.count
        (fun step => IsNext replicas (place + step) index)
        replicas.length =
      Nat.count (fun step => IsNext replicas step index)
        replicas.length := by
  have hAfter :=
    Nat.count_add (fun step => IsNext replicas step index)
      place replicas.length
  have hBefore :=
    Nat.count_add' (fun step => IsNext replicas step index)
      place replicas.length
  simp only [isNext_add_length] at hBefore
  omega

/- The last ones of a window are as many as they are. -/
theorem count_last
    {count last : Nat}
    (hLast : last ≤ count) :
    Nat.count (fun step => count ≤ step + last) count =
      last := by
  rcases Nat.exists_eq_add_of_le' hLast with
    ⟨first, rfl⟩
  have hFirst :
      Nat.count (fun step => first + last ≤ step + last)
          first =
        0 :=
    Nat.count_of_forall_not fun step hStep => by omega
  have hRest :
      Nat.count
          (fun step => first + last ≤ first + step + last)
          last =
        last :=
    Nat.count_of_forall fun step hStep => by omega
  rw [Nat.count_add, hFirst, hRest, Nat.zero_add]

/-
  Among as many places one after the other as there are
  replicas, a healthy replica is the next one from its own
  place and from those of the unhealthy ones before it.  In
  the window that ends at the replica, those places are the
  last of all.
-/
theorem count_isNext
    {replicas : List Candidate}
    {index : Nat}
    (place : Nat)
    (hHealthy : isHealthyAt replicas index = true) :
    Nat.count
        (fun step => IsNext replicas (place + step) index)
        replicas.length =
      1 + unhealthyBefore replicas index := by
  have hBefore := unhealthyBefore_lt hHealthy
  have hPlace :
      ∀ step ∈ List.range replicas.length,
        decide (IsNext replicas (index + 1 + step) index) =
            true ↔
          decide
              (replicas.length ≤
                step +
                  (1 + unhealthyBefore replicas index)) =
            true := by
    intro step hMem
    have hStep := List.mem_range.1 hMem
    have hSame :
        index + 1 + step =
          index +
            (replicas.length -
              (replicas.length - 1 - step)) := by
      omega
    rw [decide_eq_true_iff, decide_eq_true_iff, hSame,
      isNext_iff_le_unhealthyBefore hHealthy (by omega)]
    omega
  rw [count_isNext_shift,
    ← count_isNext_shift replicas (index + 1)]
  exact (List.countP_congr hPlace).trans
    (count_last (by omega))

------------------------------------------------------------
-- Reads
------------------------------------------------------------

namespace Target

/-
  The places of reads in rounds, one for each replica, with
  one cursor after the other.
-/
def window
    (replicas : List Candidate)
    (start : UInt64) : List (Except Overflow Target) :=
  (List.range replicas.length).map fun step =>
    route .read false replicas (start + UInt64.ofNat step)
      .roundRobin

/-
  Whether every healthy replica gets one of some reads, and
  one more for each unhealthy one directly before it.
-/
def Shares
    (replicas : List Candidate)
    (reads : List (Except Overflow Target)) : Prop :=
  ∀ index, isHealthyAt replicas index = true →
    reads.count (.ok (replica index)) =
      1 + unhealthyBefore replicas index

/- The place of a choice is the replica that is chosen. -/
theorem ofChoice_eq_replica_iff
    {choice : Option Nat}
    {index : Nat} :
    ofChoice choice = replica index ↔
      choice = some index := by
  cases choice <;> simp [ofChoice]

/- A read goes to a replica if its round finds that one. -/
theorem route_read_eq_iff
    {replicas : List Candidate}
    {cursor : UInt64}
    {index : Nat} :
    route .read false replicas cursor .roundRobin =
        .ok (replica index) ↔
      roundRobin? replicas cursor = .ok (some index) := by
  rw [route_read_eq, Except.map_eq_ok_iff]
  simp [ofChoice_eq_replica_iff, Balancing.choose?]

/-
  A read has no place if its round runs out of the numbers.
-/
theorem route_read_eq_error_iff
    {replicas : List Candidate}
    {cursor : UInt64} :
    route .read false replicas cursor .roundRobin =
        .error .overflow ↔
      RunsOut replicas cursor.toNat := by
  rw [route_read_eq, Except.map_eq_error_iff]
  exact roundRobin?_eq_error_iff

/-
  What is as frequent as what follows from it is the same.
-/
theorem of_countP_eq
    {steps : List Nat}
    {p q : Nat → Bool}
    (hFollows :
      ∀ step ∈ steps, p step = true → q step = true)
    (hCount : steps.countP p = steps.countP q) :
    ∀ step ∈ steps,
      q step = true → p step = true := by
  have hBoth :
      (steps.filter q).filter p = steps.filter p := by
    rw [List.filter_filter]
    refine List.filter_congr fun step hStep => ?_
    exact Bool.and_eq_left_iff_imp.2 (hFollows step hStep)
  have hSame :
      (steps.filter q).filter p = steps.filter q := by
    refine List.filter_sublist.eq_of_length ?_
    rw [hBoth, ← List.countP_eq_length_filter,
      ← List.countP_eq_length_filter, hCount]
  intro step hStep hHolds
  have hMem : step ∈ (steps.filter q).filter p := by
    rw [hSame]
    exact List.mem_filter.2 ⟨hStep, hHolds⟩
  exact (List.mem_filter.1 hMem).2

section Window

variable {replicas : List Candidate} {start : UInt64}
variable {step index : Nat}

/- A read of a window goes to the next replica. -/
def Follows
    (replicas : List Candidate)
    (start : UInt64)
    (step : Nat) : Prop :=
  ∀ index, IsNext replicas (start.toNat + step) index →
    (window replicas start)[step]? =
      some (.ok (replica index))

/- The reads of a window are routed with growing cursors. -/
theorem window_getElem?
    (hStep : step < replicas.length) :
    (window replicas start)[step]? =
      some (route .read false replicas
        (start + UInt64.ofNat step) .roundRobin) := by
  simp [window, hStep]

/- The cursors of a window are numbers of 64 bits. -/
theorem toNat_cursor
    (hWindow :
      start.toNat + replicas.length ≤ UInt64.size)
    (hStep : step < replicas.length) :
    (start + UInt64.ofNat step).toNat =
      start.toNat + step := by
  have hSum : start.toNat + step < UInt64.size :=
    Nat.lt_of_lt_of_le (Nat.add_lt_add_left hStep _) hWindow
  rw [UInt64.toNat_add, UInt64.toNat_ofNat',
    Nat.add_mod_mod, Nat.mod_eq_of_lt hSum]

/-
  A read goes to a replica if that is the next one and the
  round does not run out of the numbers.
-/
theorem window_getElem?_eq_iff
    (hWindow :
      start.toNat + replicas.length ≤ UInt64.size)
    (hStep : step < replicas.length) :
    (window replicas start)[step]? =
        some (.ok (replica index)) ↔
      IsNext replicas (start.toNat + step) index ∧
        ¬ RunsOut replicas (start.toNat + step) := by
  rw [window_getElem? hStep, Option.some.injEq,
    route_read_eq_iff, roundRobin?_eq_some_iff,
    toNat_cursor hWindow hStep]

/-
  A read of a window has no place if its round runs out of
  the numbers.
-/
theorem window_getElem?_eq_error_iff
    (hWindow :
      start.toNat + replicas.length ≤ UInt64.size)
    (hStep : step < replicas.length) :
    (window replicas start)[step]? =
        some (.error .overflow) ↔
      RunsOut replicas (start.toNat + step) := by
  rw [window_getElem? hStep, Option.some.injEq,
    route_read_eq_error_iff, toNat_cursor hWindow hStep]

/- The reads of a replica are counted step by step. -/
theorem count_window :
    (window replicas start).count (.ok (replica index)) =
      (List.range replicas.length).countP fun step =>
        (window replicas start)[step]? =
          some (.ok (replica index)) := by
  rw [List.count, window, List.countP_map]
  refine List.countP_congr fun step hMem => ?_
  have hStep := List.mem_range.1 hMem
  rw [← window, window_getElem? hStep]
  simp

/-
  A read goes to the next replica if and only if its round
  does not run out of the numbers.
-/
theorem follows_iff
    (hSome : ∃ index, isHealthyAt replicas index = true)
    (hWindow :
      start.toNat + replicas.length ≤ UInt64.size)
    (hStep : step < replicas.length) :
    Follows replicas start step ↔
      ¬ RunsOut replicas (start.toNat + step) := by
  constructor
  · intro hFollows
    rcases exists_isNext (start.toNat + step) hSome with
      ⟨next, hNext⟩
    exact ((window_getElem?_eq_iff hWindow hStep).1
      (hFollows next hNext)).2
  · intro hStays next hNext
    exact (window_getElem?_eq_iff hWindow hStep).2
      ⟨hNext, hStays⟩

/-
  The healthy replicas share the reads as the unhealthy ones
  have it if and only if each read goes to the next replica.
-/
theorem shares_iff_follows
    (hWindow :
      start.toNat + replicas.length ≤ UInt64.size) :
    Shares replicas (window replicas start) ↔
      ∀ step < replicas.length,
        Follows replicas start step := by
  constructor
  · intro hShares step hStep next hNext
    have hCount := hShares next hNext.healthy
    rw [count_window,
      ← count_isNext start.toNat hNext.healthy] at hCount
    have hAll :=
      of_countP_eq (fun other hMem hRead => by
        rw [decide_eq_true_iff] at hRead ⊢
        exact ((window_getElem?_eq_iff hWindow
          (List.mem_range.1 hMem)).1 hRead).1) hCount
    simpa using
      hAll step (List.mem_range.2 hStep)
        (by simpa using hNext)
  · intro hFollows next hHealthy
    rw [count_window,
      ← count_isNext start.toNat hHealthy]
    refine List.countP_congr fun step hMem => ?_
    have hStep := List.mem_range.1 hMem
    rw [decide_eq_true_iff, decide_eq_true_iff]
    constructor
    · intro hRead
      exact
        ((window_getElem?_eq_iff hWindow hStep).1 hRead).1
    · exact hFollows step hStep next

/- A round that begins at a healthy replica ends there. -/
theorem not_runsOut_of_healthy
    {cursor : Nat}
    (hCursor : cursor < UInt64.size)
    (hHealthy :
      isHealthyAt replicas (cursor % replicas.length) =
        true) :
    ¬ RunsOut replicas cursor := by
  rintro ⟨step, hStep, hFar, hBefore⟩
  have hNone := hBefore 0 (by omega)
  rw [Nat.add_zero, hHealthy] at hNone
  cases hNone

/- There are no unhealthy ones before a healthy one. -/
theorem unhealthyBefore_eq_zero
    (hAll :
      ∀ other < replicas.length,
        isHealthyAt replicas other = true) :
    unhealthyBefore replicas index = 0 := by
  by_contra hSome
  have hPositive := Nat.pos_of_ne_zero hSome
  rcases lt_unhealthyBefore_iff.1 hPositive with
    ⟨hBack, hUnhealthy⟩
  have hHere := hUnhealthy 0 (Nat.le_refl _)
  rw [hAll _ (Nat.mod_lt _ hBack)] at hHere
  cases hHere

end Window

/-
  In a window of rounds, one for each replica, no read goes
  to an unhealthy replica.  A read goes to the next replica
  from its cursor, or it has no place: that is so if its
  round comes to a sum that is too large before it comes to
  a healthy replica.  The healthy ones share the reads as
  the unhealthy ones between them have it if and only if
  every read goes to its next replica.  This is so where no
  sum is too large; and if all replicas are healthy, each
  gets one read, whatever the sums are.
-/
theorem window_shares
    {replicas : List Candidate}
    {start : UInt64}
    (hSome : ∃ index, isHealthyAt replicas index = true)
    (hWindow :
      start.toNat + replicas.length ≤ UInt64.size) :
    (∀ index,
      .ok (replica index) ∈ window replicas start →
      isHealthyAt replicas index = true) ∧
      (∀ step < replicas.length,
        (Follows replicas start step ↔
          ¬ RunsOut replicas (start.toNat + step)) ∧
        ((window replicas start)[step]? =
            some (.error .overflow) ↔
          RunsOut replicas (start.toNat + step))) ∧
      (Shares replicas (window replicas start) ↔
        ∀ step < replicas.length,
          Follows replicas start step) ∧
      (start.toNat + 2 * replicas.length ≤
        UInt64.size + 1 →
        Shares replicas (window replicas start)) ∧
      ((∀ index < replicas.length,
          isHealthyAt replicas index = true) →
        ∀ index < replicas.length,
          (window replicas start).count
            (.ok (replica index)) = 1) := by
  have hShares := shares_iff_follows hWindow
  refine ⟨?_, ?_, hShares, ?_, ?_⟩
  · intro index hMem
    rcases List.mem_map.1 hMem with ⟨step, -, hRead⟩
    exact isHealthyAt_of_route hRead
  · intro step hStep
    exact ⟨follows_iff hSome hWindow hStep,
      window_getElem?_eq_error_iff hWindow hStep⟩
  · intro hFits
    refine hShares.2 fun step hStep => ?_
    rw [follows_iff hSome hWindow hStep]
    exact not_runsOut_of_le (by omega)
  · intro hAll index hIndex
    have hEach :
        Shares replicas (window replicas start) := by
      refine hShares.2 fun step hStep => ?_
      rw [follows_iff hSome hWindow hStep]
      exact not_runsOut_of_healthy (by omega)
        (hAll _ (Nat.mod_lt _ (by omega)))
    rw [hEach index (hAll index hIndex),
      unhealthyBefore_eq_zero hAll]

/- Two of five replicas are healthy. -/
theorem window_shares_sample :
    let replicas : List Candidate :=
      [⟨false, none⟩, ⟨true, none⟩,
        ⟨false, none⟩, ⟨false, none⟩,
          ⟨true, none⟩]
    (∃ index, isHealthyAt replicas index = true) ∧
      (7 : UInt64).toNat + replicas.length ≤
        UInt64.size ∧
      window replicas 7 =
        [.ok (replica 4), .ok (replica 4), .ok (replica 4),
          .ok (replica 1), .ok (replica 1)] ∧
      Shares replicas (window replicas 7) := by
  intro replicas
  have hSome :
      ∃ index, isHealthyAt replicas index = true :=
    ⟨1, by decide⟩
  have hWindow :
      (7 : UInt64).toNat + replicas.length ≤
        UInt64.size := by
    decide
  rcases window_shares hSome hWindow with
    ⟨-, -, -, hShares, -⟩
  exact ⟨hSome, hWindow, by decide, hShares (by decide)⟩

/-
  In front of the last cursors, a round runs out of the
  numbers of 64 bits before it comes to the healthy one of
  five replicas, and the last read of the window has no
  place.
-/
theorem window_short :
    let replicas : List Candidate :=
      [⟨false, none⟩, ⟨true, none⟩,
        ⟨false, none⟩, ⟨false, none⟩,
          ⟨false, none⟩]
    let start : UInt64 := 18446744073709551608
    start.toNat + replicas.length < UInt64.size ∧
      isHealthyAt replicas 1 = true ∧
      window replicas start =
        [.ok (replica 1), .ok (replica 1), .ok (replica 1),
          .ok (replica 1), .error .overflow] ∧
      (window replicas start).count (.ok (replica 1)) ≠
        1 + unhealthyBefore replicas 1 := by
  decide

end Target

end SqlAccess
