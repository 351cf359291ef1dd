import Mathlib.Algebra.Group.Nat.Defs
import Mathlib.Data.List.Induction
import Mathlib.Data.Nat.Find
import SqlAccess.Routing.Route

/-
  This file says which replica a policy chooses: in a round,
  the first healthy one in cyclic order from the cursor,
  unless the round runs out of the numbers of 64 bits before
  it; and else the healthy one that was used least recently.

  Key definitions include:
    * `IsNext`
    * `RunsOut`
    * `IsEarliest`

  Key theorems include:
    * `exists_isNext`
    * `IsNext.unique`
    * `roundRobin?_eq_some_iff`
    * `roundRobin?_eq_none_iff`
    * `roundRobin?_eq_error_iff`
    * `leastRecentlyUsed?_eq_some_iff`
    * `leastRecentlyUsed?_eq_none_iff`
-/

namespace SqlAccess

------------------------------------------------------------
-- Healthy Replicas
------------------------------------------------------------

section Healthy

variable {replicas : List Candidate} {index : Nat}

/-
  A replica is healthy at an index if there is one and it is
  seen to be.
-/
theorem isHealthyAt_iff :
    isHealthyAt replicas index = true ↔
      ∃ view, replicas[index]? = some view ∧
        view.healthy = true := by
  simp [isHealthyAt, Option.any_eq_true]

/- Only replicas that are there are healthy. -/
theorem lt_length_of_isHealthyAt
    (hHealthy : isHealthyAt replicas index = true) :
    index < replicas.length := by
  rcases isHealthyAt_iff.1 hHealthy with
    ⟨view, hView, -⟩
  exact (List.getElem?_eq_some_iff.1 hView).1

end Healthy

------------------------------------------------------------
-- Rounds
------------------------------------------------------------

/-
  A replica is healthy, and it is the first such in cyclic
  order from a place on.
-/
def IsNext
    (replicas : List Candidate)
    (place index : Nat) : Prop :=
  ∃ step < replicas.length,
    (place + step) % replicas.length = index ∧
      isHealthyAt replicas index = true ∧
      ∀ earlier < step,
        isHealthyAt replicas
          ((place + earlier) % replicas.length) = false

instance IsNext.decidable
    (replicas : List Candidate)
    (place index : Nat) :
    Decidable (IsNext replicas place index) :=
  inferInstanceAs
    (Decidable (∃ step < replicas.length, _))

section Rounds

variable {replicas : List Candidate} {place index : Nat}

/- The next replica is healthy. -/
theorem IsNext.healthy
    (hNext : IsNext replicas place index) :
    isHealthyAt replicas index = true := by
  rcases hNext with ⟨_, _, _, hHealthy, _⟩
  exact hHealthy

/- From a place, only one replica is the next one. -/
theorem IsNext.unique
    {other : Nat}
    (hNext : IsNext replicas place index)
    (hOther : IsNext replicas place other) :
    index = other := by
  rcases hNext with ⟨step, -, rfl, hHere, hBefore⟩
  rcases hOther with ⟨more, -, rfl, hThere, hUntil⟩
  rcases Nat.lt_trichotomy step more with
    hLess | rfl | hMore
  · rw [hUntil step hLess] at hHere
    cases hHere
  · rfl
  · rw [hBefore more hMore] at hThere
    cases hThere

/- A cursor only matters up to the number of replicas. -/
theorem isNext_add_length :
    IsNext replicas (place + replicas.length) index ↔
      IsNext replicas place index := by
  have hPlace (step : Nat) :
      (place + replicas.length + step) % replicas.length =
        (place + step) % replicas.length := by
    rw [Nat.add_right_comm, Nat.add_mod_right]
  simp only [IsNext, hPlace]

/- A round comes to every replica. -/
theorem exists_step
    (place : Nat)
    (hIndex : index < replicas.length) :
    ∃ step < replicas.length,
      (place + step) % replicas.length = index := by
  have hPlace : place % replicas.length < replicas.length :=
    Nat.mod_lt _ (by omega)
  have hSum :
      place % replicas.length +
          (index + replicas.length - place %
            replicas.length) =
        index + replicas.length := by
    omega
  refine
    ⟨(index + replicas.length - place % replicas.length) %
        replicas.length,
      Nat.mod_lt _ (by omega), ?_⟩
  rw [Nat.add_mod_mod, ← Nat.mod_add_mod, hSum,
    Nat.add_mod_right, Nat.mod_eq_of_lt hIndex]

/-
  If a replica is healthy, one is the first from a place.
-/
theorem exists_isNext
    (place : Nat)
    (hSome : ∃ index, isHealthyAt replicas index = true) :
    ∃ index, IsNext replicas place index := by
  rcases hSome with ⟨other, hOther⟩
  have hBound := lt_length_of_isHealthyAt hOther
  rcases exists_step place hBound with
    ⟨step, hStep, rfl⟩
  have hFound :
      ∃ step,
        isHealthyAt replicas
          ((place + step) % replicas.length) = true :=
    ⟨step, hOther⟩
  have hFirst : Nat.find hFound ≤ step :=
    Nat.find_min' hFound hOther
  refine
    ⟨_, Nat.find hFound,
      Nat.lt_of_le_of_lt hFirst hStep, rfl,
        Nat.find_spec hFound, ?_⟩
  intro earlier hEarlier
  exact Bool.eq_false_iff.2 (Nat.find_min hFound hEarlier)

end Rounds

/-
  Whether a round comes to a sum that is too large before it
  comes to a healthy replica.
-/
def RunsOut
    (replicas : List Candidate)
    (cursor : Nat) : Prop :=
  ∃ step < replicas.length,
    UInt64.size ≤ cursor + step ∧
      ∀ earlier < step,
        isHealthyAt replicas
          ((cursor + earlier) % replicas.length) = false

/-
  How a round ends that has come to a step.  It finds the
  replica of a later step, if all before are unhealthy; it
  has no sum for a step, if all before are unhealthy; or it
  makes all its steps.
-/
inductive RoundEnds
    (replicas : List Candidate)
    (cursor start : Nat) :
    Except Overflow (Option Nat) → Prop
  | found
      {step : Nat}
      (hStart : start ≤ step)
      (hStep : step < replicas.length)
      (hFits : cursor + step < UInt64.size)
      (hHealthy :
        isHealthyAt replicas
          ((cursor + step) % replicas.length) = true)
      (hBefore :
        ∀ earlier, start ≤ earlier →
          earlier < step →
          isHealthyAt replicas
            ((cursor + earlier) % replicas.length) =
              false) :
      RoundEnds replicas cursor start
        (.ok (some ((cursor + step) % replicas.length)))
  | overflow
      {step : Nat}
      (hStart : start ≤ step)
      (hStep : step < replicas.length)
      (hFar : UInt64.size ≤ cursor + step)
      (hBefore :
        ∀ earlier, start ≤ earlier →
          earlier < step →
          isHealthyAt replicas
            ((cursor + earlier) % replicas.length) =
              false) :
      RoundEnds replicas cursor start (.error .overflow)
  | exhausted
      (hAll :
        ∀ step, start ≤ step →
          step < replicas.length →
          cursor + step < UInt64.size ∧
            isHealthyAt replicas
              ((cursor + step) % replicas.length) = false) :
      RoundEnds replicas cursor start (.ok none)

section Ends

variable {replicas : List Candidate}

/-
  A step that comes to an unhealthy replica ends nothing.
-/
theorem RoundEnds.of_succ
    {cursor start : Nat}
    {result : Except Overflow (Option Nat)}
    (hFits : cursor + start < UInt64.size)
    (hUnhealthy :
      isHealthyAt replicas
        ((cursor + start) % replicas.length) = false)
    (hEnds : RoundEnds replicas cursor (start + 1) result) :
    RoundEnds replicas cursor start result := by
  have hExtend :
      ∀ earlier, start ≤ earlier →
        (start + 1 ≤ earlier →
          isHealthyAt replicas
            ((cursor + earlier) % replicas.length) =
              false) →
        isHealthyAt replicas
          ((cursor + earlier) % replicas.length) =
            false := by
    intro earlier hStart hLater
    rcases Nat.eq_or_lt_of_le hStart with rfl | hLess
    · exact hUnhealthy
    · exact hLater hLess
  cases hEnds with
  | found hStart hStep hNear hHealthy hBefore =>
      refine .found (Nat.le_of_succ_le hStart) hStep hNear
        hHealthy ?_
      intro earlier hFirst hLess
      exact hExtend earlier hFirst fun hLater =>
        hBefore earlier hLater hLess
  | overflow hStart hStep hFar hBefore =>
      refine .overflow (Nat.le_of_succ_le hStart) hStep
        hFar ?_
      intro earlier hFirst hLess
      exact hExtend earlier hFirst fun hLater =>
        hBefore earlier hLater hLess
  | exhausted hAll =>
      refine .exhausted ?_
      intro step hFirst hStep
      rcases Nat.eq_or_lt_of_le hFirst with rfl | hLess
      · exact ⟨hFits, hUnhealthy⟩
      · exact hAll step hLess hStep

variable {cursor : UInt64}

/- The steps that are left are made one after the other. -/
theorem firstHealthy?_ends
    {start count : Nat}
    (hCount : start + count = replicas.length) :
    RoundEnds replicas cursor.toNat start
      (firstHealthy? replicas cursor
        (List.range' start count)) := by
  induction count generalizing start with
  | zero =>
      refine .exhausted ?_
      intro step hStart hStep
      omega
  | succ count ih =>
      rw [List.range'_succ, firstHealthy?, rotated]
      by_cases hFits : cursor.toNat + start < UInt64.size
      · rw [if_pos hFits]
        by_cases hHealthy :
            isHealthyAt replicas
              ((cursor.toNat + start) % replicas.length) =
                true
        · have hFound :
              RoundEnds replicas cursor.toNat start
                (.ok (some
                  ((cursor.toNat + start) %
                    replicas.length))) :=
            .found (Nat.le_refl _) (by omega) hFits hHealthy
              fun earlier hFirst hLess => by omega
          simpa [bind, Except.bind, pure, Except.pure,
            hHealthy]
            using hFound
        · have hUnhealthy := Bool.eq_false_iff.2 hHealthy
          have hRest :=
            (ih (by omega)).of_succ hFits hUnhealthy
          simpa [bind, Except.bind, hHealthy] using hRest
      · rw [if_neg hFits]
        exact .overflow (Nat.le_refl _) (by omega)
          (Nat.not_lt.1 hFits)
          fun earlier hFirst hLess => by omega

/- No replica is healthy if a round comes to none at all. -/
theorem unhealthy_of_round
    {place : Nat}
    (hNone :
      ∀ step < replicas.length,
        isHealthyAt replicas
          ((place + step) % replicas.length) = false)
    (index : Nat) :
    isHealthyAt replicas index = false := by
  by_contra hHealthy
  rw [Bool.not_eq_false] at hHealthy
  have hBound := lt_length_of_isHealthyAt hHealthy
  rcases exists_step place hBound with
    ⟨step, hStep, rfl⟩
  rw [hNone step hStep] at hHealthy
  cases hHealthy

/-
  A round finds the next healthy replica, or there is none,
  or it runs out of the numbers.
-/
theorem roundRobin?_cases :
    (∃ index,
      roundRobin? replicas cursor = .ok (some index) ∧
        IsNext replicas cursor.toNat index ∧
        ¬ RunsOut replicas cursor.toNat) ∨
      (roundRobin? replicas cursor = .ok none ∧
        (∀ index, isHealthyAt replicas index = false) ∧
        ¬ RunsOut replicas cursor.toNat) ∨
      (roundRobin? replicas cursor = .error .overflow ∧
        RunsOut replicas cursor.toNat) := by
  have hEnds :
      RoundEnds replicas cursor.toNat 0
        (roundRobin? replicas cursor) := by
    rw [roundRobin?, List.range_eq_range']
    exact firstHealthy?_ends (Nat.zero_add _)
  generalize roundRobin? replicas cursor = result at hEnds
  cases hEnds with
  | found _ hStep hFits hHealthy hBefore =>
      refine .inl
        ⟨_, rfl, ⟨_, hStep, rfl, hHealthy, ?_⟩, ?_⟩
      · intro earlier hLess
        exact hBefore earlier (Nat.zero_le _) hLess
      · rintro ⟨far, -, hFar, hNone⟩
        rw [hNone _ (by omega)] at hHealthy
        cases hHealthy
  | overflow _ hStep hFar hBefore =>
      refine .inr (.inr ⟨rfl, _, hStep, hFar, ?_⟩)
      intro earlier hLess
      exact hBefore earlier (Nat.zero_le _) hLess
  | exhausted hAll =>
      refine .inr (.inl ⟨rfl, ?_, ?_⟩)
      · exact unhealthy_of_round fun step hStep =>
          (hAll step (Nat.zero_le _) hStep).2
      · rintro ⟨far, hStep, hFar, -⟩
        have hNear := (hAll far (Nat.zero_le _) hStep).1
        omega

/-
  A round finds the first healthy replica from its cursor,
  unless it runs out of the numbers before.
-/
theorem roundRobin?_eq_some_iff {index : Nat} :
    roundRobin? replicas cursor = .ok (some index) ↔
      IsNext replicas cursor.toNat index ∧
        ¬ RunsOut replicas cursor.toNat := by
  rcases @roundRobin?_cases replicas cursor with
    ⟨found, hFound, hNext, hStays⟩ |
      ⟨hFound, hNone, -⟩ | ⟨hFound, hOut⟩
  · rw [hFound]
    constructor
    · rintro ⟨⟩
      exact ⟨hNext, hStays⟩
    · rintro ⟨hIndex, -⟩
      rw [hNext.unique hIndex]
  · simp only [hFound, reduceCtorEq, Except.ok.injEq,
      false_iff]
    rintro ⟨hNext, -⟩
    exact absurd hNext.healthy (by simp [hNone index])
  · simp [hFound, hOut]

/- A round finds nothing if no replica is healthy. -/
theorem roundRobin?_eq_none_iff :
    roundRobin? replicas cursor = .ok none ↔
      (∀ index, isHealthyAt replicas index = false) ∧
        ¬ RunsOut replicas cursor.toNat := by
  rcases @roundRobin?_cases replicas cursor with
    ⟨found, hFound, hNext, -⟩ |
      ⟨hFound, hNone, hStays⟩ | ⟨hFound, hOut⟩
  · simp only [hFound, reduceCtorEq, Except.ok.injEq,
      false_iff]
    rintro ⟨hNone, -⟩
    exact absurd hNext.healthy (by simp [hNone found])
  · simp [hFound, hNone, hStays]
  · simp [hFound, hOut]

/- A round has no result if it runs out of the numbers. -/
theorem roundRobin?_eq_error_iff :
    roundRobin? replicas cursor = .error .overflow ↔
      RunsOut replicas cursor.toNat := by
  rcases @roundRobin?_cases replicas cursor with
    ⟨found, hFound, -, hStays⟩ |
      ⟨hFound, -, hStays⟩ | ⟨hFound, hOut⟩
  · simp [hFound, hStays]
  · simp [hFound, hStays]
  · simp [hFound, hOut]

/- No round runs out of the numbers where all sums fit. -/
theorem not_runsOut_of_le
    {cursor : Nat}
    (hFits : cursor + replicas.length ≤ UInt64.size) :
    ¬ RunsOut replicas cursor := by
  rintro ⟨step, hStep, hFar, -⟩
  omega

end Ends

------------------------------------------------------------
-- Least Recent Use
------------------------------------------------------------

/- The best of the healthy replicas, and its rank. -/
def earliest?
    (replicas : List Candidate) : Option (Nat × Nat) :=
  replicas.zipIdx.foldl (fun best (view, index) =>
    if view.healthy then earlierUsed best index view.rank
    else best) none

/-
  A healthy replica with its rank, which is less than that
  of every other healthy one, or the same as that of a later
  one.
-/
structure IsEarliest
    (replicas : List Candidate)
    (index rank : Nat) : Prop where
  here :
    ∃ view, replicas[index]? = some view ∧
      view.healthy = true ∧ view.rank = rank
  least :
    ∀ other view, replicas[other]? = some view →
      view.healthy = true →
        rank < view.rank ∨ rank = view.rank ∧
          index ≤ other

section Earliest

variable {replicas : List Candidate} {index rank : Nat}

/- Only one replica is the earliest, at one rank. -/
theorem IsEarliest.unique
    {other more : Nat}
    (hFirst : IsEarliest replicas index rank)
    (hOther : IsEarliest replicas other more) :
    index = other ∧ rank = more := by
  rcases hFirst with
    ⟨⟨view, hView, hHealthy, rfl⟩, hLeast⟩
  rcases hOther with
    ⟨⟨seen, hSeen, hSound, rfl⟩, hFewest⟩
  have hBelow := hLeast other seen hSeen hSound
  have hAbove := hFewest index view hView hHealthy
  omega

end Earliest

/- The replicas are compared from first to last. -/
theorem earliest?_append_singleton
    (replicas : List Candidate)
    (view : Candidate) :
    earliest? (replicas ++ [view]) =
      if view.healthy then
        earlierUsed (earliest? replicas) replicas.length
          view.rank
      else earliest? replicas := by
  rw [earliest?, List.zipIdx_append, List.foldl_append]
  simp [earliest?]

/- A replica that is added has the last index. -/
theorem getElem?_snoc_eq_some_iff
    {replicas : List Candidate}
    {view seen : Candidate}
    {other : Nat} :
    (replicas ++ [view])[other]? = some seen ↔
      replicas[other]? = some seen ∨
        other = replicas.length ∧ view = seen := by
  rcases Nat.lt_trichotomy other replicas.length with
    hLess | rfl | hMore
  · simp [List.getElem?_append_left hLess,
      Nat.ne_of_lt hLess]
  · simp
  · have hPast :
        (replicas ++ [view]).length ≤ other := by
      rw [List.length_append, List.length_singleton]
      exact hMore
    simp [List.getElem?_eq_none hPast,
      List.getElem?_eq_none (Nat.le_of_lt hMore),
      Nat.ne_of_gt hMore]

section Extension

variable {replicas : List Candidate} {view : Candidate}

/- What is below the earliest rank is below all of them. -/
theorem IsEarliest.lt_rank
    {index rank bound : Nat}
    (hFirst : IsEarliest replicas index rank)
    (hBound : bound < rank) :
    ∀ other ∈ replicas, other.healthy = true →
      bound < other.rank := by
  intro other hMem hOther
  rcases List.mem_iff_getElem?.1 hMem with
    ⟨place, hPlace⟩
  have hLeast := hFirst.least place other hPlace hOther
  omega

/- One more that is not better leaves the earliest. -/
theorem IsEarliest.keep
    {index rank : Nat}
    (hFirst : IsEarliest replicas index rank)
    (hView : view.healthy = true → rank ≤ view.rank) :
    IsEarliest (replicas ++ [view]) index rank := by
  rcases hFirst with ⟨⟨best, hBest, hHere⟩, hLeast⟩
  refine
    ⟨⟨best, getElem?_snoc_eq_some_iff.2 (.inl hBest),
      hHere⟩,
      ?_⟩
  intro other seen hSeen hHealthy
  rcases getElem?_snoc_eq_some_iff.1 hSeen with
    hOld | ⟨rfl, rfl⟩
  · exact hLeast other seen hOld hHealthy
  · have hBound := (List.getElem?_eq_some_iff.1 hBest).1
    have hRank := hView hHealthy
    omega

/-
  One more that is better than all others is the earliest.
-/
theorem isEarliest_snoc
    (hHealthy : view.healthy = true)
    (hBetter :
      ∀ other ∈ replicas, other.healthy = true →
        view.rank < other.rank) :
    IsEarliest (replicas ++ [view]) replicas.length
      view.rank := by
  refine
    ⟨⟨view,
      getElem?_snoc_eq_some_iff.2 (.inr ⟨rfl, rfl⟩),
        hHealthy, rfl⟩, ?_⟩
  intro other seen hSeen hSound
  rcases getElem?_snoc_eq_some_iff.1 hSeen with
    hOld | ⟨rfl, rfl⟩
  · exact .inl
      (hBetter seen (List.mem_of_getElem? hOld) hSound)
  · exact .inr ⟨rfl, Nat.le_refl _⟩

end Extension

/- What is kept is the earliest, and nothing if none is. -/
theorem earliest?_spec (replicas : List Candidate) :
    (∀ index rank,
      earliest? replicas = some (index, rank) →
        IsEarliest replicas index rank) ∧
      (earliest? replicas = none →
        ∀ view ∈ replicas, view.healthy = false) := by
  induction replicas using List.reverseRecOn with
  | nil => simp [earliest?]
  | append_singleton replicas view ih =>
      rcases ih with ⟨hSome, hNone⟩
      rw [earliest?_append_singleton]
      by_cases hHealthy : view.healthy = true
      · rw [if_pos hHealthy]
        cases hBest : earliest? replicas with
        | none =>
            refine ⟨?_, by simp [earlierUsed]⟩
            rintro index rank ⟨⟩
            refine isEarliest_snoc hHealthy ?_
            intro other hMem hOther
            rw [hNone hBest other hMem] at hOther
            cases hOther
        | some best =>
            rcases best with ⟨first, least⟩
            have hFirst := hSome first least hBest
            by_cases hBetter : view.rank < least
            · rw [earlierUsed, if_pos hBetter]
              refine ⟨?_, by simp⟩
              rintro index rank ⟨⟩
              exact isEarliest_snoc hHealthy
                (hFirst.lt_rank hBetter)
            · rw [earlierUsed, if_neg hBetter]
              refine ⟨?_, by simp⟩
              rintro index rank ⟨⟩
              exact hFirst.keep fun _ =>
                Nat.not_lt.1 hBetter
      · rw [if_neg hHealthy]
        refine ⟨?_, ?_⟩
        · intro index rank hBest
          exact (hSome index rank hBest).keep fun hView =>
            absurd hView hHealthy
        · intro hBest other hMem
          rcases List.mem_append.1 hMem with hOld | hNew
          · exact hNone hBest other hOld
          · rw [List.mem_singleton.1 hNew]
            exact Bool.eq_false_iff.2 hHealthy

/-
  The replica that was used least recently is the first of
  the earliest rank.
-/
theorem leastRecentlyUsed?_eq_some_iff
    {replicas : List Candidate}
    {index : Nat} :
    leastRecentlyUsed? replicas = some index ↔
      ∃ rank, IsEarliest replicas index rank := by
  rcases earliest?_spec replicas with ⟨hSome, hNone⟩
  have hChosen :
      leastRecentlyUsed? replicas =
        (earliest? replicas).map Prod.fst :=
    rfl
  rw [hChosen, Option.map_eq_some_iff]
  constructor
  · rintro ⟨⟨first, rank⟩, hBest, rfl⟩
    exact ⟨rank, hSome first rank hBest⟩
  · rintro ⟨rank, hFirst⟩
    cases hBest : earliest? replicas with
    | none =>
        rcases hFirst.here with
          ⟨view, hView, hHealthy, -⟩
        rw [hNone hBest view (List.mem_of_getElem? hView)]
          at hHealthy
        cases hHealthy
    | some best =>
        rcases best with ⟨other, least⟩
        have hSame :=
          hFirst.unique (hSome other least hBest)
        exact ⟨_, rfl, hSame.1.symm⟩

/- The replica that was used least recently is healthy. -/
theorem isHealthyAt_of_leastRecentlyUsed?
    {replicas : List Candidate}
    {index : Nat}
    (hChosen : leastRecentlyUsed? replicas = some index) :
    isHealthyAt replicas index = true := by
  rcases leastRecentlyUsed?_eq_some_iff.1 hChosen with
    ⟨rank, hEarliest⟩
  rcases hEarliest.here with ⟨view, hView, hHealthy, -⟩
  exact isHealthyAt_iff.2 ⟨view, hView, hHealthy⟩

/- None was used least recently if no replica is healthy. -/
theorem leastRecentlyUsed?_eq_none_iff
    {replicas : List Candidate} :
    leastRecentlyUsed? replicas = none ↔
      ∀ index, isHealthyAt replicas index = false := by
  constructor
  · intro hNone index
    have hBest : earliest? replicas = none :=
      Option.map_eq_none_iff.1 hNone
    by_contra hHealthy
    rw [Bool.not_eq_false] at hHealthy
    rcases isHealthyAt_iff.1 hHealthy with
      ⟨view, hView, hSound⟩
    rw [(earliest?_spec replicas).2 hBest view
      (List.mem_of_getElem? hView)] at hSound
    cases hSound
  · intro hNone
    cases hChosen : leastRecentlyUsed? replicas with
    | none => rfl
    | some index =>
        have hHealthy :=
          isHealthyAt_of_leastRecentlyUsed? hChosen
        rw [hNone index] at hHealthy
        cases hHealthy

end SqlAccess
