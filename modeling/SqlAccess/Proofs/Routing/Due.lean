import SqlAccess.Proofs.Routing.Rest

/-
  This file compares the place where a statement runs with
  the one that is due: the primary for what writes, for what
  is in a transaction and where no replica is healthy, and
  else the healthy replica whose turn it is under the
  policy.  One place is always due, and a cursor only
  matters up to the number of replicas.  The place that is
  due is the one that is chosen, unless a read is in a round
  that runs out of the numbers of 64 bits before it comes to
  the replica: then there is none.

  Key definitions include:
    * `Balancing.IsTurn`
    * `Target.OnPrimary`
    * `Target.BreaksOff`
    * `Target.Due`

  Key theorems include:
    * `isNext_of_mod_eq`
    * `Balancing.choose?_cases`
    * `Target.Due.unique`
    * `Target.route_cases`
    * `Target.route_due_iff`
-/

namespace SqlAccess

------------------------------------------------------------
-- Turns
------------------------------------------------------------

/- Cursors of one remainder have the same next replica. -/
theorem isNext_of_mod_eq
    {replicas : List Candidate}
    {place other index : Nat}
    (hPlace :
      place % replicas.length = other % replicas.length) :
    IsNext replicas place index ↔
      IsNext replicas other index := by
  have hRound (step : Nat) :
      (place + step) % replicas.length =
        (other + step) % replicas.length := by
    rw [← Nat.mod_add_mod, hPlace, Nat.mod_add_mod]
  simp only [IsNext, hRound]

namespace Balancing

/- The healthy replica whose turn it is under a policy. -/
def IsTurn
    (policy : Balancing)
    (replicas : List Candidate)
    (cursor index : Nat) : Prop :=
  match policy with
  | roundRobin => IsNext replicas cursor index
  | leastRecentlyUsed =>
      ∃ rank, IsEarliest replicas index rank

section Turn

variable {policy : Balancing} {replicas : List Candidate}

/- A replica has its turn only if it is healthy. -/
theorem IsTurn.healthy
    {cursor index : Nat}
    (hTurn : policy.IsTurn replicas cursor index) :
    isHealthyAt replicas index = true := by
  cases policy with
  | roundRobin => exact IsNext.healthy hTurn
  | leastRecentlyUsed =>
      exact isHealthyAt_of_leastRecentlyUsed?
        (leastRecentlyUsed?_eq_some_iff.2 hTurn)

/- Only one replica has its turn. -/
theorem IsTurn.unique
    {cursor index other : Nat}
    (hTurn : policy.IsTurn replicas cursor index)
    (hOther : policy.IsTurn replicas cursor other) :
    index = other := by
  cases policy with
  | roundRobin => exact IsNext.unique hTurn hOther
  | leastRecentlyUsed =>
      rcases hTurn with ⟨rank, hEarliest⟩
      rcases hOther with ⟨more, hAlso⟩
      exact (hEarliest.unique hAlso).1

/- If a replica is healthy, it is the turn of one. -/
theorem exists_isTurn
    (policy : Balancing)
    (cursor : Nat)
    (hSome : ∃ index, isHealthyAt replicas index = true) :
    ∃ index, policy.IsTurn replicas cursor index := by
  cases policy with
  | roundRobin => exact exists_isNext cursor hSome
  | leastRecentlyUsed =>
      cases hChosen : leastRecentlyUsed? replicas with
      | none =>
          rcases hSome with ⟨index, hIndex⟩
          rw [leastRecentlyUsed?_eq_none_iff.1 hChosen
            index]
            at hIndex
          cases hIndex
      | some index =>
          exact ⟨index,
            leastRecentlyUsed?_eq_some_iff.1 hChosen⟩

/-
  Whose turn it is hangs on the cursor only by what is left
  over from full rounds.
-/
theorem isTurn_of_mod_eq
    {cursor other index : Nat}
    (hCursor :
      cursor % replicas.length = other % replicas.length) :
    policy.IsTurn replicas cursor index ↔
      policy.IsTurn replicas other index := by
  cases policy with
  | roundRobin => exact isNext_of_mod_eq hCursor
  | leastRecentlyUsed => exact Iff.rfl

/-
  A policy chooses the replica whose turn it is, or none is
  healthy, or the round runs out of the numbers.
-/
theorem choose?_cases
    (policy : Balancing)
    (replicas : List Candidate)
    (cursor : UInt64) :
    (∃ index,
      policy.choose? replicas cursor = .ok (some index) ∧
        policy.IsTurn replicas cursor.toNat index ∧
        ¬ (policy = roundRobin ∧
          RunsOut replicas cursor.toNat)) ∨
      (policy.choose? replicas cursor = .ok none ∧
        (∀ index, isHealthyAt replicas index = false) ∧
        ¬ (policy = roundRobin ∧
          RunsOut replicas cursor.toNat)) ∨
      (policy.choose? replicas cursor = .error .overflow ∧
        policy = roundRobin ∧
        RunsOut replicas cursor.toNat) := by
  cases policy with
  | roundRobin =>
      simpa [choose?, IsTurn] using
        @roundRobin?_cases replicas cursor
  | leastRecentlyUsed =>
      cases hChosen : leastRecentlyUsed? replicas with
      | none =>
          have hNone :=
            leastRecentlyUsed?_eq_none_iff.1 hChosen
          exact .inr (.inl
            ⟨congrArg Except.ok hChosen, hNone,
              by simp⟩)
      | some index =>
          have hTurn :=
            leastRecentlyUsed?_eq_some_iff.1 hChosen
          exact .inl ⟨index, congrArg Except.ok hChosen,
            hTurn, by simp⟩

end Turn

end Balancing

------------------------------------------------------------
-- The Place That Is Due
------------------------------------------------------------

namespace Target

/-
  Whether a statement has to run on the primary: it writes,
  it is in a transaction, or no replica is healthy.
-/
def OnPrimary
    (intent : Intent)
    (inTransaction : Bool)
    (replicas : List Candidate) : Prop :=
  intent = .write ∨ inTransaction = true ∨
    ∀ index, isHealthyAt replicas index = false

/-
  Whether a statement has no place: a read in a round that
  runs out of the numbers.
-/
def BreaksOff
    (intent : Intent)
    (inTransaction : Bool)
    (replicas : List Candidate)
    (cursor : Nat)
    (policy : Balancing) : Prop :=
  intent = .read ∧ inTransaction = false ∧
    policy = .roundRobin ∧ RunsOut replicas cursor

/- The place where a statement should run. -/
inductive Due
    (intent : Intent)
    (inTransaction : Bool)
    (replicas : List Candidate)
    (cursor : Nat)
    (policy : Balancing) : Target → Prop
  | onPrimary
      (hPrimary : OnPrimary intent inTransaction replicas) :
      Due intent inTransaction replicas cursor policy
        primary
  | inTurn
      {index : Nat}
      (hReplica :
        ¬ OnPrimary intent inTransaction replicas)
      (hTurn : policy.IsTurn replicas cursor index) :
      Due intent inTransaction replicas cursor policy
        (replica index)

section Due

variable {intent : Intent} {inTransaction : Bool}
  {replicas : List Candidate} {policy : Balancing}

/- Only one place is due. -/
theorem Due.unique
    {cursor : Nat}
    {target other : Target}
    (hDue :
      Due intent inTransaction replicas cursor policy
        target)
    (hOther :
      Due intent inTransaction replicas cursor policy
        other) :
    target = other := by
  cases hDue with
  | onPrimary hPrimary =>
      cases hOther with
      | onPrimary => rfl
      | inTurn hReplica => exact absurd hPrimary hReplica
  | inTurn hReplica hTurn =>
      cases hOther with
      | onPrimary hPrimary => exact absurd hPrimary hReplica
      | inTurn _ hAlso => rw [hTurn.unique hAlso]

/-
  What may leave the primary is a read outside of
  transactions while a replica is healthy.
-/
theorem not_onPrimary_iff :
    ¬ OnPrimary intent inTransaction replicas ↔
      intent = .read ∧ inTransaction = false ∧
        ∃ index, isHealthyAt replicas index = true := by
  cases intent <;> simp [OnPrimary]

/- Some place is always due. -/
theorem exists_due
    (intent : Intent)
    (inTransaction : Bool)
    (replicas : List Candidate)
    (cursor : Nat)
    (policy : Balancing) :
    ∃ target,
      Due intent inTransaction replicas cursor policy
        target := by
  by_cases hPrimary :
      OnPrimary intent inTransaction replicas
  · exact ⟨primary, .onPrimary hPrimary⟩
  · rcases not_onPrimary_iff.1 hPrimary with
      ⟨-, -, hSome⟩
    rcases policy.exists_isTurn cursor hSome with
      ⟨index, hTurn⟩
    exact ⟨replica index, .inTurn hPrimary hTurn⟩

/- Cursors of one remainder have the same place due. -/
theorem due_of_mod_eq
    {cursor other : Nat}
    {target : Target}
    (hCursor :
      cursor % replicas.length = other % replicas.length)
    (hDue :
      Due intent inTransaction replicas cursor policy
        target) :
    Due intent inTransaction replicas other policy
      target := by
  cases hDue with
  | onPrimary hPrimary => exact .onPrimary hPrimary
  | inTurn hReplica hTurn =>
      exact .inTurn hReplica
        ((Balancing.isTurn_of_mod_eq hCursor).1 hTurn)

variable {cursor : UInt64}

/- What is not a read may run on the primary only. -/
theorem route_of_not_read
    (hOther : intent = .write ∨ inTransaction = true) :
    route intent inTransaction replicas cursor policy =
      .ok primary := by
  rcases hOther with rfl | rfl
  · simp [route]
  · simp [route]

/-
  A statement runs where it is due, or it has no place.
-/
theorem route_cases :
    (∃ target,
      route intent inTransaction replicas cursor policy =
          .ok target ∧
        Due intent inTransaction replicas cursor.toNat
          policy target ∧
        ¬ BreaksOff intent inTransaction replicas
          cursor.toNat policy) ∨
      (route intent inTransaction replicas cursor policy =
          .error .overflow ∧
        BreaksOff intent inTransaction replicas cursor.toNat
          policy) := by
  by_cases hOther : intent = .write ∨ inTransaction = true
  · refine .inl
      ⟨primary, route_of_not_read hOther, ?_, ?_⟩
    · exact .onPrimary (hOther.imp_right .inl)
    · rintro ⟨rfl, rfl, -⟩
      simp at hOther
  · obtain ⟨rfl, rfl⟩ :
        intent = .read ∧ inTransaction = false := by
      cases intent <;> simp_all
    rw [route_read_eq]
    rcases policy.choose?_cases replicas cursor with
      ⟨index, hChosen, hTurn, hStays⟩ |
        ⟨hChosen, hNone, hStays⟩ |
        ⟨hChosen, hBreaks⟩
    · have hReplica : ¬ OnPrimary .read false replicas :=
        not_onPrimary_iff.2
          ⟨rfl, rfl, index, hTurn.healthy⟩
      rw [hChosen]
      exact .inl
        ⟨replica index, rfl, .inTurn hReplica hTurn,
        fun hBreaks => hStays hBreaks.2.2⟩
    · rw [hChosen]
      exact .inl
        ⟨primary, rfl, .onPrimary (.inr (.inr hNone)),
        fun hBreaks => hStays hBreaks.2.2⟩
    · rw [hChosen]
      exact .inr ⟨rfl, rfl, rfl, hBreaks⟩

/-
  Where a statement runs is due, and it does not break off.
-/
theorem route_eq_ok_iff {target : Target} :
    route intent inTransaction replicas cursor policy =
        .ok target ↔
      Due intent inTransaction replicas cursor.toNat policy
          target ∧
        ¬ BreaksOff intent inTransaction replicas
          cursor.toNat
          policy := by
  rcases @route_cases intent inTransaction replicas policy
      cursor with
    ⟨place, hRoute, hDue, hStays⟩ |
      ⟨hRoute, hBreaks⟩
  · rw [hRoute, Except.ok.injEq]
    constructor
    · rintro rfl
      exact ⟨hDue, hStays⟩
    · rintro ⟨hOther, -⟩
      exact hDue.unique hOther
  · simp [hRoute, hBreaks]

/-
  A statement has no place exactly where its round breaks
  off.
-/
theorem route_eq_error_iff :
    route intent inTransaction replicas cursor policy =
        .error .overflow ↔
      BreaksOff intent inTransaction replicas cursor.toNat
        policy := by
  rcases @route_cases intent inTransaction replicas policy
      cursor with
    ⟨place, hRoute, -, hStays⟩ | ⟨hRoute, hBreaks⟩
  · simp [hRoute, hStays]
  · simp [hRoute, hBreaks]

end Due

/-
  One place is due for every statement, and cursors of one
  remainder have the same.  No statement goes to a replica
  that is unhealthy, and none that writes or is in a
  transaction goes to one at all.  A statement runs at a
  place if and only if that is due and it does not break
  off: a read in a round that comes to a sum which is too
  large before it comes to a healthy replica has no place.
  That is not so where no sum is too large.
-/
theorem route_due_iff
    (intent : Intent)
    (inTransaction : Bool)
    (replicas : List Candidate)
    (cursor : UInt64)
    (policy : Balancing) :
    let chosen :=
      route intent inTransaction replicas cursor policy
    let due :=
      Due intent inTransaction replicas cursor.toNat policy
    let breaksOff :=
      BreaksOff intent inTransaction replicas cursor.toNat
        policy
    (∃! target, due target) ∧
      (∀ other,
        cursor.toNat % replicas.length =
            other % replicas.length →
          ∀ target, due target →
            Due intent inTransaction replicas other policy
              target) ∧
      (∀ index, chosen = .ok (replica index) →
        ¬ OnPrimary intent inTransaction replicas ∧
          isHealthyAt replicas index = true) ∧
      (∀ target,
        chosen = .ok target ↔
          due target ∧ ¬ breaksOff) ∧
      (chosen = .error .overflow ↔ breaksOff) ∧
      (cursor.toNat + replicas.length ≤ UInt64.size →
        ¬ breaksOff) := by
  intro chosen due breaksOff
  refine ⟨?_, ?_, ?_, fun target => route_eq_ok_iff,
    route_eq_error_iff, ?_⟩
  · rcases exists_due intent inTransaction replicas
        cursor.toNat policy with ⟨target, hDue⟩
    exact ⟨target, hDue, fun other hOther =>
      hOther.unique hDue⟩
  · exact fun other hCursor target hDue =>
      due_of_mod_eq hCursor hDue
  · intro index hChosen
    cases (route_eq_ok_iff.1 hChosen).1 with
    | inTurn hReplica hTurn =>
        exact ⟨hReplica, hTurn.healthy⟩
  · rintro hFits ⟨-, -, -, hRunsOut⟩
    exact not_runsOut_of_le hFits hRunsOut

/-
  From the last cursor, which three divides, a round makes
  one step to the first of three replicas and breaks off,
  though the third one is healthy and gets the read of the
  first cursor.
-/
theorem route_strays :
    let replicas : List Candidate :=
      [⟨false, none⟩, ⟨false, none⟩,
        ⟨true, none⟩]
    let cursor : UInt64 := 18446744073709551615
    cursor.toNat % replicas.length =
        (0 : UInt64).toNat % replicas.length ∧
      isHealthyAt replicas 2 = true ∧
      IsNext replicas cursor.toNat 2 ∧
      route .read false replicas 0 .roundRobin =
        .ok (replica 2) ∧
      route .read false replicas cursor .roundRobin =
        .error .overflow := by
  decide

end Target

end SqlAccess
