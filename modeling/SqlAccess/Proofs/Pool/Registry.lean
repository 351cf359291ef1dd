import SqlAccess.Proofs.Pool.Chronicle

/-
  This file shows that the clients of a crowd are told
  apart: each of them is in one place, and makes no calls
  before it has a connection.

  Key definitions include:
    * `Crowd.clients`
    * `Crowd.Registered`
    * `Crowd.Outside`

  Key theorems include:
    * `Crowd.Registered.welcome`
    * `Crowd.Registered.called`
    * `Crowd.Registered.step`
-/

namespace SqlAccess

variable {σ : Type}

namespace Crowd

variable {crowd : Crowd σ}

------------------------------------------------------------
-- Clients
------------------------------------------------------------

/- All clients who wait or who have a connection. -/
def clients (crowd : Crowd σ) : List Client :=
  crowd.seekers.map Seeker.client ++
    crowd.holders.map Holder.client

/-
  No client is in two places, those to come have numbers
  that nobody had, and who waits has made no calls.
-/
structure Registered (crowd : Crowd σ) : Prop where
  distinct : crowd.clients.Nodup
  joined :
    ∀ client ∈ crowd.clients,
      client.number < crowd.joined
  logged :
    ∀ entry ∈ crowd.log,
      entry.client.number < crowd.joined
  waiting :
    ∀ seeker ∈ crowd.seekers, ∀ entry ∈ crowd.log,
      entry.client ≠ seeker.client

/- A client who has come and is not among the others yet. -/
structure Outside
    (client : Client)
    (crowd : Crowd σ) : Prop where
  joined : client.number < crowd.joined
  absent : client ∉ crowd.clients
  silent : ∀ entry ∈ crowd.log, entry.client ≠ client

namespace Registered

/- A new crowd has no clients to register. -/
theorem new
    (config : Config)
    (backend : Backend σ)
    (memory : σ) :
    (Crowd.new config backend memory).Registered :=
  ⟨.nil, List.forall_mem_nil _, List.forall_mem_nil _,
    List.forall_mem_nil _⟩

/- One more client has come. -/
theorem welcome
    (hRegistered : crowd.Registered)
    (purpose : Purpose) :
    let next : Crowd σ :=
      { crowd with joined := crowd.joined + 1 }
    next.Registered ∧
      Outside ⟨crowd.joined, purpose⟩ next := by
  refine
    ⟨⟨hRegistered.distinct, ?_, ?_,
      hRegistered.waiting⟩,
    ⟨Nat.lt_succ_self _, ?_, ?_⟩⟩
  · intro client hClient
    exact Nat.lt_succ_of_lt
      (hRegistered.joined client hClient)
  · intro entry hEntry
    exact Nat.lt_succ_of_lt
      (hRegistered.logged entry hEntry)
  · intro hClient
    exact Nat.lt_irrefl _ (hRegistered.joined _ hClient)
  · intro entry hEntry hSame
    have hLess := hRegistered.logged entry hEntry
    rw [hSame] at hLess
    exact Nat.lt_irrefl _ hLess

/- A client who waits takes the next part of a checkout. -/
theorem called
    (hRegistered : crowd.Registered)
    {place : Nat}
    {seeker : Seeker}
    (hSeeker : crowd.seekers[place]? = some seeker) :
    let next : Crowd σ :=
      { crowd with seekers := crowd.seekers.eraseIdx place }
    next.Registered ∧ Outside seeker.client next := by
  have hSublist :=
    List.eraseIdx_sublist crowd.seekers place
  have hPerm :
      crowd.clients.Perm
        (seeker.client ::
          ((crowd.seekers.eraseIdx place).map
            Seeker.client ++
            crowd.holders.map Holder.client)) :=
    ((perm_eraseIdx hSeeker).map Seeker.client).append_right
      _
  have hDistinct := hPerm.nodup_iff.1 hRegistered.distinct
  rw [List.nodup_cons] at hDistinct
  have hMem : seeker.client ∈ crowd.clients :=
    hPerm.symm.subset List.mem_cons_self
  refine ⟨⟨hDistinct.2, ?_, hRegistered.logged, ?_⟩,
    ⟨hRegistered.joined _ hMem, hDistinct.1, ?_⟩⟩
  · intro client hClient
    exact hRegistered.joined client
      (hPerm.symm.subset (List.mem_cons_of_mem _ hClient))
  · intro seeker hMember
    exact hRegistered.waiting seeker
      (hSublist.subset hMember)
  · intro entry hEntry
    exact hRegistered.waiting seeker
      (List.mem_of_getElem? hSeeker) entry hEntry

/-
  Whatever the part ends with, the client is in one place.
-/
theorem seek
    (hRegistered : crowd.Registered)
    {client : Client}
    (hOutside : Outside client crowd)
    (part :
      Act σ (Except Waiter (Except Error Connection))) :
    (crowd.seek client part).2.Registered := by
  have hJoined :
      ∀ other ∈ client :: crowd.clients,
        other.number < crowd.joined := by
    rw [List.forall_mem_cons]
    exact ⟨hOutside.joined, hRegistered.joined⟩
  have hDistinct : (client :: crowd.clients).Nodup :=
    List.nodup_cons.2
      ⟨hOutside.absent, hRegistered.distinct⟩
  unfold Crowd.seek
  rcases part.run crowd.db with ⟨answer, db⟩
  cases answer with
  | error waiter =>
      refine ⟨hDistinct, hJoined,
        hRegistered.logged, ?_⟩
      intro seeker hSeeker
      rcases List.mem_cons.1 hSeeker with rfl | hOther
      · exact hOutside.silent
      · exact hRegistered.waiting seeker hOther
  | ok result =>
      cases result with
      | error e =>
          exact ⟨hRegistered.distinct, hRegistered.joined,
            hRegistered.logged, hRegistered.waiting⟩
      | ok conn =>
          have hPerm :
              (crowd.seekers.map Seeker.client ++
                client ::
                  crowd.holders.map Holder.client).Perm
                (client :: crowd.clients) :=
            List.perm_middle
          refine ⟨hPerm.nodup_iff.2 hDistinct, ?_,
            hRegistered.logged, hRegistered.waiting⟩
          intro other hOther
          exact hJoined other (hPerm.subset hOther)

/-
  The clients stay the same, and one of them makes calls.
-/
theorem work
    (hRegistered : crowd.Registered)
    {place : Nat}
    {old holder : Holder}
    (hOld : crowd.holders[place]? = some old)
    (hClient : holder.client = old.client)
    {part : Part}
    (submits : Activity → List Call)
    {use : Use σ Activity}
    (hTracking : use.Tracking part) :
    (crowd.work place holder part submits
      use).Registered := by
  have hWorked :=
    holder.worked_of_tracking hTracking crowd.db
  have hOldMem :
      holder.client ∈
        crowd.holders.map Holder.client := by
    rw [hClient]
    exact List.mem_map_of_mem (List.mem_of_getElem? hOld)
  have hHolders :
      (crowd.work place holder part submits use).holders.map
        Holder.client =
          crowd.holders.map Holder.client := by
    rcases List.getElem?_eq_some_iff.1 hOld with
      ⟨hPlace, rfl⟩
    refine List.map_set.trans ?_
    rw [hClient, ← List.map_set, List.set_getElem_self]
  have hClients :
      (crowd.work place holder part submits use).clients =
        crowd.clients :=
    congrArg (crowd.seekers.map Seeker.client ++ ·)
      hHolders
  refine ⟨?_, ?_, ?_, ?_⟩
  · rw [hClients]
    exact hRegistered.distinct
  · rw [hClients]
    exact hRegistered.joined
  · intro entry hEntry
    rcases List.mem_append.1 hEntry with hNew | hEarlier
    · rw [(hWorked.own entry hNew).client]
      exact hRegistered.joined _
        (List.mem_append_right _ hOldMem)
    · exact hRegistered.logged entry hEarlier
  · intro seeker hSeeker entry hEntry
    rcases List.mem_append.1 hEntry with hNew | hEarlier
    · rw [(hWorked.own entry hNew).client]
      have hApart := hRegistered.distinct
      rw [clients, List.nodup_append] at hApart
      exact (hApart.2.2 _ (List.mem_map_of_mem hSeeker) _
        hOldMem).symm
    · exact hRegistered.waiting seeker hSeeker entry
        hEarlier

/- Every move keeps the clients apart. -/
theorem step
    (hRegistered : crowd.Registered)
    {outcome : Option (Except Error Connection) × Crowd σ}
    (hStep : Step crowd outcome) :
    outcome.2.Registered := by
  cases hStep with
  | nothing => exact hRegistered
  | asked purpose demand _ =>
      rcases hRegistered.welcome purpose with
        ⟨hNext, hOutside⟩
      exact hNext.seek hOutside _
  | awaited inTime hSeeker =>
      rcases hRegistered.called hSeeker with
        ⟨hNext, hOutside⟩
      exact hNext.seek hOutside _
  | @handled place holder engagement handling hHolder =>
      let next : Holder := { holder with
        turn := holder.turn + 1 }
      have hClient : next.client = holder.client := rfl
      exact hRegistered.work hHolder hClient Activity.calls
        (handling.prepare_tracking engagement)
  | @advanced place holder errand hHolder =>
      exact hRegistered.work hHolder rfl (fun _ => [])
        errand.advance_tracking
  | @released place holder release hHolder =>
      have hSublist :
          ((crowd.holders.eraseIdx place).map
            Holder.client).Sublist
            (crowd.holders.map Holder.client) :=
        (List.eraseIdx_sublist crowd.holders place).map _
      have hClients := hSublist.append_left
        (crowd.seekers.map Seeker.client)
      refine ⟨hClients.nodup hRegistered.distinct, ?_,
        hRegistered.logged, hRegistered.waiting⟩
      intro client hClient
      exact hRegistered.joined client
        (hClients.subset hClient)
  | suspected target =>
      exact ⟨hRegistered.distinct, hRegistered.joined,
        hRegistered.logged, hRegistered.waiting⟩
  | closed =>
      exact ⟨hRegistered.distinct, hRegistered.joined,
        hRegistered.logged, hRegistered.waiting⟩

end Registered

end Crowd

end SqlAccess
