import SqlAccess.Proofs.Pool.Readiness
import SqlAccess.Proofs.Routing.Passage
import SqlAccess.Proofs.Transaction.Ownership

/-
  This file sets some clients beside a crowd and says what
  the others can do while these do nothing: the whole crowd
  stays lawful, nobody makes calls in the name of a client
  who has left, and nobody gets a connection that is relied
  on no longer.

  Key definitions include:
    * `Crowd.beside`
    * `Crowd.Stranger`
    * `Crowd.Discarded`
    * `Crowd.Meanwhile`

  Key theorems include:
    * `Crowd.Lawful.beside_turn`
    * `Crowd.turn_meanwhile`
-/

namespace SqlAccess

variable {σ : Type}

namespace Crowd

variable {crowd : Crowd σ} {limit : Nat}

------------------------------------------------------------
-- Clients Beside a Crowd
------------------------------------------------------------

/- A crowd with some more clients. -/
def beside
    (crowd : Crowd σ)
    (seekers : List Seeker)
    (holders : List Holder) : Crowd σ :=
  { crowd with
    seekers := seekers ++ crowd.seekers
    holders := holders ++ crowd.holders }

namespace Lawful

/- It does not matter in which order clients are listed. -/
theorem reordered
    (hLawful : crowd.Lawful limit)
    {seekers : List Seeker}
    {holders : List Holder}
    (hSeekers : seekers.Perm crowd.seekers)
    (hHolders : holders.Perm crowd.holders) :
    ({ crowd with seekers := seekers, holders := holders } :
      Crowd σ).Lawful limit := by
  rcases hLawful with
    ⟨hBalanced, hRegistered, hOwned, hInTurn⟩
  let next : Crowd σ :=
    { crowd with seekers := seekers, holders := holders }
  have hClients : next.clients.Perm crowd.clients :=
    (hSeekers.map Seeker.client).append
      (hHolders.map Holder.client)
  have hConns : next.conns.Perm crowd.conns :=
    (hHolders.map Holder.conn).append_left _
  refine ⟨?_, ⟨?_, ?_, hRegistered.logged, ?_⟩,
    ⟨?_, ?_, ?_, ?_, hOwned.known, hOwned.orderly,
      hOwned.complete⟩,
    ⟨hInTurn.made, ?_⟩⟩
  · exact hBalanced.reordered (.refl _)
      (hSeekers.map Seeker.waiter) (hHolders.map Holder.tag)
  · exact hClients.nodup_iff.2 hRegistered.distinct
  · intro client hClient
    exact hRegistered.joined client
      (hClients.subset hClient)
  · intro seeker hSeeker
    exact hRegistered.waiting seeker
      (hSeekers.subset hSeeker)
  · intro seeker hSeeker
    exact hOwned.aimed seeker (hSeekers.subset hSeeker)
  · intro holder hHolder
    exact hOwned.primary holder (hHolders.subset hHolder)
  · intro holder hHolder
    exact hOwned.rules holder (hHolders.subset hHolder)
  · intro conn hConn
    exact hOwned.inside conn (hConns.subset hConn)
  · intro holder hHolder
    exact hInTurn.left holder (hHolders.subset hHolder)

/- Time that goes by changes nothing for the clients. -/
theorem wait
    (hLawful : crowd.Lawful limit)
    (time : Nat) : (crowd.wait time).Lawful limit := by
  rcases hLawful with
    ⟨hBalanced, hRegistered, hOwned, hInTurn⟩
  refine ⟨?_,
    ⟨hRegistered.distinct, hRegistered.joined,
      hRegistered.logged, hRegistered.waiting⟩,
    ⟨hOwned.aimed, hOwned.primary, hOwned.rules,
      hOwned.inside, hOwned.known, hOwned.orderly,
      hOwned.complete⟩,
    ⟨hInTurn.made, hInTurn.left⟩⟩
  exact Database.Balanced.alike hBalanced rfl
    (.of_history_eq rfl rfl) rfl fun _ _ _ => ⟨rfl, rfl⟩

/- Moves keep the crowd lawful. -/
theorem play
    (hLawful : crowd.Lawful limit)
    (moves : List Move) : (play moves crowd).Lawful limit :=
  play_keeps (fun _ _ hKept => hKept.step) moves hLawful

/- Whatever the clients do, they stay lawful. -/
theorem pass
    (hLawful : crowd.Lawful limit)
    (turns : List Turn) : (crowd.pass turns).Lawful limit :=
  pass_keeps (fun _ _ hKept => hKept.step)
    (fun _ time hKept => hKept.wait time) turns hLawful

/- The others are found at places further on. -/
theorem getElem?_beside
    {α : Type}
    (some others : List α)
    (place : Nat) :
    (some ++ others)[some.length + place]? =
      others[place]? := by
  rw [List.getElem?_append_right (Nat.le_add_right _ _),
    Nat.add_sub_cancel_left]

section Beside

variable {seekers : List Seeker} {holders : List Holder}

/-
  It does not matter who else is there when one is served.
-/
theorem seek_beside
    {client : Client}
    {part :
      Act σ (Except Waiter (Except Error Connection))}
    (hLawful :
      ((crowd.beside seekers holders).seek client
        part).2.Lawful limit) :
    ((crowd.seek client part).2.beside seekers
      holders).Lawful
      limit := by
  have hDb : (crowd.beside seekers holders).db = crowd.db :=
    rfl
  unfold Crowd.seek at hLawful ⊢
  rw [hDb] at hLawful
  rcases hRun : part.run crowd.db with ⟨answer, db⟩
  rw [hRun] at hLawful
  cases answer with
  | error waiter =>
      exact hLawful.reordered List.perm_middle (.refl _)
  | ok result =>
      cases result with
      | error e => exact hLawful
      | ok conn =>
          exact hLawful.reordered (.refl _) List.perm_middle

/- Others use their connections at places further on. -/
theorem work_beside
    (place : Nat)
    (holder : Holder)
    (part : Part)
    (submits : Activity → List Call)
    (use : Use σ Activity) :
    (crowd.beside seekers holders).work
        (holders.length + place) holder part submits use =
      (crowd.work place holder part submits use).beside
        seekers
        holders := by
  rcases hRun : (use.run holder.conn).run crowd.db with
    ⟨⟨activity, used⟩, db⟩
  have hBeside :
      (use.run holder.conn).run
          (crowd.beside seekers holders).db =
        ((activity, used), db) :=
    hRun
  rw [work_eq part submits hRun,
    work_eq part submits hBeside]
  simp [Crowd.beside, List.set_append_right]

/- Others go on with whatever they do. -/
theorem beside_step
    (hLawful : (crowd.beside seekers holders).Lawful limit)
    {outcome : Option (Except Error Connection) × Crowd σ}
    (hStep : Step crowd outcome) :
    (outcome.2.beside seekers holders).Lawful limit := by
  have hSeekers :
      ∀ place, (crowd.beside seekers holders).seekers[
          seekers.length +
            place]? = crowd.seekers[place]? := by
    intro place
    exact getElem?_beside seekers crowd.seekers place
  have hHolders :
      ∀ place, (crowd.beside seekers holders).holders[
          holders.length +
            place]? = crowd.holders[place]? := by
    intro place
    exact getElem?_beside holders crowd.holders place
  cases hStep with
  | nothing => exact hLawful
  | asked purpose demand hDemand =>
      have hAsked :=
        hLawful.step (.asked purpose demand hDemand)
      exact seek_beside hAsked
  | @awaited place seeker inTime hSeeker =>
      rw [← hSeekers] at hSeeker
      have hAwaited :=
        hLawful.step (.awaited inTime hSeeker)
      have hErase :
          (crowd.beside seekers holders).seekers.eraseIdx
              (seekers.length + place) =
            seekers ++ crowd.seekers.eraseIdx place := by
        simp [Crowd.beside,
          List.eraseIdx_append_of_length_le]
      rw [hErase] at hAwaited
      exact seek_beside hAwaited
  | @handled place holder engagement handling hHolder
    hActivity
      hAllowed =>
      rw [← hHolders] at hHolder
      have hHandled :=
        hLawful.step (.handled hHolder hActivity hAllowed)
      rw [work_beside] at hHandled
      exact hHandled
  | @advanced place holder errand hHolder hActivity =>
      rw [← hHolders] at hHolder
      have hAdvanced :=
        hLawful.step (.advanced hHolder hActivity)
      rw [work_beside] at hAdvanced
      exact hAdvanced
  | @released place holder release hHolder hAnswered
    hRelease =>
      rw [← hHolders] at hHolder
      have hReleased :=
        hLawful.step (.released hHolder hAnswered hRelease)
      have hErase :
          (crowd.beside seekers holders).holders.eraseIdx
              (holders.length + place) =
            holders ++ crowd.holders.eraseIdx place := by
        simp [Crowd.beside,
          List.eraseIdx_append_of_length_le]
      rw [hErase] at hReleased
      exact hReleased
  | suspected target =>
      exact hLawful.step (.suspected target)
  | closed => exact hLawful.step .closed

/- Others who stand beside do not matter for a turn. -/
theorem beside_turn
    (hLawful : (crowd.beside seekers holders).Lawful limit)
    (next : Turn) :
    ((crowd.turn next).beside seekers holders).Lawful
      limit := by
  cases next with
  | move move =>
      exact hLawful.beside_step (crowd.step_cases move)
  | wait time => exact hLawful.wait time

end Beside

end Lawful

/- What is idle stays clear, whatever happens. -/
theorem Ready.turn
    (hReady : crowd.Ready)
    (next : Turn) : (crowd.turn next).Ready := by
  cases next with
  | move move => exact hReady.step move
  | wait time => exact ⟨hReady.idle, hReady.holders⟩

/- A crowd that is ready stays so. -/
theorem Ready.pass
    (hReady : crowd.Ready)
    (turns : List Turn) : (crowd.pass turns).Ready := by
  induction turns generalizing crowd with
  | nil => exact hReady
  | cons first rest ih => exact ih (hReady.turn first)

------------------------------------------------------------
-- Clients Who Have Left
------------------------------------------------------------

/- The calls that are made for a client. -/
def callsBy
    (client : Client)
    (log : List Entry) :
    List Entry :=
  log.filter fun entry => entry.client = client

/- A client who has come and is not among the others. -/
structure Stranger
    (client : Client)
    (crowd : Crowd σ) : Prop where
  joined : client.number < crowd.joined
  absent : client ∉ crowd.clients

/- The calls of others are not those of a stranger. -/
theorem callsBy_other
    {client : Client}
    {holder : Holder}
    {part : Part}
    {new log : List Entry}
    (hOwn : ∀ entry ∈ new, entry.IsBy holder part)
    (hOther : holder.client ≠ client) :
    callsBy client (new ++ log) = callsBy client log := by
  have hNone : callsBy client new = [] := by
    unfold callsBy
    rw [List.filter_eq_nil_iff]
    intro entry hEntry
    simp [(hOwn entry hEntry).client, hOther]
  unfold callsBy at hNone ⊢
  rw [List.filter_append, hNone]
  rfl

/- The clients stay the same when one uses a connection. -/
theorem clients_work
    {place : Nat}
    {old holder : Holder}
    (hOld : crowd.holders[place]? = some old)
    (hClient : holder.client = old.client)
    (part : Part)
    (submits : Activity → List Call)
    (use : Use σ Activity) :
    (crowd.work place holder part submits use).clients =
      crowd.clients := by
  rcases hRun : (use.run holder.conn).run crowd.db with
    ⟨⟨activity, used⟩, db⟩
  rw [work_eq part submits hRun]
  rcases List.getElem?_eq_some_iff.1 hOld with
    ⟨hPlace, rfl⟩
  unfold clients
  rw [List.map_set, hClient, ← List.map_set,
    List.set_getElem_self]

namespace Stranger

variable {client : Client}

/- Clients may leave, and others may come. -/
theorem of_subset
    (hStranger : Stranger client crowd)
    {after : Crowd σ}
    (hJoined : crowd.joined ≤ after.joined)
    (hClients : after.clients ⊆ crowd.clients) :
    Stranger client after :=
  ⟨Nat.lt_of_lt_of_le hStranger.joined hJoined,
    fun hClient => hStranger.absent (hClients hClient)⟩

/-
  Who looks for a connection is not the stranger, and makes
  no call.
-/
theorem seek
    (hStranger : Stranger client crowd)
    {other : Client}
    (hOther : client ≠ other)
    (part :
      Act σ (Except Waiter (Except Error Connection))) :
    Stranger client (crowd.seek other part).2 ∧
      (crowd.seek other part).2.log = crowd.log := by
  rcases hStranger with ⟨hJoined, hAbsent⟩
  have hNot := hAbsent
  unfold clients at hNot
  rw [List.mem_append, not_or] at hNot
  unfold Crowd.seek
  rcases part.run crowd.db with ⟨answer, db⟩
  cases answer with
  | error waiter =>
      refine ⟨⟨hJoined, ?_⟩, rfl⟩
      simp [clients, settle, hOther, hNot]
  | ok result =>
      cases result with
      | error e => exact ⟨⟨hJoined, hAbsent⟩, rfl⟩
      | ok conn =>
          refine ⟨⟨hJoined, ?_⟩, rfl⟩
          simp [clients, settle, hOther, hNot]

/- A holder who works is not the stranger. -/
theorem work
    (hStranger : Stranger client crowd)
    {place : Nat}
    {old holder : Holder}
    (hOld : crowd.holders[place]? = some old)
    (hClient : holder.client = old.client)
    {part : Part}
    (submits : Activity → List Call)
    {use : Use σ Activity}
    (hTracking : use.Tracking part) :
    let next := crowd.work place holder part submits use
    Stranger client next ∧
      callsBy client next.log =
        callsBy client crowd.log := by
  have hWorked :=
    holder.worked_of_tracking hTracking crowd.db
  have hMember : holder.client ∈ crowd.clients := by
    rw [hClient]
    exact List.mem_append_right _
      (List.mem_map_of_mem (List.mem_of_getElem? hOld))
  have hOther : holder.client ≠ client := by
    rintro rfl
    exact hStranger.absent hMember
  refine ⟨hStranger.of_subset (Nat.le_refl _) ?_,
    callsBy_other hWorked.own hOther⟩
  rw [clients_work hOld hClient]
  exact List.Subset.refl _

/-
  Nobody makes calls in the name of a client who has left.
-/
theorem step
    (hStranger : Stranger client crowd)
    {outcome : Option (Except Error Connection) × Crowd σ}
    (hStep : Step crowd outcome) :
    Stranger client outcome.2 ∧
      callsBy client outcome.2.log =
        callsBy client crowd.log := by
  have hSame : crowd.clients ⊆ crowd.clients :=
    List.Subset.refl _
  cases hStep with
  | nothing => exact ⟨hStranger, rfl⟩
  | asked purpose demand _ =>
      have hNext :
          Stranger client
            { crowd with joined := crowd.joined + 1 } :=
        hStranger.of_subset (Nat.le_succ _) hSame
      have hOther :
          client ≠ ⟨crowd.joined, purpose⟩ := by
        rintro rfl
        exact Nat.lt_irrefl _ hStranger.joined
      rcases hNext.seek hOther (Waiter.begin demand) with
        ⟨hAfter, hLog⟩
      exact ⟨hAfter, congrArg (callsBy client) hLog⟩
  | @awaited place seeker inTime hSeeker =>
      have hOther : client ≠ seeker.client := by
        rintro rfl
        exact hStranger.absent (List.mem_append_left _
          (List.mem_map_of_mem
            (List.mem_of_getElem? hSeeker)))
      have hSublist :=
        ((List.eraseIdx_sublist crowd.seekers place).map
          Seeker.client).append_right
            (crowd.holders.map Holder.client)
      have hNext :
          Stranger client
            { crowd with
              seekers := crowd.seekers.eraseIdx place } :=
        hStranger.of_subset (Nat.le_refl _) hSublist.subset
      rcases hNext.seek hOther
        (seeker.waiter.proceed inTime) with
        ⟨hAfter, hLog⟩
      exact ⟨hAfter, congrArg (callsBy client) hLog⟩
  | @handled place holder engagement handling hHolder =>
      let next : Holder := { holder with
        turn := holder.turn + 1 }
      have hClient : next.client = holder.client := rfl
      exact hStranger.work hHolder hClient Activity.calls
        (handling.prepare_tracking engagement)
  | @advanced place holder errand hHolder =>
      exact hStranger.work hHolder rfl (fun _ => [])
        errand.advance_tracking
  | @released place holder release =>
      have hSublist :=
        ((List.eraseIdx_sublist crowd.holders place).map
          Holder.client).append_left
            (crowd.seekers.map Seeker.client)
      exact ⟨hStranger.of_subset (Nat.le_refl _)
        hSublist.subset, rfl⟩
  | suspected target =>
      exact ⟨hStranger.of_subset (Nat.le_refl _) hSame,
        rfl⟩
  | closed =>
      exact ⟨hStranger.of_subset (Nat.le_refl _) hSame,
        rfl⟩

end Stranger

------------------------------------------------------------
-- Connections That Are Relied On No Longer
------------------------------------------------------------

/-
  A connection that nobody has, and that is not handed out
  again: if it is idle, it may not be used.
-/
structure Discarded
    (id : Nat)
    (crowd : Crowd σ) : Prop where
  known : id ≤ crowd.db.opened
  idle :
    ∀ conn ∈ crowd.db.idle, conn.id = id →
      conn.isUsable = false
  held : ∀ holder ∈ crowd.holders, holder.conn.id ≠ id

namespace Discarded

variable {id : Nat}

/-
  A connection that is discarded is not opened again, and
  not handed out if it may not be used.
-/
theorem supplied
    (hDiscarded : Discarded id crowd)
    {db : Database σ}
    {given taken : List Connection}
    (hSupplied : crowd.db.Supplied db given taken)
    (hGiven :
      ∀ conn ∈ given,
        conn.id = id → conn.isUsable = false) :
    id ≤ db.opened ∧
      ∀ conn ∈ taken ++ db.idle, conn.id = id →
        conn.isUsable = false := by
  refine
    ⟨Nat.le_trans hDiscarded.known hSupplied.opened, ?_⟩
  intro conn hConn hId
  rcases hSupplied.origin with
    ⟨fresh, -, hFresh, hOrigin⟩
  have hSource := hOrigin.subset hConn
  rw [List.mem_append, List.mem_append] at hSource
  rcases hSource with hNew | hGave | hIdle
  · have hLow := (hFresh conn hNew).1
    have hKnown := hDiscarded.known
    rw [Connection.id] at hId
    omega
  · exact hGiven conn hGave hId
  · exact hDiscarded.idle conn hIdle hId

/- A checkout hands out another connection. -/
theorem handed
    (hDiscarded : Discarded id crowd)
    {db : Database σ}
    {taken : List Connection}
    (hSupplied : crowd.db.Supplied db [] taken) :
    ∀ conn ∈ taken, conn.id ≠ id := by
  intro conn hConn hId
  have hUsable :=
    hSupplied.usable (List.forall_mem_nil _) conn hConn
  have hNot :=
    (hDiscarded.supplied hSupplied
      (List.forall_mem_nil _)).2 conn
      (List.mem_append_left _ hConn) hId
  rw [hUsable] at hNot
  cases hNot

/-
  What the clients have comes from the pools, if it is new.
-/
theorem exchanged
    (hDiscarded : Discarded id crowd)
    {after : Crowd σ}
    {given taken : List Connection}
    (hSupplied : crowd.db.Supplied after.db given taken)
    (hGiven :
      ∀ conn ∈ given,
        conn.id = id → conn.isUsable = false)
    (hHolders :
      ∀ holder ∈ after.holders, holder.conn.id ≠ id) :
    Discarded id after := by
  rcases hDiscarded.supplied hSupplied hGiven with
    ⟨hKnown, hIdle⟩
  refine ⟨hKnown, ?_, hHolders⟩
  intro conn hConn
  exact hIdle conn (List.mem_append_right _ hConn)

/-
  A connection that is discarded is handed out to nobody.
-/
theorem seek
    (hDiscarded : Discarded id crowd)
    (client : Client)
    {part :
      Act σ (Except Waiter (Except Error Connection))}
    (hSupplies :
      Act.Supplies part crowd.db [] Waiter.handed) :
    Discarded id (crowd.seek client part).2 := by
  have hSupplied : crowd.db.Supplied _ [] _ := hSupplies
  have hHanded := hDiscarded.handed hSupplied
  unfold Crowd.seek
  rcases hRun : part.run crowd.db with ⟨answer, db⟩
  rw [hRun] at hSupplied hHanded
  have hNone :
      ∀ conn ∈ ([] : List Connection),
        conn.id = id → conn.isUsable = false :=
    List.forall_mem_nil _
  cases answer with
  | error waiter =>
      exact hDiscarded.exchanged hSupplied hNone
        hDiscarded.held
  | ok result =>
      cases result with
      | error e =>
          exact hDiscarded.exchanged hSupplied hNone
            hDiscarded.held
      | ok conn =>
          refine hDiscarded.exchanged hSupplied hNone ?_
          intro holder hHolder
          rcases List.mem_cons.1 hHolder with rfl | hOther
          · exact hHanded conn List.mem_cons_self
          · exact hDiscarded.held holder hOther

/- Nobody works on a connection that is discarded. -/
theorem work
    (hDiscarded : Discarded id crowd)
    {place : Nat}
    {old holder : Holder}
    (hOld : crowd.holders[place]? = some old)
    (hConn : holder.conn = old.conn)
    {part : Part}
    (submits : Activity → List Call)
    {use : Use σ Activity}
    (hTracking : use.Tracking part) :
    Discarded id
      (crowd.work place holder part submits use) := by
  have hWorked :=
    holder.worked_of_tracking hTracking crowd.db
  rcases hRun : (use.run holder.conn).run crowd.db with
    ⟨⟨activity, used⟩, db⟩
  rw [hRun] at hWorked
  rw [work_eq part submits hRun]
  refine ⟨?_, ?_, ?_⟩
  · exact Nat.le_trans hDiscarded.known
      (Nat.le_of_eq hWorked.apart.opened.symm)
  · intro conn hIdle
    rw [Database.idle_congr hWorked.apart.pools] at hIdle
    exact hDiscarded.idle conn hIdle
  · intro other hOther
    rcases List.mem_or_eq_of_mem_set hOther with
      hStays | rfl
    · exact hDiscarded.held other hStays
    · have hId : used.id = old.conn.id := by
        rw [← hConn]
        exact congrArg Link.id hWorked.link
      change used.id ≠ id
      rw [hId]
      exact hDiscarded.held old (List.mem_of_getElem? hOld)

/- Nobody gets a connection that was discarded. -/
theorem step
    (hDiscarded : Discarded id crowd)
    {outcome : Option (Except Error Connection) × Crowd σ}
    (hStep : Step crowd outcome) :
    Discarded id outcome.2 := by
  have hNone :
      ∀ conn ∈ ([] : List Connection),
        conn.id = id → conn.isUsable = false :=
    List.forall_mem_nil _
  cases hStep with
  | nothing => exact hDiscarded
  | asked purpose demand _ =>
      have hNext :
          Discarded id
            { crowd with joined := crowd.joined + 1 } :=
        ⟨hDiscarded.known, hDiscarded.idle,
          hDiscarded.held⟩
      exact hNext.seek _ (Waiter.begin_supplies _ demand)
  | @awaited place seeker inTime hSeeker =>
      have hNext :
          Discarded id
            { crowd with
              seekers := crowd.seekers.eraseIdx place } :=
        ⟨hDiscarded.known, hDiscarded.idle,
          hDiscarded.held⟩
      exact hNext.seek _
        (Waiter.proceed_supplies _ seeker.waiter inTime)
  | @handled place holder engagement handling hHolder =>
      let next : Holder := { holder with
        turn := holder.turn + 1 }
      have hConn : next.conn = holder.conn := rfl
      exact hDiscarded.work hHolder hConn Activity.calls
        (handling.prepare_tracking engagement)
  | @advanced place holder errand hHolder =>
      exact hDiscarded.work hHolder rfl (fun _ => [])
        errand.advance_tracking
  | @released place holder release hHolder hAnswered
    hRelease =>
      have hSupplied :
          crowd.db.Supplied
            ((release holder.conn).run crowd.db).2
            (Act.returned holder.conn) [] := by
        rcases hRelease with rfl | rfl
        · exact Act.checkin_supplies holder.conn crowd.db
        · exact Act.release_supplies holder.conn crowd.db
      refine hDiscarded.exchanged hSupplied ?_ ?_
      · intro conn hConn
        rw [Act.returned, hAnswered] at hConn
        rw [List.mem_singleton.1 hConn]
        intro hId
        exact absurd hId (hDiscarded.held holder
          (List.mem_of_getElem? hHolder))
      · intro other hOther
        exact hDiscarded.held other
          ((List.eraseIdx_sublist _ _).subset hOther)
  | suspected target =>
      exact hDiscarded.exchanged
        (Act.markReplicaDown_aside target crowd.db []) hNone
        hDiscarded.held
  | closed =>
      exact hDiscarded.exchanged
        (Act.close_aside crowd.db []) hNone hDiscarded.held

end Discarded

------------------------------------------------------------
-- What Happens Meanwhile
------------------------------------------------------------

/-
  What has become of a crowd: time has gone on, nobody has
  got what was discarded, and clients who have left are
  strangers still, in whose name no calls were made.  This
  says nothing about the calls of some clients, or about
  some connections.
-/
structure Meanwhile
    (mine : List Client)
    (own : List Nat)
    (before after : Crowd σ) : Prop where
  ages : ∀ index, Ages index before after
  discards :
    ∀ id ∉ own, Discarded id before →
      Discarded id after
  strangers :
    ∀ client, Stranger client before →
      Stranger client after
  silent :
    ∀ client ∉ mine, Stranger client before →
      callsBy client after.log = callsBy client before.log

namespace Meanwhile

variable {before after : Crowd σ}
variable {mine more : List Client} {own other : List Nat}

theorem refl (crowd : Crowd σ) :
    Meanwhile mine own crowd crowd :=
  ⟨fun _ => .refl crowd, fun _ _ => id, fun _ => id,
    fun _ _ _ => rfl⟩

/- Less may be said. -/
theorem mono
    (hMeanwhile : Meanwhile mine own before after)
    (hMine : mine ⊆ more)
    (hOwn : own ⊆ other) :
    Meanwhile more other before after :=
  ⟨hMeanwhile.ages,
    fun id hId => hMeanwhile.discards id fun hOld =>
      hId (hOwn hOld),
    hMeanwhile.strangers,
    fun client hClient =>
      hMeanwhile.silent client fun hOld =>
      hClient (hMine hOld)⟩

end Meanwhile

/- This is what becomes of a crowd with every turn. -/
theorem turn_meanwhile
    (crowd : Crowd σ)
    (next : Turn) :
    Meanwhile [] [] crowd (crowd.turn next) := by
  cases next with
  | move move =>
      have hStep := crowd.step_cases move
      exact ⟨fun index => step_ages hStep,
        fun id _ hDiscarded => hDiscarded.step hStep,
        fun client hStranger => (hStranger.step hStep).1,
        fun client _ hStranger =>
          (hStranger.step hStep).2⟩
  | wait time =>
      exact ⟨fun index => crowd.wait_ages time,
        fun id _ hDiscarded =>
          ⟨hDiscarded.known, hDiscarded.idle,
            hDiscarded.held⟩,
        fun client hStranger =>
          ⟨hStranger.joined, hStranger.absent⟩,
        fun client _ _ => rfl⟩

end Crowd

end SqlAccess
