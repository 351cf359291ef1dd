import SqlAccess.Proofs.Pool.Occupancy
import SqlAccess.Proofs.Pool.Registry

/-
  This file shows that a transaction owns its connection,
  however any number of clients get in each other's way.
  All its calls are made on one connection to the primary,
  in the order in which they were submitted, and nobody else
  makes a call there before the transaction has ended.

  Key definitions include:
    * `Crowd.Owned`
    * `Crowd.InTurn`
    * `Crowd.Lawful`

  Key theorems include:
    * `Crowd.Owned.step`
    * `Crowd.InTurn.step`
    * `Crowd.Lawful.step`
    * `Crowd.transaction_owns_connection`
-/

namespace SqlAccess

variable {σ : Type}

namespace Crowd

variable {crowd : Crowd σ}

------------------------------------------------------------
-- Uses of a Connection
------------------------------------------------------------

/- Other clients, and the pools, have other connections. -/
theorem others_apart
    (hRegistered : crowd.Registered)
    (hDistinct : crowd.ids.Nodup)
    {place : Nat}
    {old : Holder}
    (hOld : crowd.holders[place]? = some old) :
    (∀ other ∈ crowd.holders.eraseIdx place,
      old.client ≠ other.client ∧
        old.conn.id ≠ other.conn.id) ∧
      ∀ conn ∈ crowd.db.idle,
        old.conn.id ≠ conn.id := by
  have hPerm := perm_eraseIdx hOld
  have hClients := hRegistered.distinct
  rw [clients, List.nodup_append,
    (hPerm.map Holder.client).nodup_iff, List.map_cons,
    List.nodup_cons] at hClients
  rw [ids, List.nodup_append,
    (hPerm.map fun holder => holder.conn.id).nodup_iff,
    List.map_cons, List.nodup_cons] at hDistinct
  refine ⟨?_, ?_⟩
  · intro other hOther
    refine ⟨?_, ?_⟩
    · intro hSame
      apply hClients.2.1.1
      rw [hSame]
      exact List.mem_map_of_mem hOther
    · intro hSame
      apply hDistinct.2.1.1
      rw [hSame]
      exact List.mem_map_of_mem hOther
  · intro conn hConn hSame
    exact hDistinct.2.2 _ (List.mem_map_of_mem hConn) _
      (List.mem_map_of_mem (List.mem_of_getElem? hOld))
      hSame.symm

/- A client whose connection was used, or any other one. -/
theorem mem_of_mem_set
    {place : Nat}
    {old next other : Holder}
    (hOld : crowd.holders[place]? = some old)
    (hOther : other ∈ crowd.holders.set place next) :
    other = next ∨
      other ∈ crowd.holders.eraseIdx place := by
  rcases List.getElem?_eq_some_iff.1 hOld with
    ⟨hPlace, -⟩
  exact List.mem_cons.1
    ((List.set_perm_cons_eraseIdx hPlace next).subset
      hOther)

/- What a crowd is after a connection was used. -/
theorem work_eq
    {place : Nat}
    {holder : Holder}
    (part : Part)
    (submits : Activity → List Call)
    {use : Use σ Activity}
    {activity : Activity}
    {used : Connection}
    {db : Database σ}
    (hRun :
      (use.run holder.conn).run crowd.db =
        ((activity, used), db)) :
    crowd.work place holder part submits use =
      { crowd with
        db := db
        holders := crowd.holders.set place
          { holder with conn := used, activity := activity }
        log := holder.entries part crowd.db db ++ crowd.log
        submitted :=
          (submits activity).reverse.map
            (holder.client, ·) ++
            crowd.submitted } := by
  unfold Crowd.work
  rw [hRun]

------------------------------------------------------------
-- Connections
------------------------------------------------------------

/- All connections that are idle or that a client has. -/
def conns (crowd : Crowd σ) : List Connection :=
  crowd.db.idle ++ crowd.holders.map Holder.conn

/-
  Transactions go to the primary, who has a connection may
  rely on what was said about it, a connection knows whether
  a transaction is open on it, and the calls so far have
  kept to the rules.  All calls of the database were noted.
-/
structure Owned (crowd : Crowd σ) : Prop where
  aimed :
    ∀ seeker ∈ crowd.seekers,
      seeker.client.purpose = .transaction →
        seeker.waiter.target = .primary ∧
          seeker.waiter.mayFallBack = false
  primary :
    ∀ holder ∈ crowd.holders,
      holder.client.purpose = .transaction →
        holder.conn.target = .primary
  rules : ∀ holder ∈ crowd.holders,
    Rules holder crowd.log
  inside :
    ∀ conn ∈ crowd.conns, ∀ client,
      OpenOn conn.id client crowd.log →
        conn.inTransaction = true
  known : ∀ entry ∈ crowd.log,
    entry.id ≤ crowd.db.opened
  orderly : Orderly crowd.log
  complete :
    ∀ id, crowd.db.callsOn id = callsIn crowd.log id

namespace Owned

variable {limit : Nat}

/- In a new crowd nobody owns a connection. -/
theorem new
    (config : Config)
    (backend : Backend σ)
    (memory : σ) :
    (Crowd.new config backend memory).Owned := by
  refine ⟨?_, ?_, ?_, ?_, ?_, trivial, fun _ => rfl⟩
  · intro _ hSeeker
    cases hSeeker
  · intro _ hHolder
    cases hHolder
  · intro _ hHolder
    cases hHolder
  · intro _ _ _ hOpen
    cases hOpen
  · intro _ hEntry
    cases hEntry

/-
  Connections that are handed out or kept are known, and
  inside where something was opened on them.  No calls were
  made yet on a new one.
-/
theorem inside_supplied
    (hOwned : crowd.Owned)
    {db : Database σ}
    {given taken : List Connection}
    (hSupplied : crowd.db.Supplied db given taken)
    (hGiven : given ⊆ crowd.conns) :
    ∀ conn ∈ taken ++ db.idle, ∀ client,
      OpenOn conn.id client crowd.log →
        conn.inTransaction = true := by
  intro conn hConn client hOpen
  rcases hSupplied.origin with
    ⟨fresh, -, hFresh, hOrigin⟩
  have hSource := hOrigin.subset hConn
  rw [List.mem_append, List.mem_append] at hSource
  rcases hSource with hNew | hGave | hIdle
  · rcases hOpen.exists_entry with ⟨entry, hEntry, hId⟩
    have hLow := (hFresh conn hNew).1
    have hHigh := hOwned.known entry hEntry
    rw [hId, Connection.id] at hHigh
    omega
  · exact hOwned.inside conn (hGiven hGave) client hOpen
  · exact hOwned.inside conn (List.mem_append_left _ hIdle)
      client hOpen

/-
  The calls stay the same, and connections go from clients
  to the pools or the other way.
-/
theorem exchanged
    {after : Crowd σ}
    {given taken : List Connection}
    (hOwned : crowd.Owned)
    (hLog : after.log = crowd.log)
    (hSupplied : crowd.db.Supplied after.db given taken)
    (hGiven : given ⊆ crowd.conns)
    (hSeekers :
      ∀ seeker ∈ after.seekers,
        seeker ∈ crowd.seekers ∨
        (seeker.client.purpose = .transaction →
          seeker.waiter.target = .primary ∧
            seeker.waiter.mayFallBack = false))
    (hHolders :
      ∀ holder ∈ after.holders,
        holder ∈ crowd.holders ∨
        holder.conn ∈ taken ∧
          (holder.client.purpose = .transaction →
            holder.conn.target = .primary) ∧
          Rules holder crowd.log) :
    after.Owned := by
  have hInside := hOwned.inside_supplied hSupplied hGiven
  refine ⟨?_, ?_, ?_, ?_, ?_, ?_, ?_⟩
  · intro seeker hSeeker
    exact (hSeekers seeker hSeeker).elim
      (hOwned.aimed seeker) id
  · intro holder hHolder
    exact (hHolders holder hHolder).elim
      (hOwned.primary holder) fun hNew => hNew.2.1
  · rw [hLog]
    intro holder hHolder
    exact (hHolders holder hHolder).elim
      (hOwned.rules holder) fun hNew => hNew.2.2
  · rw [hLog]
    intro conn hConn
    rcases List.mem_append.1 hConn with hIdle | hHeld
    · exact hInside conn (List.mem_append_right _ hIdle)
    · rcases List.mem_map.1 hHeld with
        ⟨holder, hHolder, rfl⟩
      rcases hHolders holder hHolder with hOld | hNew
      · exact hOwned.inside holder.conn
          (List.mem_append_right _
            (List.mem_map_of_mem hOld))
      · exact hInside holder.conn
          (List.mem_append_left _ hNew.1)
  · rw [hLog]
    intro entry hEntry
    exact Nat.le_trans (hOwned.known entry hEntry)
      hSupplied.opened
  · rw [hLog]
    exact hOwned.orderly
  · intro id
    rw [(hSupplied.quiet id).callsOn_eq, List.append_nil,
      hLog]
    exact hOwned.complete id

/-
  Where a connection may be used, no transaction is open.
-/
theorem rules_of_usable
    {client : Client}
    {conn : Connection}
    (hOutside : Outside client crowd)
    (hInside :
      ∀ other, OpenOn conn.id other crowd.log →
        conn.inTransaction = true)
    (hUsable : conn.isUsable = true)
    (turn : Nat)
    (activity : Activity) :
    Rules ⟨client, turn, conn, activity⟩ crowd.log := by
  refine ⟨?_, ?_, ?_⟩
  · intro other hOpen
    have hBusy := hInside other hOpen
    rw [Connection.isUsable, hBusy] at hUsable
    simp at hUsable
  · intro entry hEntry hOwn
    exact absurd hOwn (hOutside.silent entry hEntry)
  · intro entry hEntry hOwn
    exact absurd hOwn (hOutside.silent entry hEntry)

/-
  A part of a checkout hands out what nobody is inside of.
-/
theorem seek
    (hOwned : crowd.Owned)
    {client : Client}
    (hOutside : Outside client crowd)
    {part :
      Act σ (Except Waiter (Except Error Connection))}
    (hSupplies :
      Act.Supplies part crowd.db [] Waiter.handed)
    (hStays :
      client.purpose = .transaction →
        Waiter.StaysAt .primary false
          (part.run crowd.db).1) :
    (crowd.seek client part).2.Owned := by
  have hSupplied : crowd.db.Supplied _ [] _ := hSupplies
  have hUsable := hSupplied.usable nofun
  have hInside := hOwned.inside_supplied hSupplied nofun
  unfold Crowd.seek
  rcases hRun : part.run crowd.db with ⟨answer, db⟩
  rw [hRun] at hSupplied hUsable hInside hStays
  cases answer with
  | error waiter =>
      refine hOwned.exchanged rfl hSupplied nofun ?_ ?_
      · intro seeker hSeeker
        rcases List.mem_cons.1 hSeeker with rfl | hOther
        · right
          intro hTransaction
          rcases (hStays hTransaction).1 waiter rfl with
            ⟨hPlace | ⟨hFalls, -⟩, hMay⟩
          · refine ⟨hPlace, ?_⟩
            cases hFallBack : waiter.mayFallBack with
            | false => rfl
            | true => cases hMay hFallBack
          · cases hFalls
        · exact .inl hOther
      · intro holder hHolder
        exact .inl hHolder
  | ok result =>
      cases result with
      | error e =>
          exact hOwned.exchanged rfl hSupplied nofun
            (fun _ => .inl) fun _ => .inl
      | ok conn =>
          refine hOwned.exchanged rfl hSupplied nofun
            (fun _ => .inl) ?_
          intro holder hHolder
          rcases List.mem_cons.1 hHolder with rfl | hOther
          · right
            refine ⟨List.mem_cons_self, ?_, ?_⟩
            · intro hTransaction
              rcases (hStays hTransaction).2 conn
                  List.mem_cons_self with
                    hPlace | ⟨hFalls, -⟩
              · exact hPlace
              · cases hFalls
            · apply rules_of_usable hOutside
              · exact hInside conn List.mem_cons_self
              · exact hUsable conn List.mem_cons_self
          · exact .inl hOther

/-
  Each connection knows whether a transaction is open on it
  after one of them was used.
-/
theorem inside_worked
    (hOwned : crowd.Owned)
    (hRegistered : crowd.Registered)
    (hDistinct : crowd.ids.Nodup)
    {place : Nat}
    {old holder next : Holder}
    (hOld : crowd.holders[place]? = some old)
    (hConn : holder.conn = old.conn)
    {part : Part}
    {db : Database σ}
    (hWorked : holder.Worked part crowd.db db next.conn) :
    ∀ conn ∈ db.idle ++
        (crowd.holders.set place next).map Holder.conn,
      ∀ client,
        OpenOn conn.id client
            (holder.entries part crowd.db db ++
              crowd.log) →
          conn.inTransaction = true := by
  rcases others_apart hRegistered hDistinct hOld with
    ⟨hOthers, hIdle⟩
  rw [← hConn] at hOthers hIdle
  intro conn hMem client hOpen
  have hElsewhere :
      conn ∈ crowd.conns →
        holder.conn.id ≠ conn.id →
        conn.inTransaction = true := by
    intro hConns hApart
    exact hOwned.inside conn hConns client
      (hOpen.of_append_other
        (fun entry hEntry => (hWorked.own entry hEntry).id)
        hApart)
  rcases List.mem_append.1 hMem with hThere | hHeld
  · rw [Database.idle_congr hWorked.apart.pools] at hThere
    exact hElsewhere (List.mem_append_left _ hThere)
      (hIdle conn hThere)
  · rcases List.mem_map.1 hHeld with
      ⟨other, hOther, rfl⟩
    rcases mem_of_mem_set hOld hOther with rfl | hElse
    · have hId : other.conn.id = holder.conn.id :=
        congrArg Link.id hWorked.link
      rw [hId] at hOpen
      refine hWorked.inside ?_ hOpen
      rw [hConn]
      exact hOwned.inside old.conn
        (List.mem_append_right _
          (List.mem_map_of_mem (List.mem_of_getElem? hOld)))
        client
    · have hMember :=
        (List.eraseIdx_sublist _ _).subset hElse
      exact hElsewhere
        (List.mem_append_right _
          (List.mem_map_of_mem hMember))
        (hOthers other hElse).2

/- A client makes further calls on its connection. -/
theorem work
    (hOwned : crowd.Owned)
    (hRegistered : crowd.Registered)
    (hBalanced : crowd.Balanced limit)
    {place : Nat}
    {old holder : Holder}
    (hOld : crowd.holders[place]? = some old)
    (hClient : holder.client = old.client)
    (hConn : holder.conn = old.conn)
    {part : Part}
    (submits : Activity → List Call)
    {use : Use σ Activity}
    (hTracking : use.Tracking part) :
    (crowd.work place holder part submits use).Owned := by
  have hWorked :=
    holder.worked_of_tracking hTracking crowd.db
  have hOldMem : old ∈ crowd.holders :=
    List.mem_of_getElem? hOld
  have hDistinct := hBalanced.inOrder.distinct
  rcases others_apart hRegistered hDistinct hOld with
    ⟨hOthers, -⟩
  rcases hRun : (use.run holder.conn).run crowd.db with
    ⟨⟨activity, used⟩, db⟩
  rw [hRun] at hWorked
  let next : Holder :=
    { holder with conn := used, activity := activity }
  have hNext : holder.Worked part crowd.db db next.conn :=
    hWorked
  have hPrimary :
      holder.client.purpose = .transaction →
        holder.conn.target = .primary := by
    rw [hClient, hConn]
    exact hOwned.primary old hOldMem
  have hRules : Rules holder crowd.log :=
    (hOwned.rules old hOldMem).congr hClient
      (congrArg Connection.link hConn)
      (congrArg Connection.target hConn)
  rcases hOwned.orderly.extended hRules hPrimary
    hWorked.own with
    ⟨hOrderly, hLast⟩
  rw [work_eq part submits hRun]
  refine ⟨hOwned.aimed, ?_, ?_,
    hOwned.inside_worked hRegistered hDistinct hOld hConn
      hNext,
    ?_, hOrderly,
    fun id => hWorked.callsIn_eq (hOwned.complete id)⟩
  · intro other hOther
    rcases mem_of_mem_set hOld hOther with rfl | hElse
    · intro hTransaction
      exact hWorked.tracks.target.trans
        (hPrimary hTransaction)
    · exact hOwned.primary other
        ((List.eraseIdx_sublist _ _).subset hElse)
  · intro other hOther
    rcases mem_of_mem_set hOld hOther with rfl | hElse
    · exact hLast.congr rfl hWorked.link
        hWorked.tracks.target
    · rcases hOthers other hElse with ⟨hNot, hApart⟩
      have hOther :=
        (List.eraseIdx_sublist _ _).subset hElse
      rw [← hClient] at hNot
      rw [← hConn] at hApart
      exact (hOwned.rules other hOther).extended_other
        hWorked.own hNot hApart
  · intro entry hEntry
    have hOpened : db.opened = crowd.db.opened :=
      hWorked.apart.opened
    change entry.id ≤ db.opened
    rw [hOpened]
    rcases List.mem_append.1 hEntry with hNew | hEarlier
    · rw [(hWorked.own entry hNew).id, hConn]
      apply hBalanced.id_le
      rw [ids_eq]
      exact List.mem_append_right _
        (List.mem_map_of_mem hOldMem)
    · exact hOwned.known entry hEarlier

/- Every move keeps connections with their owners. -/
theorem step
    (hOwned : crowd.Owned)
    (hRegistered : crowd.Registered)
    (hBalanced : crowd.Balanced limit)
    {outcome : Option (Except Error Connection) × Crowd σ}
    (hStep : Step crowd outcome) :
    outcome.2.Owned := by
  have hAside :
      ∀ db, crowd.db.Supplied db [] [] →
        ({ crowd with db := db } : Crowd σ).Owned := by
    intro db hSupplied
    exact hOwned.exchanged rfl hSupplied nofun
      (fun _ => .inl)
      fun _ => .inl
  cases hStep with
  | nothing => exact hOwned
  | asked purpose demand hDemand =>
      rcases hRegistered.welcome purpose with
        ⟨-, hOutside⟩
      have hNext :
          ({ crowd with joined := crowd.joined + 1 } :
            Crowd σ).Owned :=
        ⟨hOwned.aimed, hOwned.primary, hOwned.rules,
          hOwned.inside, hOwned.known, hOwned.orderly,
          hOwned.complete⟩
      apply hNext.seek hOutside
      · exact Waiter.begin_supplies crowd.db demand
      · intro hTransaction
        exact
          (Waiter.begin_accounts demand crowd.share crowd.db
          hBalanced).2 (hDemand hTransaction)
  | @awaited place seeker inTime hSeeker =>
      rcases hRegistered.called hSeeker with
        ⟨-, hOutside⟩
      have hSublist :=
        List.eraseIdx_sublist crowd.seekers place
      have hNext :
          ({ crowd with
            seekers := crowd.seekers.eraseIdx place } :
              Crowd σ).Owned :=
        ⟨fun seeker hMem =>
            hOwned.aimed seeker (hSublist.subset hMem),
          hOwned.primary, hOwned.rules, hOwned.inside,
          hOwned.known, hOwned.orderly, hOwned.complete⟩
      apply hNext.seek hOutside
      · exact Waiter.proceed_supplies crowd.db
          seeker.waiter inTime
      · intro hTransaction
        have hProceed :=
          Waiter.proceed_accounts seeker.waiter inTime _
            crowd.db (hBalanced.called hSeeker)
        rcases hOwned.aimed seeker
            (List.mem_of_getElem? hSeeker) hTransaction with
          ⟨hPlace, hStay⟩
        rw [hPlace, hStay] at hProceed
        exact hProceed.2
  | @handled place holder engagement handling hHolder =>
      let next : Holder := { holder with
        turn := holder.turn + 1 }
      have hClient : next.client = holder.client := rfl
      exact hOwned.work hRegistered hBalanced hHolder
        hClient rfl Activity.calls
          (handling.prepare_tracking engagement)
  | @advanced place holder errand hHolder =>
      exact hOwned.work hRegistered hBalanced hHolder
        rfl rfl
        (fun _ => []) errand.advance_tracking
  | @released place holder release hHolder hAnswered
    hRelease =>
      have hSupplied :
          crowd.db.Supplied
            ((release holder.conn).run crowd.db).2
            (Act.returned holder.conn) [] := by
        rcases hRelease with rfl | rfl
        · exact Act.checkin_supplies holder.conn crowd.db
        · exact Act.release_supplies holder.conn crowd.db
      refine hOwned.exchanged rfl hSupplied ?_
        (fun _ => .inl) ?_
      · intro conn hConn
        rw [Act.returned, hAnswered] at hConn
        rw [List.mem_singleton.1 hConn]
        exact List.mem_append_right _
          (List.mem_map_of_mem
            (List.mem_of_getElem? hHolder))
      · intro other hOther
        exact .inl
          ((List.eraseIdx_sublist _ _).subset hOther)
  | suspected target =>
      exact hAside _
        (Act.markReplicaDown_aside target crowd.db [])
  | closed => exact hAside _ (Act.close_aside crowd.db [])

end Owned

------------------------------------------------------------
-- Calls in Turn
------------------------------------------------------------

/-
  The calls of a transaction are made in the order in which
  they were submitted, and those that are still to be made
  come after all that were made.
-/
structure InTurn (crowd : Crowd σ) : Prop where
  made :
    ∀ client : Client, client.purpose = .transaction →
      (madeBy client crowd.log).Sublist
        (submittedBy client crowd.submitted)
  left :
    ∀ holder ∈ crowd.holders,
      holder.client.purpose = .transaction →
        ∃ earlier,
          submittedBy holder.client crowd.submitted =
              holder.activity.calls.reverse ++ earlier ∧
            (madeBy holder.client crowd.log).Sublist earlier

namespace InTurn

/- In a new crowd nobody has submitted anything. -/
theorem new
    (config : Config)
    (backend : Backend σ)
    (memory : σ) :
    (Crowd.new config backend memory).InTurn := by
  refine ⟨fun _ _ => .slnil, ?_⟩
  intro _ hHolder
  cases hHolder

/- No calls are made or submitted. -/
theorem quiet
    (hInTurn : crowd.InTurn)
    {after : Crowd σ}
    (hLog : after.log = crowd.log)
    (hSubmitted : after.submitted = crowd.submitted)
    (hHolders :
      ∀ holder ∈ after.holders,
        holder ∈ crowd.holders ∨
        holder.activity = .resting .free ∧
          madeBy holder.client crowd.log = []) :
    after.InTurn := by
  refine ⟨?_, ?_⟩
  · rw [hLog, hSubmitted]
    exact hInTurn.made
  · rw [hLog, hSubmitted]
    intro holder hHolder hTransaction
    rcases hHolders holder hHolder with
      hOld | ⟨hFree, hNone⟩
    · exact hInTurn.left holder hOld hTransaction
    · rw [hFree, hNone]
      exact ⟨_, rfl, List.nil_sublist _⟩

/-
  Who looks for a connection from outside submits
  nothing.
-/
theorem seek
    (hInTurn : crowd.InTurn)
    {client : Client}
    (hOutside : Outside client crowd)
    (part :
      Act σ (Except Waiter (Except Error Connection))) :
    (crowd.seek client part).2.InTurn := by
  unfold Crowd.seek
  rcases part.run crowd.db with ⟨answer, db⟩
  cases answer with
  | error waiter =>
      exact hInTurn.quiet rfl rfl fun _ => .inl
  | ok result =>
      cases result with
      | error e => exact hInTurn.quiet rfl rfl fun _ => .inl
      | ok conn =>
          refine hInTurn.quiet rfl rfl ?_
          intro holder hHolder
          rcases List.mem_cons.1 hHolder with rfl | hOther
          · refine .inr ⟨rfl, ?_⟩
            rw [madeBy, List.filter_eq_nil_iff.2]
            · rfl
            · intro entry hEntry
              simp [hOutside.silent entry hEntry]
          · exact .inl hOther

/-
  The calls of one client are in turn, and those of the
  others stay as they are.
-/
theorem work
    (hInTurn : crowd.InTurn)
    (hRegistered : crowd.Registered)
    (hDistinct : crowd.ids.Nodup)
    {place : Nat}
    {old holder : Holder}
    (hOld : crowd.holders[place]? = some old)
    (hClient : holder.client = old.client)
    {part : Part}
    (submits : Activity → List Call)
    {use : Use σ Activity}
    (hTracking : use.Tracking part)
    (hOwn :
      holder.client.purpose = .transaction →
        let run := (use.run holder.conn).run crowd.db
        let new := holder.entries part crowd.db run.2
        ∃ earlier,
          (submits run.1.1).reverse ++
                submittedBy holder.client crowd.submitted =
              run.1.1.calls.reverse ++ earlier ∧
            (madeBy holder.client
              (new ++ crowd.log)).Sublist
              earlier) :
    (crowd.work place holder part submits use).InTurn := by
  have hWorked :=
    holder.worked_of_tracking hTracking crowd.db
  rcases others_apart hRegistered hDistinct hOld with
    ⟨hOthers, -⟩
  rcases hRun : (use.run holder.conn).run crowd.db with
    ⟨⟨activity, used⟩, db⟩
  rw [hRun] at hWorked hOwn
  rw [work_eq part submits hRun]
  refine ⟨?_, ?_⟩
  · intro client hTransaction
    by_cases hSame : holder.client = client
    · subst hSame
      rcases hOwn hTransaction with
        ⟨earlier, hCalls, hMade⟩
      change (madeBy _ _).Sublist (submittedBy _ (_ ++ _))
      rw [submittedBy_own, hCalls]
      exact hMade.trans (List.sublist_append_right _ _)
    · change (madeBy _ _).Sublist (submittedBy _ (_ ++ _))
      rw [submittedBy_other hSame,
        madeBy_other hWorked.own hSame]
      exact hInTurn.made client hTransaction
  · intro other hOther hTransaction
    change ∃ earlier,
      submittedBy other.client (_ ++ _) = _ ∧
        (madeBy other.client (_ ++ _)).Sublist _
    rcases mem_of_mem_set hOld hOther with rfl | hElse
    · rw [submittedBy_own]
      exact hOwn hTransaction
    · have hApart := (hOthers other hElse).1
      rw [← hClient] at hApart
      rw [submittedBy_other hApart,
        madeBy_other hWorked.own hApart]
      exact hInTurn.left other
        ((List.eraseIdx_sublist _ _).subset hElse)
          hTransaction

/-
  What a client sets out to do is submitted, not made yet.
-/
theorem handled
    (hInTurn : crowd.InTurn)
    {holder : Holder}
    {engagement : Engagement}
    {handling : Handling}
    (hHolder : holder ∈ crowd.holders)
    (hActivity : holder.activity = .resting engagement)
    (hTransaction : holder.client.purpose = .transaction)
    (hAllowed :
      holder.client.purpose.allows holder.turn engagement
        handling = true) :
    let use : Use σ Activity := handling.prepare engagement
    let run := (use.run holder.conn).run crowd.db
    let new := holder.entries .work crowd.db run.2
    ∃ earlier,
      run.1.1.calls.reverse ++
            submittedBy holder.client crowd.submitted =
          run.1.1.calls.reverse ++ earlier ∧
        (madeBy holder.client (new ++ crowd.log)).Sublist
          earlier := by
  have hQuiet : handling ≠ .ping := by
    rintro rfl
    rw [hTransaction] at hAllowed
    cases engagement <;> cases hAllowed
  have hSteady :
      Use.Steady true
        (handling.prepare engagement :
          Use σ Activity) := by
    apply Handling.prepare_steady
    intro _
    exact hQuiet
  intro use run new
  have hNone : new = [] := by
    rcases hSteady.2 holder.conn crowd.db with
      ⟨calls, hHeard, -, hCalls, -⟩
    have hMade :=
      (holder.entries_of_apart .work
        (hSteady.1 holder.conn crowd.db).2 hHeard).2
    rw [hCalls rfl, List.reverse_eq_nil_iff,
      List.map_eq_nil_iff] at hMade
    exact hMade
  rcases hInTurn.left holder hHolder hTransaction with
    ⟨earlier, hCalls, hMade⟩
  rw [hActivity] at hCalls
  rw [hNone, hCalls]
  exact ⟨earlier, rfl, hMade⟩

/- The next call is the first one that was not made yet. -/
theorem advanced
    (hInTurn : crowd.InTurn)
    {holder : Holder}
    {errand : Errand}
    (hHolder : holder ∈ crowd.holders)
    (hActivity : holder.activity = .working errand)
    (hTransaction : holder.client.purpose = .transaction) :
    let use : Use σ Activity := errand.advance
    let run := (use.run holder.conn).run crowd.db
    let new := holder.entries errand.part crowd.db run.2
    ∃ earlier,
      submittedBy holder.client crowd.submitted =
          run.1.1.calls.reverse ++ earlier ∧
        (madeBy holder.client (new ++ crowd.log)).Sublist
          earlier := by
  intro use run new
  rcases errand.advance_yields holder.conn crowd.db with
    ⟨calls, hHeard, -, -, ⟨ok, hSent⟩, hLeft⟩
  rcases holder.entries_of_apart errand.part
      (errand.advance_confined holder.conn crowd.db).2
        hHeard with
    ⟨hOwn, hMade⟩
  rcases hInTurn.left holder hHolder hTransaction with
    ⟨earlier, hSubmitted, hSublist⟩
  rw [madeBy_sent hOwn hMade hSent errand.next_isCancel,
    hSubmitted, hActivity]
  have hNext := hSublist.cons_cons errand.next
  rcases hLeft with hNone | hRest
  · rcases errand.exists_calls_eq with ⟨later, hLater⟩
    refine ⟨later.reverse ++ errand.next :: earlier, ?_,
      hNext.trans (List.sublist_append_right _ _)⟩
    change errand.calls.reverse ++ earlier = _
    rw [hNone, hLater, List.reverse_cons, List.append_assoc]
    rfl
  · refine ⟨errand.next :: earlier, ?_, hNext⟩
    change errand.calls.reverse ++ earlier = _
    rw [hRest, List.reverse_cons, List.append_assoc]
    rfl

/- Every move keeps the calls in turn. -/
theorem step
    (hInTurn : crowd.InTurn)
    (hRegistered : crowd.Registered)
    (hDistinct : crowd.ids.Nodup)
    {outcome : Option (Except Error Connection) × Crowd σ}
    (hStep : Step crowd outcome) :
    outcome.2.InTurn := by
  cases hStep with
  | nothing => exact hInTurn
  | asked purpose demand hDemand =>
      rcases hRegistered.welcome purpose with
        ⟨-, hOutside⟩
      have hNext :
          ({ crowd with joined := crowd.joined + 1 } :
            Crowd σ).InTurn :=
        ⟨hInTurn.made, hInTurn.left⟩
      exact hNext.seek hOutside _
  | @awaited place seeker inTime hSeeker =>
      rcases hRegistered.called hSeeker with
        ⟨-, hOutside⟩
      have hNext :
          ({ crowd with
            seekers := crowd.seekers.eraseIdx place } :
              Crowd σ).InTurn :=
        ⟨hInTurn.made, hInTurn.left⟩
      exact hNext.seek hOutside _
  | @handled place holder engagement handling hHolder
    hActivity
      hAllowed =>
      let next : Holder := { holder with
        turn := holder.turn + 1 }
      have hClient : next.client = holder.client := rfl
      refine hInTurn.work hRegistered hDistinct hHolder
        hClient Activity.calls
          (handling.prepare_tracking engagement) ?_
      intro hTransaction
      have hHandled :=
        hInTurn.handled (List.mem_of_getElem? hHolder)
          hActivity hTransaction hAllowed
      exact hHandled
  | @advanced place holder errand hHolder hActivity =>
      refine hInTurn.work hRegistered hDistinct hHolder rfl
        (fun _ => []) errand.advance_tracking ?_
      intro hTransaction
      exact hInTurn.advanced (List.mem_of_getElem? hHolder)
        hActivity hTransaction
  | released =>
      refine hInTurn.quiet rfl rfl ?_
      intro other hOther
      exact .inl ((List.eraseIdx_sublist _ _).subset hOther)
  | suspected target =>
      exact hInTurn.quiet rfl rfl fun _ => .inl
  | closed => exact hInTurn.quiet rfl rfl fun _ => .inl

end InTurn

------------------------------------------------------------
-- Runs
------------------------------------------------------------

/- All that holds of a crowd, whatever its clients do. -/
structure Lawful
    (limit : Nat)
    (crowd : Crowd σ) : Prop where
  balanced : crowd.Balanced limit
  registered : crowd.Registered
  owned : crowd.Owned
  inTurn : crowd.InTurn

namespace Lawful

/- A new crowd is lawful. -/
theorem new
    (config : Config)
    (backend : Backend σ)
    (memory : σ) :
    (Crowd.new config backend memory).Lawful
      config.maxConnections :=
  ⟨new_balanced config backend memory,
    .new config backend memory, .new config backend memory,
    .new config backend memory⟩

/- Every move keeps the crowd lawful. -/
theorem step
    {limit : Nat}
    (hLawful : crowd.Lawful limit)
    {outcome : Option (Except Error Connection) × Crowd σ}
    (hStep : Step crowd outcome) :
    outcome.2.Lawful limit :=
  ⟨hLawful.balanced.step hStep,
    hLawful.registered.step hStep,
    hLawful.owned.step hLawful.registered hLawful.balanced
      hStep,
    hLawful.inTurn.step hLawful.registered
      hLawful.balanced.inOrder.distinct hStep⟩

end Lawful

/-
  A transaction owns its connection.  After any moves of any
  number of clients, with every call free to be answered, to
  fail or never to end, all calls on all connections were
  noted; each kept to the rules, given those before it; and
  the calls of a transaction were made in the order in which
  they were submitted.
-/
theorem transaction_owns_connection
    (config : Config)
    (backend : Backend σ)
    (memory : σ)
    (moves : List Move) :
    let crowd := play moves (.new config backend memory)
    (∀ id, crowd.db.callsOn id = callsIn crowd.log id) ∧
      (∀ after entry earlier,
        crowd.log = after ++ entry :: earlier →
          entry.Follows earlier) ∧
      ∀ client : Client, client.purpose = .transaction →
        (madeBy client crowd.log).Sublist
          (submittedBy client crowd.submitted) := by
  intro crowd
  have hStep :
      ∀ (crowd : Crowd σ) outcome,
        crowd.Lawful config.maxConnections →
          Step crowd outcome →
            outcome.2.Lawful config.maxConnections :=
    fun _ _ hLawful hStep => hLawful.step hStep
  have hKept : crowd.Lawful config.maxConnections :=
    play_keeps hStep moves (.new config backend memory)
  refine ⟨hKept.owned.complete, ?_, hKept.inTurn.made⟩
  intro after entry earlier hLog
  exact hKept.owned.orderly.follows hLog

section Sample

/-
  A client drops a transaction while another one waits for
  the only connection.  It is rolled back in the background,
  and then the other client has its turn.
-/
def sampleDropped : List Move :=
  [.begin, .await 0 true, .ask (.role .primary),
    .handle 0 .begin, .advance 0,
    .handle 0 (.run (.batch "a")), .advance 0,
    .handle 0 (.finish (.drop false)), .handle 0 .undo,
    .advance 0, .drop 0, .await 0 true,
    .handle 0 (.run (.batch "b")), .advance 0]

/-
  A transaction that is dropped is undone before its
  connection is handed to the client who waits.
-/
theorem transaction_owns_connection_sample :
    let crowd := play sampleDropped sampleCrowd
    callsIn crowd.log 1 =
        ["BEGIN", "a", "ROLLBACK", "b"].map
          (.batch ·, .done) ∧
      (madeBy ⟨0, .transaction⟩ crowd.log).Sublist
        [.batch "ROLLBACK", .batch "a",
          .batch "BEGIN"] := by
  intro crowd
  rcases transaction_owns_connection sampleConfig
      (sampleBackend 2) 0 sampleDropped with
    ⟨hComplete, -, hInTurn⟩
  refine ⟨(hComplete 1).symm.trans ?_,
    hInTurn ⟨0, .transaction⟩ rfl⟩
  rfl

end Sample

end Crowd

end SqlAccess
