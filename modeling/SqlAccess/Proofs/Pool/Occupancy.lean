import SqlAccess.Proofs.Pool.Chronicle
import SqlAccess.Proofs.Pool.Stock

/-
  This file keeps the accounts of a crowd.  After any moves
  of any number of clients, every open connection is idle in
  the pool of its own place or held by one client, no place
  has more connections than it may have, and the reported
  sizes count both.  What a client gives back is idle or
  closed at once, and who gets no connection takes nothing
  away.

  Key definitions include:
    * `Crowd.share`
    * `Crowd.Balanced`
    * `Crowd.InOrder`
    * `Crowd.Returned`
    * `Crowd.Spared`

  Key theorems include:
    * `Crowd.Balanced.step`
    * `Crowd.Balanced.play`
    * `Crowd.places_accounted`
-/

namespace SqlAccess

variable {σ : Type}

------------------------------------------------------------
-- The Accounts of a Crowd
------------------------------------------------------------

namespace Crowd

/- The connection of a client, for the accounts. -/
def Holder.tag (holder : Holder) : Tag :=
  holder.conn.tag

/- What the clients of a crowd have of the pools. -/
def share (crowd : Crowd σ) : Share :=
  ⟨[], crowd.seekers.map Seeker.waiter,
    crowd.holders.map Holder.tag⟩

/- The pools of a crowd count what the clients have. -/
def Balanced (limit : Nat) (crowd : Crowd σ) : Prop :=
  crowd.db.Balanced limit crowd.share

variable {limit : Nat} {crowd : Crowd σ}

/- In a new crowd all places are free. -/
theorem new_balanced
    (config : Config)
    (backend : Backend σ)
    (memory : σ) :
    (new config backend memory).Balanced
      config.maxConnections :=
  .new config backend memory

/- What clients have, apart from the one at a place. -/
theorem share_perm
    {place : Nat}
    {holder : Holder}
    (hHolder : crowd.holders[place]? = some holder) :
    (crowd.holders.map Holder.tag).Perm
      (holder.tag ::
        (crowd.holders.eraseIdx place).map Holder.tag) :=
  (perm_eraseIdx hHolder).map Holder.tag

namespace Balanced

/-
  A client who takes a part of a checkout has what it
  yields.
-/
theorem seek
    {given : Share}
    {post :
      Except Waiter (Except Error Connection) → Prop}
    {part :
      Act σ (Except Waiter (Except Error Connection))}
    (hPart :
      Act.Accounts limit part given Waiter.share post)
    (hBalanced :
      crowd.db.Balanced limit (given ++ crowd.share))
    (client : Client) :
    (crowd.seek client part).2.Balanced limit := by
  have hAfter := (hPart crowd.share crowd.db hBalanced).1
  unfold Crowd.seek
  rcases hRun : part.run crowd.db with ⟨answer, db⟩
  rw [hRun] at hAfter
  cases answer with
  | error waiter => exact hAfter
  | ok result =>
      cases result with
      | ok conn => exact hAfter
      | error e => exact hAfter

/- What a client waits for, apart from what others have. -/
theorem called
    (hBalanced : crowd.Balanced limit)
    {place : Nat}
    {seeker : Seeker}
    (hSeeker : crowd.seekers[place]? = some seeker) :
    let next : Crowd σ :=
      { crowd with seekers := crowd.seekers.eraseIdx place }
    crowd.db.Balanced limit
      (.wait seeker.waiter ++ next.share) := by
  exact hBalanced.reordered (.refl _)
    ((perm_eraseIdx hSeeker).symm.map Seeker.waiter)
    (.refl _)

/-
  The connection of a client is used, and stays in place.
-/
theorem work
    (hBalanced : crowd.Balanced limit)
    {place : Nat}
    {old holder : Holder}
    (hOld : crowd.holders[place]? = some old)
    (hConn : holder.conn = old.conn)
    {part : Part}
    (submits : Activity → List Call)
    {use : Use σ Activity}
    (hTracking : use.Tracking part) :
    (crowd.work place holder part submits use).Balanced
      limit := by
  have hWorked :=
    holder.worked_of_tracking hTracking crowd.db
  have hTag :
      ((use.run holder.conn).run crowd.db).1.2.tag =
        old.tag := by
    rw [Holder.tag, ← hConn, Connection.tag,
      Connection.id, hWorked.link, hWorked.tracks.target]
    rfl
  refine (hBalanced.apart hWorked.apart).reordered (.refl _)
    (.refl _) ?_
  rcases List.getElem?_eq_some_iff.1 hOld with
    ⟨hPlace, rfl⟩
  have hSet :
      (crowd.work place holder part submits
        use).share.held =
        (crowd.holders.map Holder.tag).set place
          crowd.holders[place].tag := by
    rw [← hTag]
    exact List.map_set
  have hSame :
      (crowd.holders.map Holder.tag).set place
        crowd.holders[place].tag =
        crowd.holders.map Holder.tag := by
    rw [← List.map_set, List.set_getElem_self]
  rw [hSet, hSame]
  exact .refl _

/- Every move keeps the accounts. -/
theorem step
    (hBalanced : crowd.Balanced limit)
    {outcome : Option (Except Error Connection) × Crowd σ}
    (hStep : Step crowd outcome) :
    outcome.2.Balanced limit := by
  cases hStep with
  | nothing => exact hBalanced
  | asked purpose demand _ =>
      have hJoined :
          ({ crowd with joined := crowd.joined + 1 } :
            Crowd σ).Balanced limit :=
        hBalanced
      exact seek (Waiter.begin_accounts demand) hJoined _
  | @awaited place seeker inTime hSeeker =>
      exact seek
        (Waiter.proceed_accounts seeker.waiter inTime)
        (hBalanced.called hSeeker) seeker.client
  | @handled place holder engagement handling hHolder =>
      let next : Holder := { holder with
        turn := holder.turn + 1 }
      have hConn : next.conn = holder.conn := rfl
      exact hBalanced.work hHolder hConn Activity.calls
        (handling.prepare_tracking engagement)
  | @advanced place holder errand hHolder =>
      exact hBalanced.work hHolder rfl (fun _ => [])
        errand.advance_tracking
  | @released place holder release hHolder hAnswered
    hRelease =>
      have hAccounts :
          Act.Accounts limit (release holder.conn)
            (.hold holder.conn) (fun _ => .none)
            fun _ => True := by
        rcases hRelease with rfl | rfl
        · exact Act.checkin_accounts holder.conn hAnswered
        · exact Act.release_accounts holder.conn hAnswered
      let others : Share :=
        ⟨[], crowd.seekers.map Seeker.waiter,
          (crowd.holders.eraseIdx place).map Holder.tag⟩
      have hApart :
          crowd.db.Balanced limit
            (.hold holder.conn ++ others) :=
        hBalanced.reordered (.refl _) (.refl _)
          (share_perm hHolder).symm
      exact (hAccounts others crowd.db hApart).1
  | suspected target =>
      exact (Act.markReplicaDown_accounts target .none
        crowd.share crowd.db hBalanced).1
  | closed =>
      exact (Act.close_accounts .none crowd.share crowd.db
        hBalanced).1

/- Moves keep the accounts of the crowd. -/
theorem play
    (hBalanced : crowd.Balanced limit)
    (moves : List Move) :
    (play moves crowd).Balanced limit :=
  play_keeps (fun _ _ hKept => hKept.step) moves hBalanced

end Balanced

end Crowd

------------------------------------------------------------
-- Crowds in Order
------------------------------------------------------------

/- A pool of a database is that of some place. -/
theorem Database.mem_pools_iff
    {db : Database σ}
    {pool : Pool} :
    pool ∈ db.pools ↔
      ∃ target, db.pool? target = some pool := by
  rw [pools, List.mem_cons, List.mem_iff_getElem?]
  constructor
  · rintro (rfl | ⟨index, hPool⟩)
    · exact ⟨.primary, rfl⟩
    · exact ⟨.replica index, hPool⟩
  · rintro ⟨target, hPool⟩
    cases target with
    | primary =>
        cases hPool
        exact .inl rfl
    | replica index => exact .inr ⟨index, hPool⟩

namespace Crowd

/- The connections that are idle or that a client has. -/
def ids (crowd : Crowd σ) : List Nat :=
  crowd.db.idle.map Connection.id ++
    crowd.holders.map fun holder => holder.conn.id

/- The clients who have a connection to a place. -/
def heldAt
    (crowd : Crowd σ)
    (target : Target) : List Holder :=
  crowd.holders.filter fun holder =>
    holder.conn.target = target

/- How many connections are idle or held at a place. -/
def sizeAt (crowd : Crowd σ) (target : Target) : Nat :=
  (crowd.db.stock target).length +
    (crowd.heldAt target).length

/-
  Every open connection is idle, in the pool of its own
  place, or a client has it, and it is so once.  There are
  no more of a place than there may be, and as many as is
  reported.
-/
structure InOrder
    (limit : Nat)
    (crowd : Crowd σ) : Prop where
  distinct : crowd.ids.Nodup
  isOpen : ∀ id, crowd.db.IsOpen id ↔ id ∈ crowd.ids
  own :
    ∀ target, ∀ conn ∈ crowd.db.stock target,
      conn.target = target
  listed :
    ∀ holder ∈ crowd.holders,
      ∃ occupancy ∈ crowd.db.status,
        occupancy.target = holder.conn.target
  size :
    ∀ occupancy ∈ crowd.db.status,
      occupancy.size = crowd.sizeAt occupancy.target
  bounded : ∀ target, crowd.sizeAt target ≤ limit

variable {limit : Nat} {crowd : Crowd σ}

/-
  The connections of a crowd are those that its clients
  share and those that are idle.
-/
theorem ids_eq (crowd : Crowd σ) :
    crowd.db.ids crowd.share = crowd.ids := by
  unfold Database.ids ids share
  rw [List.map_map]
  rfl

/- What clients hold at a place is what they share of it. -/
theorem heldAt_eq (crowd : Crowd σ) (target : Target) :
    crowd.share.heldAt target =
      (crowd.heldAt target).length := by
  unfold Share.heldAt share heldAt
  rw [List.countP_map, List.countP_eq_length_filter]
  rfl

/-
  The size of a pool is the number of its places that the
  crowd takes up.
-/
theorem Balanced.size_eq
    (hBalanced : crowd.Balanced limit)
    {target : Target}
    {pool : Pool}
    (hPool : crowd.db.pool? target = some pool) :
    pool.size = crowd.sizeAt target := by
  rw [Pool.size, (hBalanced.pools target pool hPool).held,
    heldAt_eq, sizeAt, Database.stock_of_pool hPool]

/- A crowd whose accounts are kept is in order. -/
theorem Balanced.inOrder
    (hBalanced : crowd.Balanced limit) :
    crowd.InOrder limit := by
  have hStatus :
      ∀ occupancy ∈ crowd.db.status,
        ∃ target pool,
          crowd.db.pool? target = some pool ∧
            pool.target = target ∧
              pool.status = occupancy := by
    intro occupancy hOccupancy
    rcases List.mem_map.1 hOccupancy with
      ⟨pool, hMem, hSame⟩
    rcases Database.mem_pools_iff.1 hMem with
      ⟨target, hPool⟩
    exact ⟨target, pool, hPool,
      (hBalanced.pools target pool hPool).place, hSame⟩
  refine ⟨?_, ?_, ?_, ?_, ?_, ?_⟩
  · rw [← ids_eq]
    exact hBalanced.distinct
  · rw [← ids_eq]
    exact hBalanced.isOpen
  · intro target conn hConn
    cases hPool : crowd.db.pool? target with
    | none =>
        rw [Database.stock, hPool] at hConn
        cases hConn
    | some pool =>
        rw [Database.stock_of_pool hPool] at hConn
        exact (hBalanced.pools target pool hPool).own
          conn hConn
  · intro holder hHolder
    have hSome :=
      hBalanced.placed holder.tag
        (List.mem_map_of_mem hHolder)
    rcases Option.isSome_iff_exists.1 hSome with
      ⟨pool, hPool⟩
    refine ⟨pool.status, ?_, ?_⟩
    · exact List.mem_map_of_mem
        (Database.mem_pools_iff.2 ⟨_, hPool⟩)
    · exact (hBalanced.pools _ pool hPool).place
  · intro occupancy hOccupancy
    rcases hStatus occupancy hOccupancy with
      ⟨target, pool, hPool, hPlace, rfl⟩
    change pool.size = crowd.sizeAt pool.target
    rw [hPlace]
    exact hBalanced.size_eq hPool
  · intro target
    cases hPool : crowd.db.pool? target with
    | some pool =>
        have hRoom :=
          (hBalanced.pools target pool hPool).room
        rw [← hBalanced.size_eq hPool, Pool.size]
        omega
    | none =>
        have hNobody : crowd.heldAt target = [] := by
          rw [heldAt, List.filter_eq_nil_iff]
          intro holder hHolder
          have hSome :=
            hBalanced.placed holder.tag
              (List.mem_map_of_mem hHolder)
          simp only [decide_eq_true_eq]
          rintro rfl
          change
            (crowd.db.pool? holder.conn.target).isSome =
              true
            at hSome
          rw [hPool] at hSome
          cases hSome
        rw [sizeAt, hNobody, Database.stock, hPool]
        exact Nat.zero_le _

end Crowd

------------------------------------------------------------
-- Giving Back
------------------------------------------------------------

/- Whether the pool of a place was closed. -/
def Database.isClosedAt
    (db : Database σ)
    (target : Target) : Bool :=
  (db.pool? target).any Pool.closed

/-
  A connection that is given back is put back if it may be
  used and the pool was not closed; otherwise it is evicted.
-/
theorem Act.checkin_cases
    {conn : Connection}
    (hAnswered : conn.unanswered = false)
    (db : Database σ) :
    let after := ((checkin conn).run db).2
    let kept :=
      conn.isUsable = true ∧
        db.isClosedAt conn.target = false
    kept ∧
        after =
          db.modifyPool conn.target
            (fun pool => pool.putBack conn) ∨
      ¬ kept ∧ after = ((evict conn).run db).2 := by
  have hClosed :
      (isPoolClosed conn).run db =
        (db.isClosedAt conn.target, db) :=
    rfl
  unfold checkin
  cases hUsable : conn.isUsable with
  | false =>
      refine .inr ⟨?_, rfl⟩
      rintro ⟨⟨⟩, -⟩
  | true =>
      simp only [release, hAnswered, Bool.false_eq_true,
        if_false, if_true]
      rw [bind_run, hClosed]
      cases db.isClosedAt conn.target with
      | false => exact .inl ⟨⟨trivial, rfl⟩, rfl⟩
      | true =>
          refine .inr ⟨?_, rfl⟩
          rintro ⟨-, ⟨⟩⟩

namespace Crowd

/-
  A client gives a connection back.  One that may be used is
  idle afterwards unless its pool was closed; any other one
  is closed at once.  In both cases there is room for
  another client.
-/
structure Returned
    (place : Nat)
    (conn : Connection)
    (before after : Crowd σ) : Prop where
  holders : after.holders = before.holders.eraseIdx place
  others :
    ∀ other, other ≠ conn.target →
      after.db.stock other = before.db.stock other
  room :
    ∃ pool, after.db.pool? conn.target = some pool ∧
      pool.held + pool.opening < pool.limit
  kept :
    conn.isUsable = true →
      before.db.isClosedAt conn.target = false →
        after.db.stock conn.target =
            before.db.stock conn.target ++ [conn] ∧
          after.sizeAt conn.target =
            before.sizeAt conn.target
  closed :
    conn.isUsable = false ∨
        before.db.isClosedAt conn.target = true →
      after.db.stock conn.target =
          before.db.stock conn.target ∧
        ¬ after.db.IsOpen conn.id ∧
        after.sizeAt conn.target + 1 =
          before.sizeAt conn.target

variable {limit : Nat} {crowd : Crowd σ}

/- The client whose connection it is counts no longer. -/
theorem heldAt_eraseIdx
    {crowd after : Crowd σ}
    {place : Nat}
    {holder : Holder}
    (hHolder : crowd.holders[place]? = some holder)
    (hAfter :
      after.holders = crowd.holders.eraseIdx place) :
    (after.heldAt holder.conn.target).length + 1 =
      (crowd.heldAt holder.conn.target).length := by
  have hPerm :=
    (perm_eraseIdx hHolder).filter fun other =>
      other.conn.target = holder.conn.target
  have hLength := hPerm.length_eq
  simp only [decide_true, List.filter_cons_of_pos,
    List.length_cons] at hLength
  rw [heldAt, hAfter]
  exact hLength.symm

/- What the crowd is without a client who was at a place. -/
def without
    (crowd : Crowd σ)
    (place : Nat)
    (db : Database σ) : Crowd σ :=
  { crowd with
    db := db
    holders := crowd.holders.eraseIdx place }

/-
  A client who is free and whose call was answered gives the
  connection back.
-/
theorem step_checkin
    {place turn : Nat}
    {client : Client}
    {conn : Connection}
    (hHolder :
      crowd.holders[place]? =
        some ⟨client, turn, conn, .resting .free⟩)
    (hAnswered : conn.unanswered = false) :
    (Crowd.step (.checkin place) crowd).2 =
      crowd.without place
        ((Act.checkin conn).run crowd.db).2 := by
  simp [Crowd.step, letGo, hHolder, hAnswered, without]

/-
  There is room where a client has a connection no longer.
-/
theorem Balanced.room
    (hBalanced : crowd.Balanced limit)
    {holder : Holder}
    (hHolder : holder ∈ crowd.holders) :
    ∃ pool,
      crowd.db.pool? holder.conn.target = some pool ∧
      pool.held - 1 + pool.opening < pool.limit := by
  have hSome :=
    hBalanced.placed holder.tag
      (List.mem_map_of_mem hHolder)
  rcases Option.isSome_iff_exists.1 hSome with
    ⟨pool, hPool⟩
  have hFits :=
    hBalanced.pools holder.conn.target pool hPool
  have hHeld := hFits.held
  have hSeats := hFits.seats
  have hLimit := hFits.bounded
  have hOne :
      0 < (crowd.heldAt holder.conn.target).length :=
    List.length_pos_of_mem
      (List.mem_filter.2 ⟨hHolder, decide_eq_true rfl⟩)
  rw [heldAt_eq] at hHeld
  exact ⟨pool, hPool, by omega⟩

section Returning

variable {place : Nat} {holder : Holder} {pool : Pool}

/-
  A connection that is put back is idle, and nobody has it.
-/
theorem returned_of_putBack
    (hHolder : crowd.holders[place]? = some holder)
    (hPool : crowd.db.pool? holder.conn.target = some pool)
    (hRoom : pool.held - 1 + pool.opening < pool.limit)
    (hKept :
      holder.conn.isUsable = true ∧
        crowd.db.isClosedAt holder.conn.target = false) :
    Returned place holder.conn crowd
      (crowd.without place
        (crowd.db.modifyPool holder.conn.target fun pool =>
          pool.putBack holder.conn)) := by
  let after : Crowd σ :=
    crowd.without place
      (crowd.db.modifyPool holder.conn.target fun pool =>
        pool.putBack holder.conn)
  have hStock :=
    Database.stock_modifyPool hPool fun pool =>
      pool.putBack holder.conn
  have hHere :
      after.db.stock holder.conn.target =
        crowd.db.stock holder.conn.target ++
          [holder.conn] := by
    rw [Database.stock_of_pool hPool]
    exact (hStock holder.conn.target).trans (if_pos rfl)
  have hOne :
      (after.heldAt holder.conn.target).length + 1 =
        (crowd.heldAt holder.conn.target).length :=
    heldAt_eraseIdx hHolder rfl
  refine ⟨rfl, ?_, ?_, ?_, ?_⟩
  · intro other hOther
    exact (hStock other).trans (if_neg hOther)
  · refine ⟨pool.putBack holder.conn, ?_, hRoom⟩
    rw [without, Database.pool?_modifyPool, if_pos rfl,
      hPool]
    rfl
  · intro _ _
    refine ⟨hHere, ?_⟩
    change after.sizeAt holder.conn.target = _
    rw [sizeAt, sizeAt, hHere, List.length_append,
      List.length_singleton]
    omega
  · rintro (hUseless | hClosed)
    · rw [hKept.1] at hUseless
      cases hUseless
    · rw [hKept.2] at hClosed
      cases hClosed

/- A connection that is evicted is closed. -/
theorem returned_of_evict
    (hHolder : crowd.holders[place]? = some holder)
    (hPool : crowd.db.pool? holder.conn.target = some pool)
    (hRoom : pool.held - 1 + pool.opening < pool.limit)
    (hGone :
      ¬ (holder.conn.isUsable = true ∧
        crowd.db.isClosedAt holder.conn.target = false)) :
    Returned place holder.conn crowd
      (crowd.without place
        ((Act.evict holder.conn).run crowd.db).2) := by
  let after : Crowd σ :=
    crowd.without place
      ((Act.evict holder.conn).run crowd.db).2
  rcases Act.destroy_modified holder.conn.target
    [holder.conn]
      crowd.db Pool.discard with
    ⟨hPools, -, hHistory⟩
  have hStock : after.db.stock = crowd.db.stock :=
    (Database.stock_congr hPools).trans
      (Database.stock_modifyPool_eq fun _ _ => rfl)
  have hOne :
      (after.heldAt holder.conn.target).length + 1 =
        (crowd.heldAt holder.conn.target).length :=
    heldAt_eraseIdx hHolder rfl
  refine ⟨rfl, ?_, ?_, ?_, ?_⟩
  · intro other _
    exact congrFun hStock other
  · refine ⟨pool.discard, ?_, hRoom⟩
    refine
      (Database.pool?_congr hPools holder.conn.target).trans
        ?_
    rw [Database.pool?_modifyPool, if_pos rfl, hPool]
    rfl
  · intro hUsable hOpen
    exact absurd ⟨hUsable, hOpen⟩ hGone
  · intro _
    refine ⟨congrFun hStock holder.conn.target, ?_, ?_⟩
    · rintro ⟨-, hNever⟩
      apply hNever
      rw [show after.db.history = _ from hHistory]
      exact List.mem_append_left _ List.mem_cons_self
    · change after.sizeAt holder.conn.target + 1 = _
      rw [sizeAt, sizeAt, hStock]
      omega

/-
  What is given back is idle or closed, and there is room.
-/
theorem Balanced.returned
    (hBalanced : crowd.Balanced limit)
    (hHolder : crowd.holders[place]? = some holder)
    (hActivity : holder.activity = .resting .free)
    (hAnswered : holder.conn.unanswered = false) :
    Returned place holder.conn crowd
      (Crowd.step (.checkin place) crowd).2 := by
  rcases hBalanced.room (List.mem_of_getElem? hHolder) with
    ⟨pool, hPool, hRoom⟩
  have hAfter :
      (Crowd.step (.checkin place) crowd).2 =
        crowd.without place
          ((Act.checkin holder.conn).run crowd.db).2 := by
    rcases holder with ⟨client, turn, conn, activity⟩
    subst hActivity
    exact step_checkin hHolder hAnswered
  rw [hAfter]
  rcases Act.checkin_cases hAnswered crowd.db with
    ⟨hKept, hDb⟩ | ⟨hGone, hDb⟩
  · rw [hDb]
    exact returned_of_putBack hHolder hPool hRoom hKept
  · rw [hDb]
    exact returned_of_evict hHolder hPool hRoom hGone

end Returning

------------------------------------------------------------
-- Checkouts That Yield Nothing
------------------------------------------------------------

/- A move that goes on with a checkout. -/
def Move.Seeks : Move → Prop
  | ask _ => True
  | begin => True
  | await _ _ => True
  | _ => False

/-
  A client who gets no connection takes none from the
  others, and no idle connection, except that connections
  that may not be used are closed where the client finds no
  other one.
-/
def Spared
    (before : Crowd σ) :
    Option (Except Error Connection) × Crowd σ → Prop
  | (some (.ok _), _) => True
  | (some (.error _), after) =>
      after.holders = before.holders ∧
        after.db.stock = before.db.stock ∧
        after.sizeAt = before.sizeAt
  | (none, after) =>
      after.holders = before.holders ∧
        (after.db.stock = before.db.stock ∧
            after.sizeAt = before.sizeAt ∨
          ∃ seeker, after.seekers.head? = some seeker ∧
            seeker.waiter.pause = .forConnection ∧
            Stock.Cleared seeker.waiter.target
              before.db.stock after.db.stock)

/-
  The size of a place hangs on what is held there and what
  is idle there.
-/
theorem sizeAt_congr
    {before after : Crowd σ}
    (hHolders : after.holders = before.holders)
    (hStock : after.db.stock = before.db.stock) :
    after.sizeAt = before.sizeAt := by
  funext target
  rw [sizeAt, sizeAt, heldAt, heldAt, hHolders, hStock]

/-
  A client who is not served takes nothing from the pools
  that it does not use.
-/
theorem seek_spared
    {before : Crowd σ}
    {part :
      Act σ (Except Waiter (Except Error Connection))}
    (hPart : Act.Stocks part Waiter.Spares)
    (hHolders : crowd.holders = before.holders)
    (hDatabase : crowd.db = before.db)
    (client : Client) :
    before.Spared (crowd.seek client part) := by
  have hSpares := hPart crowd.db
  unfold seek
  rcases hRun : part.run crowd.db with ⟨answer, db⟩
  rw [hRun, hDatabase] at hSpares
  cases answer with
  | error waiter =>
      refine ⟨hHolders, ?_⟩
      rcases hSpares with hSame | ⟨hPause, hCleared⟩
      · exact .inl ⟨hSame, sizeAt_congr hHolders hSame⟩
      · exact .inr
          ⟨⟨client, waiter⟩, rfl, hPause, hCleared⟩
  | ok result =>
      cases result with
      | ok conn => trivial
      | error e =>
          exact ⟨hHolders, hSpares,
            sizeAt_congr hHolders hSpares⟩

/-
  A move of a client who seeks takes nothing from the pools
  that it does not use.
-/
theorem step_spared
    {move : Move}
    (hSeeks : move.Seeks)
    (crowd : Crowd σ) :
    crowd.Spared (step move crowd) := by
  cases move with
  | ask demand =>
      exact seek_spared (Waiter.begin_spares demand)
        rfl rfl _
  | begin =>
      exact seek_spared
        (Waiter.begin_spares (.role .primary)) rfl
        rfl _
  | await place inTime =>
      simp only [step, await]
      cases crowd.seekers[place]? with
      | none => exact ⟨rfl, .inl ⟨rfl, rfl⟩⟩
      | some seeker =>
          exact seek_spared
            (seeker.waiter.proceed_spares inTime)
            rfl rfl _
  | _ => cases hSeeks

/-
  The pools keep account of any number of clients, whatever
  they do and whatever the backend answers.  Every open
  connection is idle in its own pool or one client has it;
  there are not more than there may be, and as many as is
  reported.  A connection that is given back is idle, or it
  is closed at once if it may not be used or its pool was
  closed.  A checkout that yields nothing leaves the others
  what they have and everything idle that may be used.
-/
theorem places_accounted
    (config : Config)
    (backend : Backend σ)
    (memory : σ)
    (moves : List Move) :
    let crowd := play moves (new config backend memory)
    crowd.InOrder config.maxConnections ∧
      (∀ place holder,
        crowd.holders[place]? = some holder →
          holder.activity = .resting .free →
            holder.conn.unanswered = false →
              Returned place holder.conn crowd
                (step (.checkin place) crowd).2) ∧
      ∀ move : Move, move.Seeks →
        crowd.Spared (step move crowd) := by
  intro crowd
  have hBalanced : crowd.Balanced config.maxConnections :=
    (new_balanced config backend memory).play moves
  refine ⟨hBalanced.inOrder, ?_, ?_⟩
  · intro place holder hHolder hActivity hAnswered
    exact hBalanced.returned hHolder hActivity hAnswered
  · intro move hSeeks
    exact step_spared hSeeks crowd

section Sample

/- One connection may be open at each of two places. -/
def sampleConfig : Config :=
  { Config.new .sqlite "p" with
    replicas := ["r"]
    maxConnections := 1 }

/- A backend that opens so many connections and no more. -/
def sampleBackend (openings : Nat) : Backend Nat where
  kind := .sqlite
  style := .numbered
  cancellable := true
  connect _ count :=
    (if count < openings then .done ()
      else .failed (.connection "" "no"),
      count + 1)
  perform _ call count := (.done call.plainAnswer, count)

def sampleCrowd : Crowd Nat :=
  .new sampleConfig (sampleBackend 2) 0

/- The connection of the first client. -/
def sampleConnection : Connection :=
  .new ⟨1, "p"⟩ .primary

/- One client has a connection to the primary. -/
def sampleHeld : List Move :=
  [.ask (.role .primary), .await 0 true]

/-
  Another client has had one to the replica, and nobody
  relies on it any more.
-/
def sampleSpoiled : List Move :=
  sampleHeld ++
    [.ask (.role .replica), .await 0 true, .handle 0 .spoil,
      .drop 0]

/-
  One place is taken, a second client is refused there, and
  the place is free again when the connection is back.
-/
theorem places_accounted_sample :
    let crowd := play sampleHeld sampleCrowd
    let after := (step (.checkin 0) crowd).2
    crowd.InOrder 1 ∧
      after.db.stock .primary = [sampleConnection] ∧
      after.sizeAt .primary = crowd.sizeAt .primary ∧
      crowd.Spared
        (step (.ask (.role .primary)) crowd) := by
  intro crowd after
  rcases places_accounted sampleConfig (sampleBackend 2) 0
      sampleHeld with
    ⟨hInOrder, hReturned, hSpared⟩
  have hHolder :
      crowd.holders[0]? =
        some ⟨⟨0, .connection⟩, 0, sampleConnection,
          .resting .free⟩ :=
    rfl
  have hKept := (hReturned 0 _ hHolder rfl rfl).kept rfl rfl
  exact ⟨hInOrder, hKept.1, hKept.2, hSpared _ trivial⟩

/-
  A connection that comes back clean is not idle if its pool
  was closed.  And a checkout that ends because the primary
  is full has closed a connection of the replica that it had
  tried before.
-/
theorem places_unaccounted :
    (let held := play (sampleHeld ++ [.close]) sampleCrowd
      let returned := (step (.checkin 0) held).2
      held.holders.map Holder.conn = [sampleConnection] ∧
        sampleConnection.isUsable = true ∧
        returned.db.stock .primary = [] ∧
        returned.sizeAt .primary = 0) ∧
      let before := play sampleSpoiled sampleCrowd
      let waiting :=
        play [.ask (.role .replica), .await 0 true] before
      let (answer, after) := step (.await 0 false) waiting
      answer =
          some (.error (.poolExhausted "" .primary
            sampleConfig.checkoutTimeout)) ∧
        before.sizeAt (.replica 0) = 1 ∧
        after.sizeAt (.replica 0) = 0 := by
  refine ⟨⟨rfl, rfl, rfl, rfl⟩, ?_, ?_, ?_⟩
  · rfl
  · rfl
  · rfl

end Sample

end Crowd

end SqlAccess
