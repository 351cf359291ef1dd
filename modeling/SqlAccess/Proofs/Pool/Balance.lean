import SqlAccess.Proofs.Pool.Hygiene
import SqlAccess.Proofs.Pool.Seeking

/-
  This file says what it means that the accounts of the
  pools are kept: what the pools count is what their clients
  have, and the connections that are open are those that are
  idle or held, each of them once.

  Key definitions include:
    * `Tag`
    * `Share`
    * `Pool.Fits`
    * `Database.IsOpen`
    * `Database.Lived`
    * `Database.Balanced`

  Key theorems include:
    * `Database.Balanced.lived`
    * `Database.Balanced.changed`
    * `Database.Balanced.alike`
    * `Database.Balanced.recounted`
-/

namespace SqlAccess

variable {σ : Type}

------------------------------------------------------------
-- Shares
------------------------------------------------------------

/- The number of a connection, and the place it leads to. -/
structure Tag where
  id : Nat
  target : Target
deriving DecidableEq

/- What the accounts know of a connection. -/
def Connection.tag (conn : Connection) : Tag :=
  ⟨conn.id, conn.target⟩

/-
  What clients have of the pools: places where they have not
  looked for a connection yet, places that they wait for or
  where they wait for a connection, and connections.
-/
structure Share where
  seats : List Target
  waiting : List Waiter
  held : List Tag

namespace Share

/- Nothing. -/
def none : Share := ⟨[], [], []⟩

/- A place, and nothing else. -/
def seat (target : Target) : Share := ⟨[target], [], []⟩

/- A connection, and nothing else. -/
def hold
    (conn : Connection) :
    Share := ⟨[], [], [conn.tag]⟩

/- What one of two users waits for. -/
def wait (waiter : Waiter) : Share := ⟨[], [waiter], []⟩

instance : Append Share :=
  ⟨fun share other =>
    ⟨share.seats ++ other.seats,
      share.waiting ++ other.waiting,
      share.held ++ other.held⟩⟩

/- The places of a pool where nobody has looked yet. -/
def seatsAt (share : Share) (target : Target) : Nat :=
  share.seats.count target

/- The places of a pool with a connection being opened. -/
def openingAt (share : Share) (target : Target) : Nat :=
  share.waiting.countP fun waiter =>
    waiter.target = target && waiter.pause = .forConnection

/- The connections of a pool that are held. -/
def heldAt (share : Share) (target : Target) : Nat :=
  share.held.countP fun tag => tag.target = target

section Append

variable (share other : Share) (target : Target)

/- Shares are put together by what is held in them. -/
@[simp]
theorem held_append :
    (share ++ other).held = share.held ++ other.held :=
  rfl

/- The seats of two shares are added up. -/
@[simp]
theorem seatsAt_append :
    (share ++ other).seatsAt target =
      share.seatsAt target + other.seatsAt target :=
  List.count_append

/- The openings of two shares are added up. -/
@[simp]
theorem openingAt_append :
    (share ++ other).openingAt target =
      share.openingAt target + other.openingAt target :=
  List.countP_append

/- The connections of two shares are added up. -/
@[simp]
theorem heldAt_append :
    (share ++ other).heldAt target =
      share.heldAt target + other.heldAt target :=
  List.countP_append

end Append

@[simp]
theorem none_append
    (share : Share) :
    none ++ share = share :=
  rfl

section Counts

variable (place target : Target)

@[simp]
theorem seatsAt_none : none.seatsAt target = 0 :=
  rfl

@[simp]
theorem openingAt_none : none.openingAt target = 0 :=
  rfl

@[simp]
theorem heldAt_none : none.heldAt target = 0 :=
  rfl

@[simp]
theorem seatsAt_seat :
    (seat place).seatsAt target =
      if place = target then 1 else 0 := by
  simp [seat, seatsAt, List.count_singleton]

@[simp]
theorem openingAt_seat :
    (seat place).openingAt target = 0 :=
  rfl

@[simp]
theorem heldAt_seat : (seat place).heldAt target = 0 :=
  rfl

@[simp]
theorem seatsAt_wait (waiter : Waiter) :
    (wait waiter).seatsAt target = 0 :=
  rfl

@[simp]
theorem openingAt_wait (waiter : Waiter) :
    (wait waiter).openingAt target =
      if waiter.target = target ∧
        waiter.pause = .forConnection
      then 1 else 0 := by
  simp [wait, openingAt, List.countP_singleton]

@[simp]
theorem heldAt_wait (waiter : Waiter) :
    (wait waiter).heldAt target = 0 :=
  rfl

@[simp]
theorem seatsAt_hold (conn : Connection) :
    (hold conn).seatsAt target = 0 :=
  rfl

@[simp]
theorem openingAt_hold (conn : Connection) :
    (hold conn).openingAt target = 0 :=
  rfl

@[simp]
theorem heldAt_hold (conn : Connection) :
    (hold conn).heldAt target =
      if conn.target = target then 1 else 0 := by
  simp [hold, heldAt, Connection.tag, List.countP_singleton]

end Counts

end Share

------------------------------------------------------------
-- Pools
------------------------------------------------------------

/-
  A pool counts what clients have of it, and there are not
  more places or connections than it may have.
-/
structure Pool.Fits
    (target : Target)
    (limit : Nat)
    (share : Share)
    (pool : Pool) : Prop where
  place : pool.target = target
  bounded : pool.limit = limit
  own : ∀ conn ∈ pool.idle, conn.target = target
  held : pool.held = share.heldAt target
  opening :
    pool.opening =
      share.openingAt target + share.seatsAt target
  seats : pool.held + pool.opening ≤ limit
  room :
    pool.idle.length + pool.held +
        share.openingAt target ≤
      limit
  empty : pool.closed = true → pool.idle = []

/- The events of connections that are closed one by one. -/
def Event.closings (conns : List Connection) : List Event :=
  (conns.map fun conn => .closed conn.id).reverse

namespace Database

/- The pool of one place is changed, and no other. -/
theorem pool?_modifyPool
    (db : Database σ)
    (target other : Target)
    (change : Pool → Pool) :
    (db.modifyPool target change).pool? other =
      if other = target then (db.pool? other).map change
      else db.pool? other := by
  cases target with
  | primary =>
      cases other with
      | primary => rfl
      | replica index => rfl
  | replica index =>
      cases other with
      | primary => rfl
      | replica place =>
          simp only [pool?, modifyPool,
            List.getElem?_modify, Target.replica.injEq]
          by_cases hSame : index = place
          · simp [hSame]
          · simp [hSame, Ne.symm hSame]

/- A pool is looked up among the pools only. -/
theorem pool?_congr
    {before after : Database σ}
    (hPools : after.pools = before.pools)
    (target : Target) :
    after.pool? target = before.pool? target := by
  simp only [pools, List.cons.injEq] at hPools
  cases target with
  | primary => exact congrArg some hPools.1
  | replica index => simp [pool?, hPools.2]

/- Two changes of a pool are one. -/
theorem modifyPool_modifyPool
    (db : Database σ)
    (target : Target)
    (first second : Pool → Pool) :
    (db.modifyPool target first).modifyPool target second =
      db.modifyPool target (second ∘ first) := by
  cases target with
  | primary => rfl
  | replica index =>
      simp [modifyPool, List.modify_modify_eq]

/- The same change gives the same pools. -/
theorem pools_modifyPool_congr
    {before after : Database σ}
    (hPools : after.pools = before.pools)
    (target : Target)
    (change : Pool → Pool) :
    (after.modifyPool target change).pools =
      (before.modifyPool target change).pools := by
  simp only [pools, List.cons.injEq] at hPools
  cases target with
  | primary => simp [pools, modifyPool, hPools]
  | replica index => simp [pools, modifyPool, hPools]

/- Changing a pool is no event. -/
@[simp]
theorem history_modifyPool
    (db : Database σ)
    (target : Target)
    (change : Pool → Pool) :
    (db.modifyPool target change).history = db.history := by
  cases target <;> rfl

/- Changing a pool opens no connection. -/
@[simp]
theorem opened_modifyPool
    (db : Database σ)
    (target : Target)
    (change : Pool → Pool) :
    (db.modifyPool target change).opened = db.opened := by
  cases target <;> rfl

/- What is idle hangs on the pools only. -/
theorem idle_congr
    {before after : Database σ}
    (hPools : after.pools = before.pools) :
    after.idle = before.idle := by
  unfold idle
  rw [hPools]

------------------------------------------------------------
-- Open Connections
------------------------------------------------------------

/- Whether a connection was opened and not closed since. -/
def IsOpen (db : Database σ) (id : Nat) : Prop :=
  (∃ address, .opened address id ∈ db.history) ∧
    .closed id ∉ db.history

/- All connections that are idle or held. -/
def ids (db : Database σ) (share : Share) : List Nat :=
  db.idle.map Connection.id ++ share.held.map Tag.id

/-
  What was opened and what was closed between two states of
  a database.
-/
structure Lived
    (gone fresh : List Nat)
    (before after : Database σ) : Prop where
  counted : before.opened ≤ after.opened
  events :
    ∃ events : List Event,
      after.history = events ++ before.history ∧
        (∀ id,
          (∃ address, .opened address id ∈ events) ↔
          id ∈ fresh) ∧
        ∀ id, .closed id ∈ events ↔ id ∈ gone
  distinct : fresh.Nodup
  recent :
    ∀ id ∈ fresh,
      before.opened < id ∧ id ≤ after.opened

namespace Lived

/- Nothing is opened or closed. -/
theorem of_quiet
    {before after : Database σ}
    (hOpened : after.opened = before.opened)
    (events : List Event)
    (hHistory : after.history = events ++ before.history)
    (hEvents :
      ∀ event ∈ events,
        (∀ address id, event ≠ .opened address id) ∧
          ∀ id, event ≠ .closed id) :
    Lived [] [] before after := by
  refine ⟨Nat.le_of_eq hOpened.symm,
    ⟨events, hHistory, ?_, ?_⟩, .nil, by simp⟩
  · intro id
    constructor
    · rintro ⟨address, hEvent⟩
      exact absurd rfl ((hEvents _ hEvent).1 address id)
    · intro hNone
      cases hNone
  · intro id
    constructor
    · intro hEvent
      exact absurd rfl ((hEvents _ hEvent).2 id)
    · intro hNone
      cases hNone

theorem refl (db : Database σ) : Lived [] [] db db :=
  of_quiet rfl [] rfl (by simp)

/- Pools may be changed meanwhile. -/
theorem modified
    {gone fresh : List Nat}
    {before after : Database σ}
    (hLived : Lived gone fresh before after)
    (target : Target)
    (change : Pool → Pool) :
    Lived gone fresh before
      (after.modifyPool target change) := by
  refine ⟨?_, ?_, hLived.distinct, ?_⟩
  · rw [opened_modifyPool]
    exact hLived.counted
  · rw [history_modifyPool]
    exact hLived.events
  · rw [opened_modifyPool]
    exact hLived.recent

/- Where nothing happened, no connection came or went. -/
theorem of_history_eq
    {before after : Database σ}
    (hOpened : after.opened = before.opened)
    (hHistory : after.history = before.history) :
    Lived [] [] before after :=
  of_quiet hOpened [] hHistory (by simp)

/- Connections are closed, and nothing else happens. -/
theorem of_closings
    {before after : Database σ}
    {conns : List Connection}
    (hOpened : after.opened = before.opened)
    (hHistory :
      after.history =
        Event.closings conns ++ before.history) :
    Lived (conns.map Connection.id) [] before after := by
  refine ⟨Nat.le_of_eq hOpened.symm,
    ⟨Event.closings conns, hHistory, ?_, ?_⟩, .nil,
      by simp⟩
  · simp [Event.closings]
  · simp [Event.closings]

end Lived

/-
  The accounts of a database: every pool counts what clients
  have of it, and every open connection is idle or held, and
  is so once.
-/
structure Balanced
    (limit : Nat)
    (share : Share)
    (db : Database σ) : Prop where
  pools :
    ∀ target pool, db.pool? target = some pool →
      pool.Fits target limit share
  placed :
    ∀ tag ∈ share.held,
      (db.pool? tag.target).isSome = true
  distinct : (db.ids share).Nodup
  isOpen : ∀ id, db.IsOpen id ↔ id ∈ db.ids share
  opened :
    ∀ address id, .opened address id ∈ db.history →
      id ≤ db.opened
  closed : ∀ id, .closed id ∈ db.history →
    id ≤ db.opened

namespace Balanced

variable {limit : Nat} {given taken : Share}
variable {before after : Database σ}
variable {gone fresh kept : List Nat}

/- A connection that is idle or held was opened. -/
theorem id_le
    (hBalanced : before.Balanced limit given)
    {id : Nat}
    (hId : id ∈ before.ids given) :
    id ≤ before.opened := by
  rcases (hBalanced.isOpen id).2 hId with
    ⟨⟨address, hOpen⟩, -⟩
  exact hBalanced.opened address id hOpen

/-
  Open connections are idle or held after some were closed,
  which are so no longer, and others were opened.
-/
theorem lived
    (hBalanced : before.Balanced limit given)
    (hLived : before.Lived gone fresh after)
    (hBefore : (before.ids given).Perm (gone ++ kept))
    (hAfter : (after.ids taken).Perm (fresh ++ kept)) :
    (after.ids taken).Nodup ∧
      (∀ id,
        after.IsOpen id ↔ id ∈ after.ids taken) ∧
      (∀ address id,
        .opened address id ∈ after.history →
        id ≤ after.opened) ∧
      ∀ id, .closed id ∈ after.history →
        id ≤ after.opened := by
  rcases hLived.events with
    ⟨events, hHistory, hOpened, hClosed⟩
  have hCounted := hLived.counted
  have hNodup := hBefore.nodup_iff.1 hBalanced.distinct
  rw [List.nodup_append] at hNodup
  rcases hNodup with ⟨-, hKept, hApart⟩
  have hOld :
      ∀ id, id ∈ gone ∨ id ∈ kept →
        id ≤ before.opened := by
    intro id hId
    apply hBalanced.id_le
    rw [hBefore.mem_iff, List.mem_append]
    exact hId
  refine ⟨?_, ?_, ?_, ?_⟩
  · rw [hAfter.nodup_iff, List.nodup_append]
    refine ⟨hLived.distinct, hKept, ?_⟩
    rintro id hNew other hOther rfl
    have hRecent := (hLived.recent id hNew).1
    have hBound := hOld id (.inr hOther)
    omega
  · intro id
    rw [hAfter.mem_iff, List.mem_append]
    unfold IsOpen
    rw [hHistory]
    simp only [List.mem_append, exists_or, hOpened, hClosed,
      not_or]
    have hBeforeOpen := hBalanced.isOpen id
    rw [hBefore.mem_iff, List.mem_append] at hBeforeOpen
    unfold IsOpen at hBeforeOpen
    constructor
    · rintro ⟨hNew | hEarlier, hNotGone, hNever⟩
      · exact .inl hNew
      · right
        exact (hBeforeOpen.1
          ⟨hEarlier, hNever⟩).resolve_left hNotGone
    · rintro (hNew | hStill)
      · have hRecent := (hLived.recent id hNew).1
        refine ⟨.inl hNew, ?_, ?_⟩
        · intro hGone
          have hBound := hOld id (.inl hGone)
          omega
        · intro hEver
          have hBound := hBalanced.closed id hEver
          omega
      · rcases hBeforeOpen.2 (.inr hStill) with
          ⟨hEarlier, hNever⟩
        refine ⟨.inr hEarlier, ?_, hNever⟩
        intro hGone
        exact hApart id hGone id hStill rfl
  · intro address id hEvent
    rw [hHistory, List.mem_append] at hEvent
    rcases hEvent with hNew | hEarlier
    · have hFresh := (hOpened id).1 ⟨address, hNew⟩
      exact (hLived.recent id hFresh).2
    · exact Nat.le_trans
        (hBalanced.opened address id hEarlier) hCounted
  · intro id hEvent
    rw [hHistory, List.mem_append] at hEvent
    rcases hEvent with hNew | hEarlier
    · exact Nat.le_trans
        (hOld id (.inl ((hClosed id).1 hNew))) hCounted
    · exact Nat.le_trans (hBalanced.closed id hEarlier)
        hCounted

/-
  What is idle elsewhere is there beside what is idle in one
  pool and what clients have.
-/
theorem ids_perm
    {db : Database σ}
    {share : Share}
    {here rest : List Connection}
    {mine kept : List Nat}
    (hIdle : db.idle.Perm (here ++ rest))
    (hHere :
      (here.map Connection.id ++
        share.held.map Tag.id).Perm (mine ++ kept)) :
    (db.ids share).Perm
      (mine ++ (kept ++ rest.map Connection.id)) := by
  have hMap := hIdle.map Connection.id
  rw [List.map_append] at hMap
  have hMoved :
      (db.ids share).Perm
        (here.map Connection.id ++
          (share.held.map Tag.id ++
            rest.map Connection.id)) := by
    refine (hMap.append_right _).trans ?_
    rw [List.append_assoc]
    exact List.perm_append_comm.append_left _
  rw [← List.append_assoc] at hMoved
  rw [← List.append_assoc]
  exact hMoved.trans (hHere.append_right _)

/-
  The accounts are kept when one pool is changed,
  connections are opened and closed, and what clients have
  goes with it.  The connections of the other pools stay
  with what is kept.
-/
theorem changed
    (hBalanced : before.Balanced limit given)
    {target : Target}
    {pool : Pool}
    {change : Pool → Pool}
    (hPool : before.pool? target = some pool)
    (hPools :
      after.pools = (before.modifyPool target change).pools)
    (hLived : before.Lived gone fresh after)
    (hBefore :
      (pool.idle.map Connection.id ++
        given.held.map Tag.id).Perm (gone ++ kept))
    (hAfter :
      ((change pool).idle.map Connection.id ++
        taken.held.map Tag.id).Perm (fresh ++ kept))
    (hFits :
      pool.Fits target limit given →
        (change pool).Fits target limit taken)
    (hOthers :
      ∀ other, other ≠ target →
        taken.heldAt other = given.heldAt other ∧
          taken.openingAt other = given.openingAt other ∧
          taken.seatsAt other = given.seatsAt other)
    (hPlaced :
      ∀ tag ∈ taken.held,
        tag ∈ given.held ∨ tag.target = target) :
    after.Balanced limit taken := by
  have hGet :
      ∀ other, after.pool? other =
        if other = target then
          (before.pool? other).map change
        else before.pool? other := by
    intro other
    rw [pool?_congr hPools]
    exact before.pool?_modifyPool target other change
  rcases idle_modifyPool_perm hPool with ⟨rest, hRest⟩
  have hIdsBefore :
      (before.ids given).Perm
        (gone ++ (kept ++ rest.map Connection.id)) := by
    refine ids_perm ?_ hBefore
    simpa [modifyPool_id] using hRest id
  have hIdsAfter :
      (after.ids taken).Perm
        (fresh ++ (kept ++ rest.map Connection.id)) := by
    refine ids_perm ?_ hAfter
    rw [idle_congr hPools]
    exact hRest change
  rcases hBalanced.lived hLived hIdsBefore hIdsAfter with
    ⟨hDistinct, hOpen, hOpened, hClosed⟩
  refine ⟨?_, ?_, hDistinct, hOpen, hOpened, hClosed⟩
  · intro other found hFound
    rw [hGet] at hFound
    by_cases hSame : other = target
    · subst hSame
      rw [if_pos rfl, hPool, Option.map_some,
        Option.some_inj] at hFound
      subst hFound
      exact hFits (hBalanced.pools other pool hPool)
    · rw [if_neg hSame] at hFound
      have hOld := hBalanced.pools other found hFound
      rcases hOthers other hSame with
        ⟨hHeld, hOpening, hSeats⟩
      exact
        { hOld with
          held := by rw [hHeld]; exact hOld.held
          opening := by
            rw [hOpening, hSeats]
            exact hOld.opening
          room := by rw [hOpening]; exact hOld.room }
  · intro tag hTag
    rw [hGet]
    have hSome :
        (before.pool? tag.target).isSome = true := by
      rcases hPlaced tag hTag with hOld | hHere
      · exact hBalanced.placed tag hOld
      · rw [hHere, hPool]
        rfl
    split
    · simpa using hSome
    · exact hSome

/-
  The accounts are kept when nothing is opened or closed,
  and the pools and what is counted at them stay the same.
-/
theorem alike
    (hBalanced : before.Balanced limit given)
    (hPools : after.pools = before.pools)
    (hLived : before.Lived [] [] after)
    (hHeld : taken.held = given.held)
    (hCounts :
      ∀ target pool, before.pool? target = some pool →
        taken.openingAt target = given.openingAt target ∧
          taken.seatsAt target = given.seatsAt target) :
    after.Balanced limit taken := by
  have hIds : after.ids taken = before.ids given := by
    unfold ids
    rw [idle_congr hPools, hHeld]
  have hBefore :
      (before.ids given).Perm ([] ++ before.ids given) :=
    .refl _
  have hAfter :
      (after.ids taken).Perm ([] ++ before.ids given) := by
    rw [hIds]
    exact .refl _
  rcases hBalanced.lived hLived hBefore hAfter with
    ⟨hDistinct, hOpen, hOpened, hClosed⟩
  refine ⟨?_, ?_, hDistinct, hOpen, hOpened, hClosed⟩
  · intro target pool hPool
    rw [pool?_congr hPools] at hPool
    have hOld := hBalanced.pools target pool hPool
    rcases hCounts target pool hPool with
      ⟨hOpening, hSeats⟩
    exact
      { hOld with
        held := by
          unfold Share.heldAt
          rw [hHeld]
          exact hOld.held
        opening := by
          rw [hOpening, hSeats]
          exact hOld.opening
        room := by rw [hOpening]; exact hOld.room }
  · intro tag hTag
    rw [hHeld] at hTag
    rw [pool?_congr hPools]
    exact hBalanced.placed tag hTag

/- Nothing is counted at a place that has no pool. -/
theorem nowhere
    (hBalanced : before.Balanced limit given)
    {target : Target}
    (hPool : before.pool? target = none)
    (hHeld : taken.held = given.held)
    (hOthers :
      ∀ other, other ≠ target →
        taken.openingAt other = given.openingAt other ∧
          taken.seatsAt other = given.seatsAt other) :
    before.Balanced limit taken := by
  refine hBalanced.alike rfl (.refl before) hHeld ?_
  intro other pool hSome
  apply hOthers
  rintro rfl
  rw [hPool] at hSome
  cases hSome

/-
  The accounts are kept when one pool is changed that keeps
  its idle connections, and nothing is opened or closed.
-/
theorem recounted
    (hBalanced : before.Balanced limit given)
    {target : Target}
    {change : Pool → Pool}
    (hPools :
      after.pools = (before.modifyPool target change).pools)
    (hLived : before.Lived [] [] after)
    (hIdle : ∀ pool, (change pool).idle = pool.idle)
    (hHeld : taken.held = given.held)
    (hFits :
      ∀ pool, before.pool? target = some pool →
        pool.Fits target limit given →
          (change pool).Fits target limit taken)
    (hOthers :
      ∀ other, other ≠ target →
        taken.openingAt other = given.openingAt other ∧
          taken.seatsAt other = given.seatsAt other) :
    after.Balanced limit taken := by
  cases hPool : before.pool? target with
  | some pool =>
      refine hBalanced.changed hPool hPools hLived
        (.refl _) ?_ (hFits pool hPool) ?_ ?_
      · rw [hIdle, hHeld]
        exact .refl _
      · intro other hOther
        unfold Share.heldAt
        rw [hHeld]
        exact ⟨rfl, hOthers other hOther⟩
      · intro tag hTag
        rw [hHeld] at hTag
        exact .inl hTag
  | none =>
      rw [modifyPool_of_none hPool] at hPools
      apply hBalanced.alike hPools hLived hHeld
      intro other found hFound
      apply hOthers
      rintro rfl
      rw [hPool] at hFound
      cases hFound

/- It does not matter in which order shares are counted. -/
theorem reordered
    (hBalanced : before.Balanced limit given)
    (hSeats : taken.seats.Perm given.seats)
    (hWaiting : taken.waiting.Perm given.waiting)
    (hHeld : taken.held.Perm given.held) :
    before.Balanced limit taken := by
  have hIds : (before.ids taken).Perm (before.ids given) :=
    (hHeld.map Tag.id).append_left _
  refine ⟨?_, ?_, ?_, ?_, hBalanced.opened,
    hBalanced.closed⟩
  · intro target pool hPool
    have hOld := hBalanced.pools target pool hPool
    have hOpening :
        taken.openingAt target = given.openingAt target :=
      hWaiting.countP_eq _
    exact
      { hOld with
        held := hOld.held.trans (hHeld.countP_eq _).symm
        opening := by
          rw [hOpening, hOld.opening]
          exact congrArg _ (hSeats.count_eq target).symm
        room := by rw [hOpening]; exact hOld.room }
  · intro tag hTag
    exact hBalanced.placed tag (hHeld.mem_iff.1 hTag)
  · exact hIds.nodup_iff.2 hBalanced.distinct
  · intro id
    rw [hIds.mem_iff]
    exact hBalanced.isOpen id

/- Calls on a connection do not matter. -/
theorem apart
    {id : Nat}
    (hBalanced : before.Balanced limit given)
    (hApart : Apart id before after) :
    after.Balanced limit given := by
  rcases hApart.calls with ⟨events, hHistory, hCalls⟩
  refine hBalanced.alike hApart.pools
    (.of_quiet hApart.opened events hHistory ?_) rfl
    fun _ _ _ => ⟨rfl, rfl⟩
  intro event hEvent
  rcases hCalls event hEvent with ⟨call, fate, rfl⟩
  exact ⟨nofun, nofun⟩

/- A database that nobody has used yet. -/
theorem new
    (config : Config)
    (backend : Backend σ)
    (memory : σ) :
    (Database.new config backend memory).Balanced
      config.maxConnections .none := by
  have hPool :
      ∀ target pool,
        (Database.new config backend memory).pool? target =
            some pool →
          ∃ address,
            pool = .new target address
              config.maxConnections := by
    intro target pool hSome
    cases target with
    | primary =>
        cases hSome
        exact ⟨config.primary, rfl⟩
    | replica index =>
        simp only [pool?, Database.new,
          List.getElem?_mapIdx, Option.map_eq_some_iff]
          at hSome
        rcases hSome with ⟨address, -, rfl⟩
        exact ⟨address, rfl⟩
  have hIdle :
      (Database.new config backend memory).idle = [] :=
    World.idle_new config backend memory
  refine ⟨?_, List.forall_mem_nil _, ?_, ?_, ?_, ?_⟩
  · intro target pool hSome
    rcases hPool target pool hSome with ⟨address, rfl⟩
    refine ⟨rfl, rfl, List.forall_mem_nil _, rfl, rfl,
      Nat.zero_le _, Nat.zero_le _, ?_⟩
    intro hClosed
    cases hClosed
  · rw [ids, hIdle]
    exact .nil
  · intro id
    rw [ids, hIdle]
    constructor
    · rintro ⟨⟨address, hEvent⟩, -⟩
      cases hEvent
    · intro hNone
      cases hNone
  · intro _ _ hOpened
    cases hOpened
  · intro _ hEvent
    cases hEvent

end Balanced

end Database

end SqlAccess
