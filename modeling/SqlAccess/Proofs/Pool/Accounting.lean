import SqlAccess.Proofs.Pool.Balance

/-
  This file says what it means for an act to keep the
  accounts of the pools, and shows it of all that is done
  with places: they are reserved, waited for and given up,
  and an idle connection is taken for them or there is none.

  Key definitions include:
    * `Act.Accounts`

  Key theorems include:
    * `Act.Accounts.bind`
    * `Act.reserve_accounts`
    * `Act.take_accounts`
-/

namespace SqlAccess

variable {σ : Type}

------------------------------------------------------------
-- Acts That Keep the Accounts
------------------------------------------------------------

namespace Act

variable {α β : Type}

/-
  An act keeps the accounts: what its user has of the pools
  before and after it goes with what they count, whatever
  the others have.
-/
def Accounts
    (limit : Nat)
    (act : Act σ α)
    (given : Share)
    (taken : α → Share)
    (post : α → Prop) : Prop :=
  ∀ (others : Share) (db : Database σ),
    db.Balanced limit (given ++ others) →
      (act.run db).2.Balanced limit
          (taken (act.run db).1 ++ others) ∧
        post (act.run db).1

namespace Accounts

variable {limit : Nat} {given : Share}

/-
  What changes nothing keeps the accounts of what is given.
-/
theorem pure
    {a : α}
    {taken : α → Share}
    {post : α → Prop}
    (hTaken : taken a = given)
    (hPost : post a) :
    Accounts limit (pure a : Act σ α) given taken
      post := by
  intro others db hBalanced
  rw [← hTaken] at hBalanced
  exact ⟨hBalanced, hPost⟩

/- Accounts are kept from step to step. -/
theorem bind
    {act : Act σ α}
    {next : α → Act σ β}
    {mid : α → Share}
    {taken : β → Share}
    {seen : α → Prop}
    {post : β → Prop}
    (hAct : Accounts limit act given mid seen)
    (hNext :
      ∀ a, seen a →
        Accounts limit (next a) (mid a) taken post) :
    Accounts limit (act >>= next) given taken post := by
  intro others db hBalanced
  rcases hAct others db hBalanced with ⟨hMiddle, hSeen⟩
  exact hNext _ hSeen others _ hMiddle

/- More may be said of a result than is needed. -/
theorem mono
    {act : Act σ α}
    {taken : α → Share}
    {post also : α → Prop}
    (hAct : Accounts limit act given taken post)
    (hAlso : ∀ a, post a → also a) :
    Accounts limit act given taken also := by
  intro others db hBalanced
  rcases hAct others db hBalanced with ⟨hAfter, hPost⟩
  exact ⟨hAfter, hAlso _ hPost⟩

/- The rest of an act goes on from a state in balance. -/
theorem of_get
    {next : Database σ → Act σ α}
    {taken : α → Share}
    {post : α → Prop}
    (hNext :
      ∀ (others : Share) (db : Database σ),
        db.Balanced limit (given ++ others) →
          ((next db).run db).2.Balanced limit
              (taken ((next db).run db).1 ++ others) ∧
            post ((next db).run db).1) :
    Accounts limit (get >>= next) given taken post :=
  fun others db hBalanced => hNext others db hBalanced

end Accounts

/-
  An act that leaves the pools and the connections alone.
-/
theorem accounts_of_same
    {limit : Nat}
    {act : Act σ α}
    (hPools :
      ∀ db : Database σ, (act.run db).2.pools = db.pools)
    (hLived :
      ∀ db : Database σ, db.Lived [] [] (act.run db).2)
    (given : Share) :
    Accounts limit act given (fun _ => given)
      fun _ => True := by
  intro others db hBalanced
  exact ⟨hBalanced.alike (hPools db) (hLived db) rfl
    fun _ _ _ => ⟨rfl, rfl⟩, trivial⟩

section Parts

variable {limit : Nat} (target : Target)

/- One act after another. -/
theorem bind_run
    {α β : Type}
    (act : Act σ α)
    (next : α → Act σ β)
    (db : Database σ) :
    (act >>= next).run db =
      (next (act.run db).1).run (act.run db).2 :=
  rfl

/-
  A change of what one pool counts, apart from connections.
-/
theorem modifyPool_accounts
    {change : Pool → Pool}
    {given taken : Share}
    (hIdle : ∀ pool, (change pool).idle = pool.idle)
    (hHeld : taken.held = given.held)
    (hFits :
      ∀ others pool,
        pool.Fits target limit (given ++ others) →
        (change pool).Fits target limit (taken ++ others))
    (hOthers :
      ∀ other, other ≠ target →
        taken.openingAt other = given.openingAt other ∧
          taken.seatsAt other = given.seatsAt other) :
    Accounts limit
      (modifyPool target change : Act σ Unit) given
      (fun _ => taken) fun _ => True := by
  intro others db hBalanced
  refine ⟨?_, trivial⟩
  refine hBalanced.recounted rfl
    ((Database.Lived.refl db).modified target change)
    hIdle ?_ (fun pool _ => hFits others pool) ?_
  · simp [hHeld]
  · intro other hOther
    rcases hOthers other hOther with ⟨hOpening, hSeats⟩
    simp [hOpening, hSeats]

/- A user who waits for a place counts for nothing yet. -/
theorem enqueue_accounts (mayFallBack : Bool) :
    Accounts limit
      (modifyPool target Pool.enqueue : Act σ Unit) .none
      (fun _ => .wait ⟨target, .forPlace, mayFallBack⟩)
      fun _ => True := by
  apply modifyPool_accounts
  · intro pool
    rfl
  · rfl
  · intro others pool hFits
    exact
      { hFits with
        held := by simpa [Pool.enqueue] using hFits.held
        opening :=
          by simpa [Pool.enqueue] using hFits.opening
        room := by simpa [Pool.enqueue] using hFits.room }
  · simp

/-
  A client who leaves the queue has nothing more to do with
  a place.
-/
theorem dequeue_accounts (mayFallBack : Bool) :
    Accounts limit
      (modifyPool target Pool.dequeue : Act σ Unit)
      (.wait ⟨target, .forPlace, mayFallBack⟩)
      (fun _ => .none) fun _ => True := by
  apply modifyPool_accounts
  · intro pool
    rfl
  · rfl
  · intro others pool hFits
    exact
      { hFits with
        held := by simpa [Pool.dequeue] using hFits.held
        opening :=
          by simpa [Pool.dequeue] using hFits.opening
        room := by simpa [Pool.dequeue] using hFits.room }
  · simp

/- A place that is given up is free at once. -/
theorem abandon_accounts (mayFallBack : Bool) :
    Accounts limit
      (modifyPool target Pool.abandon : Act σ Unit)
      (.wait ⟨target, .forConnection, mayFallBack⟩)
      (fun _ => .none) fun _ => True := by
  apply modifyPool_accounts
  · intro pool
    rfl
  · rfl
  · intro others pool hFits
    have hOpening := hFits.opening
    have hSeats := hFits.seats
    have hRoom := hFits.room
    simp only [Share.openingAt_append, Share.openingAt_wait,
      Share.seatsAt_append, Share.seatsAt_wait, if_true,
      and_self] at hOpening hRoom
    refine
      { hFits with
        held := by simpa [Pool.abandon] using hFits.held
        opening := ?_
        seats := ?_
        room := ?_ }
    · simp only [Pool.abandon, Share.none_append]
      omega
    · simp only [Pool.abandon]
      omega
    · simp only [Pool.abandon, Share.none_append]
      omega
  · simp +contextual [Ne.symm]

end Parts

end Act

------------------------------------------------------------
-- Places
------------------------------------------------------------

/-
  A place is reserved if fewer are taken than there may be.
-/
theorem Pool.reserve_ok
    {pool reserved : Pool}
    (hReserve : pool.reserve = .ok reserved) :
    reserved = { pool with opening := pool.opening + 1 } ∧
      pool.held + pool.opening < pool.limit := by
  unfold Pool.reserve at hReserve
  split at hReserve
  · cases hReserve
  · split at hReserve
    case isTrue hRoom =>
      cases hReserve
      exact ⟨rfl, hRoom⟩
    case isFalse => cases hReserve

/- The idle connections in front of the first usable one. -/
theorem Pool.idle_eq_reuse (pool : Pool) :
    pool.idle =
      pool.reuse.spoiled ++ pool.reuse.found.toList
        ++ pool.reuse.pool.idle := by
  have hSplit :
      pool.idle.takeWhile (fun conn => !conn.isUsable) ++
        pool.idle.dropWhile (fun conn => !conn.isUsable) =
        pool.idle :=
    List.takeWhile_append_dropWhile
  rw [reuse_eq]
  generalize
    pool.idle.dropWhile (fun conn => !conn.isUsable) = rest
      at hSplit
  cases rest <;> simpa using hSplit.symm

/-
  If none may be used, all idle connections are in front.
-/
theorem Pool.spoiled_of_none
    {pool : Pool}
    (hFound : pool.reuse.found = none) :
    pool.reuse.spoiled = pool.idle ∧
      pool.reuse.pool.idle = [] := by
  have hIdle := pool.idle_eq_reuse
  have hRest : pool.reuse.pool.idle = [] := by
    simp only [reuse_eq] at hFound ⊢
    rw [List.head?_eq_none_iff] at hFound
    rw [hFound, List.tail_nil]
  rw [hFound, hRest] at hIdle
  simp at hIdle
  exact ⟨hIdle.symm, hRest⟩

/- Taking an idle connection is counted by its user. -/
@[simp]
theorem Pool.reuse_held (pool : Pool) :
    pool.reuse.pool.held = pool.held :=
  rfl

/- Taking an idle connection opens none. -/
@[simp]
theorem Pool.reuse_opening (pool : Pool) :
    pool.reuse.pool.opening = pool.opening :=
  rfl

namespace Database

namespace Balanced

variable {limit : Nat} {others : Share} {db : Database σ}
variable {target : Target} {pool : Pool}

/- One more user has a place, if one was free. -/
theorem reserved
    (hBalanced : db.Balanced limit others)
    (hPool : db.pool? target = some pool)
    (hRoom : pool.held + pool.opening < pool.limit) :
    (db.modifyPool target fun _ =>
      { pool with
        opening := pool.opening + 1 }).Balanced limit
        (.seat target ++ others) := by
  have hLived :=
    (Lived.refl db).modified target fun _ =>
      { pool with opening := pool.opening + 1 }
  refine hBalanced.changed hPool rfl hLived (.refl _)
    (.refl _)
    ?_ ?_ ?_
  · intro hFits
    have hOpening := hFits.opening
    have hLimit := hFits.bounded
    refine
      { hFits with
        held := by simpa using hFits.held
        opening := ?_
        seats := ?_
        room := by simpa using hFits.room }
    · simp only [Share.openingAt_append,
        Share.openingAt_seat, Share.seatsAt_append,
        Share.seatsAt_seat, if_true]
      omega
    · simp only
      omega
  · simp +contextual [Ne.symm]
  · intro tag hTag
    exact .inl hTag

/- What is found in the pool of a place leads there. -/
theorem found_target
    {share : Share}
    (hBalanced : db.Balanced limit share)
    (hPool : db.pool? target = some pool)
    {conn : Connection}
    (hFound : pool.reuse.found = some conn) :
    conn.target = target := by
  apply (hBalanced.pools target pool hPool).own
  rw [pool.idle_eq_reuse, hFound]
  simp

/-
  A user with a place takes the first idle connection that
  may be used; those in front of it are closed.
-/
theorem reused
    (hBalanced : db.Balanced limit (.seat target ++ others))
    (hPool : db.pool? target = some pool)
    {conn : Connection}
    (hFound : pool.reuse.found = some conn)
    {after : Database σ}
    (hPools :
      after.pools =
        (db.modifyPool target fun _ =>
          pool.reuse.pool.deliver).pools)
    (hOpened : after.opened = db.opened)
    (hHistory :
      after.history =
        Event.closings pool.reuse.spoiled ++ db.history) :
    after.Balanced limit (.hold conn ++ others) := by
  have hIdle := pool.idle_eq_reuse
  rw [hFound, Option.toList_some] at hIdle
  have hConn := hBalanced.found_target hPool hFound
  let rest := pool.reuse.pool.idle.map Connection.id
  have hBefore :
      (pool.idle.map Connection.id ++
        (Share.seat target ++ others).held.map Tag.id).Perm
        (pool.reuse.spoiled.map Connection.id ++
          conn.id :: (rest ++ others.held.map Tag.id)) := by
    rw [hIdle]
    simp [rest, Share.seat]
  refine hBalanced.changed hPool hPools
    (.of_closings hOpened hHistory) hBefore ?_ ?_ ?_ ?_
  · exact List.perm_middle
  · intro hFits
    have hLength := congrArg List.length hIdle
    have hHeld := hFits.held
    have hOpening := hFits.opening
    have hSeats := hFits.seats
    have hRoom := hFits.room
    simp only [List.length_append, List.length_singleton,
      Share.heldAt_append, Share.heldAt_seat,
      Share.openingAt_append, Share.openingAt_seat,
      Share.seatsAt_append, Share.seatsAt_seat,
      if_true] at hLength hHeld hOpening hRoom
    refine ⟨hFits.place, hFits.bounded, ?_, ?_, ?_, ?_,
      ?_, ?_⟩
    · intro left hLeft
      apply hFits.own
      rw [hIdle]
      exact List.mem_append_right _ hLeft
    · simp only [Share.heldAt_append, Share.heldAt_hold,
        hConn, if_true, Pool.deliver, Pool.reuse_held]
      omega
    · simp only [Share.openingAt_append,
        Share.openingAt_hold, Share.seatsAt_append,
        Share.seatsAt_hold, Pool.deliver,
        Pool.reuse_opening]
      omega
    · simp only [Pool.deliver, Pool.reuse_held,
        Pool.reuse_opening]
      omega
    · simp only [Share.openingAt_append,
        Share.openingAt_hold, Pool.deliver, Pool.reuse_held]
      omega
    · intro hClosed
      have hEmpty := hFits.empty hClosed
      rw [hIdle] at hEmpty
      simp at hEmpty
  · intro other hOther
    simp [hConn, Ne.symm hOther]
  · intro tag hTag
    rcases List.mem_cons.1 hTag with rfl | hOld
    · exact .inr hConn
    · exact .inl hOld

/-
  A user with a place finds no idle connection that may be
  used, and all are closed.  One will be opened.
-/
theorem cleared
    (hBalanced : db.Balanced limit (.seat target ++ others))
    (hPool : db.pool? target = some pool)
    (hFound : pool.reuse.found = none)
    {after : Database σ}
    (hPools :
      after.pools =
        (db.modifyPool target fun _ =>
          pool.reuse.pool).pools)
    (hOpened : after.opened = db.opened)
    (hHistory :
      after.history =
        Event.closings pool.reuse.spoiled ++ db.history)
    (mayFallBack : Bool) :
    after.Balanced limit
      (.wait ⟨target, .forConnection, mayFallBack⟩ ++
        others) := by
  rcases pool.spoiled_of_none hFound with ⟨hAll, hNone⟩
  have hBefore :
      (pool.idle.map Connection.id ++
        (Share.seat target ++ others).held.map Tag.id).Perm
        (pool.reuse.spoiled.map Connection.id ++
          others.held.map Tag.id) := by
    rw [hAll]
    exact .refl _
  refine hBalanced.changed hPool hPools
    (.of_closings hOpened hHistory) hBefore ?_ ?_ ?_ ?_
  · rw [hNone]
    exact .refl _
  · intro hFits
    have hHeld := hFits.held
    have hOpening := hFits.opening
    have hSeats := hFits.seats
    simp only [Share.heldAt_append, Share.heldAt_seat,
      Share.openingAt_append, Share.openingAt_seat,
      Share.seatsAt_append, Share.seatsAt_seat,
      if_true] at hHeld hOpening
    refine ⟨hFits.place, hFits.bounded, ?_, ?_, ?_,
      hSeats, ?_, fun _ => hNone⟩
    · simp [hNone]
    · simpa using hHeld
    · simp only [Share.openingAt_append,
        Share.openingAt_wait, Share.seatsAt_append,
        Share.seatsAt_wait, and_self, if_true,
        Pool.reuse_opening]
      omega
    · simp only [Share.openingAt_append,
        Share.openingAt_wait, and_self, if_true, hNone,
        List.length_nil, Pool.reuse_held]
      omega
  · intro other hOther
    simp [Ne.symm hOther]
  · intro tag hTag
    exact .inl hTag

/-
  A connection is opened for a user who has a place, and is
  delivered.
-/
theorem delivered
    {mayFallBack : Bool}
    (hBalanced :
      db.Balanced limit
        (.wait ⟨target, .forConnection, mayFallBack⟩ ++
          others))
    (hPool : db.pool? target = some pool)
    {link : Link}
    {after : Database σ}
    (hPools :
      after.pools =
        (db.modifyPool target Pool.deliver).pools)
    (hLived : db.Lived [] [link.id] after) :
    after.Balanced limit
      (.hold (.new link target) ++ others) := by
  refine hBalanced.changed hPool hPools hLived
    (.refl _) ?_ ?_ ?_
    ?_
  · exact List.perm_middle
  · intro hFits
    have hHeld := hFits.held
    have hOpening := hFits.opening
    have hSeats := hFits.seats
    have hRoom := hFits.room
    simp only [Share.heldAt_append, Share.heldAt_wait,
      Share.openingAt_append, Share.openingAt_wait,
      Share.seatsAt_append, Share.seatsAt_wait, and_self,
      if_true] at hHeld hOpening hRoom
    refine ⟨hFits.place, hFits.bounded, hFits.own, ?_,
      ?_, ?_, ?_, hFits.empty⟩
    · simp only [Share.heldAt_append, Share.heldAt_hold,
        Connection.new, if_true, Pool.deliver]
      omega
    · simp only [Share.openingAt_append,
        Share.openingAt_hold, Share.seatsAt_append,
        Share.seatsAt_hold, Pool.deliver]
      omega
    · simp only [Pool.deliver]
      omega
    · simp only [Share.openingAt_append,
        Share.openingAt_hold, Pool.deliver]
      omega
  · intro other hOther
    simp [Connection.new, Ne.symm hOther]
  · intro tag hTag
    rcases List.mem_cons.1 hTag with rfl | hOld
    · exact .inr rfl
    · exact .inl hOld

end Balanced

end Database

namespace Act

variable {limit : Nat} (target : Target)

/- A place is reserved where there is one. -/
theorem reserve_accounts :
    Accounts limit
      (reserve target :
        Act σ (Except Pool.Refusal Unit)) .none
      (fun reserved =>
        match reserved with
        | .ok _ => .seat target
        | .error _ => .none)
      fun _ => True := by
  apply Accounts.of_get
  intro others db hBalanced
  cases hPool : db.pool? target with
  | none => exact ⟨hBalanced, trivial⟩
  | some pool =>
      cases hReserve : pool.reserve with
      | error refusal =>
          simp only [hReserve]
          exact ⟨hBalanced, trivial⟩
      | ok reserved =>
          simp only [hReserve]
          rcases Pool.reserve_ok hReserve with
            ⟨rfl, hRoom⟩
          exact ⟨hBalanced.reserved hPool hRoom,
            trivial⟩

/-
  Connections that are destroyed are closed, and that is
  all.
-/
theorem destroy_closes
    (conns : List Connection)
    (db : Database σ) :
    let after := ((destroy conns).run db).2
    after.pools = db.pools ∧
      after.opened = db.opened ∧
      after.history =
        Event.closings conns ++ db.history := by
  change
    let after :=
      conns.foldl
        (fun db conn => db.record (.closed conn.link.id)) db
    after.pools = db.pools ∧
      after.opened = db.opened ∧
      after.history = Event.closings conns ++ db.history
  induction conns generalizing db with
  | nil => exact ⟨rfl, rfl, rfl⟩
  | cons conn rest ih =>
      rcases ih (db.record (.closed conn.link.id)) with
        ⟨hPools, hOpened, hHistory⟩
      refine ⟨hPools, hOpened, hHistory.trans ?_⟩
      simp [Event.closings, Database.record, Connection.id]

/- A pool is changed, and then connections are destroyed. -/
theorem destroy_modified
    (conns : List Connection)
    (db : Database σ)
    (change : Pool → Pool) :
    let changed := db.modifyPool target change
    let after := ((destroy conns).run changed).2
    after.pools = changed.pools ∧
      after.opened = db.opened ∧
      after.history =
        Event.closings conns ++ db.history := by
  intro changed after
  rcases destroy_closes conns changed with
    ⟨hPools, hOpened, hHistory⟩
  refine ⟨hPools, ?_, ?_⟩
  · exact hOpened.trans
      (db.opened_modifyPool target change)
  · rw [← db.history_modifyPool target change]
    exact hHistory

/- A user with a place takes an idle connection, or none. -/
theorem take_accounts (mayFallBack : Bool) :
    Accounts limit
      (take target : Act σ (Option Connection))
      (.seat target)
      (fun found =>
        match found with
        | some conn => .hold conn
        | none =>
            .wait ⟨target, .forConnection, mayFallBack⟩)
      fun found =>
        ∀ conn ∈ found, conn.target = target := by
  intro others db hBalanced
  unfold take StateT.run
  rw [get_bind_run]
  cases hPool : db.pool? target with
  | none =>
      have hNowhere :
          db.Balanced limit
            (.wait
              ⟨target, .forConnection, mayFallBack⟩ ++
              others) := by
        refine hBalanced.nowhere hPool rfl ?_
        simp +contextual [Ne.symm]
      exact ⟨hNowhere, nofun⟩
  | some pool =>
      rcases destroy_modified target pool.reuse.spoiled db
          (fun _ => pool.reuse.pool) with
        ⟨hPools, hOpened, hHistory⟩
      dsimp only
      cases hFound : pool.reuse.found with
      | none =>
          exact
            ⟨hBalanced.cleared hPool hFound hPools hOpened
            hHistory mayFallBack, nofun⟩
      | some conn =>
          refine
            ⟨hBalanced.reused hPool hFound ?_ ?_ ?_, ?_⟩
          · refine
              (Database.pools_modifyPool_congr hPools target
              Pool.deliver).trans ?_
            rw [Database.modifyPool_modifyPool]
            rfl
          · exact
              (Database.opened_modifyPool _ target _).trans
              hOpened
          · exact
              (Database.history_modifyPool _ target _).trans
              hHistory
          · rintro _ ⟨⟩
            exact hBalanced.found_target hPool hFound

end Act

end SqlAccess
