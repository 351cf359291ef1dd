import SqlAccess.Proofs.Pool.Accounting

/-
  This file shows that the accounts of the pools are kept by
  every part of a checkout, by every way to give a
  connection back, and when the database is closed.

  Key definitions include:
    * `Progress.share`
    * `Progress.LeadsTo`
    * `Waiter.StaysAt`

  Key theorems include:
    * `Act.seat_accounts`
    * `Waiter.begin_accounts`
    * `Waiter.proceed_accounts`
    * `Act.release_accounts`
    * `Act.close_accounts`
-/

namespace SqlAccess

variable {σ : Type}

------------------------------------------------------------
-- Checkouts
------------------------------------------------------------

/- What a user has of the pools after a checkout. -/
def Share.ofResult : Except Error Connection → Share
  | .ok conn => .hold conn
  | .error _ => .none

namespace Progress

/-
  What a user has of the pools after a part of a checkout.
-/
def share
    (target : Target)
    (mayFallBack : Bool) : Progress → Share
  | paused pause => .wait ⟨target, pause, mayFallBack⟩
  | finished result => .ofResult result

/- Only connections to one place are handed out. -/
def LeadsTo
    (target : Target)
    (progress : Progress) :
    Prop :=
  ∀ conn ∈ progress.handed, conn.target = target

end Progress

namespace Act

variable {limit : Nat}
variable (target : Target)
variable (mayFallBack : Bool)

/- Who gives up has nothing in the accounts. -/
theorem giveUp_accounts :
    Accounts limit (giveUp target : Act σ Progress) .none
      (Progress.share target mayFallBack)
      (Progress.LeadsTo target) :=
  fun _ _ hBalanced =>
    ⟨hBalanced, List.forall_mem_nil _⟩

/- Who waits has a place in the queue. -/
theorem queueUp_accounts :
    Accounts limit (queueUp target : Act σ Progress) .none
      (Progress.share target mayFallBack)
      (Progress.LeadsTo target) := by
  apply Accounts.of_get
  intro others db
  by_cases hWait : db.config.checkoutMillis = 0
  · simp only [hWait, if_true]
    exact giveUp_accounts target mayFallBack others db
  · simp only [hWait, if_false]
    have hQueue :
        Accounts limit
          (do
            modifyPool target Pool.enqueue
            return .paused .forPlace :
              Act σ Progress) .none
          (Progress.share target mayFallBack)
          (Progress.LeadsTo target) :=
      (enqueue_accounts target mayFallBack).bind
        fun _ _ => .pure rfl (List.forall_mem_nil _)
    exact hQueue others db

/- A place is taken if there is one. -/
theorem seat_accounts
    {whenFull : Act σ Progress}
    (hFull :
      Accounts limit whenFull .none
        (Progress.share target mayFallBack)
        (Progress.LeadsTo target)) :
    Accounts limit (seat target whenFull) .none
      (Progress.share target mayFallBack)
      (Progress.LeadsTo target) := by
  apply (reserve_accounts target).bind
  intro reserved _
  cases reserved with
  | ok _ =>
      apply (take_accounts target mayFallBack).bind
      intro found hFound
      cases found with
      | some conn =>
          refine .pure rfl ?_
          intro other hOther
          rw [Progress.handed, handed_ok,
            List.mem_singleton] at hOther
          rw [hOther]
          exact hFound conn rfl
      | none => exact .pure rfl (List.forall_mem_nil _)
  | error refusal =>
      cases refusal with
      | closed => exact .pure rfl (List.forall_mem_nil _)
      | full => exact hFull

/-
  Who comes in is accounted for as served, waiting or
  refused.
-/
theorem enter_accounts :
    Accounts limit (enter target : Act σ Progress) .none
      (Progress.share target mayFallBack)
      (Progress.LeadsTo target) :=
  seat_accounts target mayFallBack
    (queueUp_accounts target mayFallBack)

/- Who is woken leaves the queue for a place. -/
theorem wake_accounts :
    Accounts limit (wake target : Act σ Progress)
      (.wait ⟨target, .forPlace, mayFallBack⟩)
      (Progress.share target mayFallBack)
      (Progress.LeadsTo target) := by
  apply (dequeue_accounts target mayFallBack).bind
  intro _ _
  exact seat_accounts target mayFallBack
    (giveUp_accounts target mayFallBack)

/- A connection that is opened has a number of its own. -/
theorem connect_lived
    (address : String)
    (db : Database σ) :
    let (reply, after) := (connect address).run db
    after.pools = db.pools ∧
      db.Lived []
        (match reply with
          | .done link => [link.id]
          | _ => [])
        after := by
  rcases hReply : db.backend.connect address db.memory with
    ⟨reply, memory⟩
  cases reply with
  | done answer =>
      rw [connect_run_done hReply]
      refine ⟨rfl, Nat.le_succ _,
        ⟨[.opened address (db.opened + 1),
        .connecting address .done], rfl, ?_,
        ?_⟩, ?_, ?_⟩
      · simp
      · simp
      · simp
      · simp
  | failed e =>
      rw [connect_run_failed hReply]
      refine ⟨rfl, .of_quiet rfl
        [.connecting address (.failed e)] rfl ?_⟩
      simp
  | silent =>
      rw [connect_run_silent hReply]
      refine ⟨rfl, .of_quiet rfl
        [.connecting address .silent] rfl ?_⟩
      simp

/- An opening takes up a place until it ends. -/
theorem openNew_accounts :
    Accounts limit (openNew target : Act σ Progress)
      (.wait ⟨target, .forConnection, mayFallBack⟩)
      (Progress.share target mayFallBack)
      (Progress.LeadsTo target) := by
  apply Accounts.of_get
  intro others db hBalanced
  cases hPool : db.pool? target with
  | none =>
      have hNowhere :
          db.Balanced limit (.none ++ others) := by
        refine hBalanced.nowhere hPool rfl ?_
        simp +contextual [Ne.symm]
      exact ⟨hNowhere, List.forall_mem_nil _⟩
  | some pool =>
      have hConnect := connect_lived pool.address db
      dsimp only
      rw [bind_run]
      rcases hRun : (connect pool.address).run db with
        ⟨reply, after⟩
      rw [hRun] at hConnect
      rcases hConnect with ⟨hPools, hLived⟩
      cases reply with
      | done link =>
          refine ⟨hBalanced.delivered hPool ?_
            (hLived.modified target Pool.deliver), ?_⟩
          · exact Database.pools_modifyPool_congr hPools
              target Pool.deliver
          · intro conn hConn
            cases List.mem_singleton.1 hConn
            rfl
      | failed e =>
          have hAfter :=
            hBalanced.alike hPools hLived rfl
              fun _ _ _ => ⟨rfl, rfl⟩
          have hAbandon :=
            abandon_accounts target mayFallBack others after
              hAfter
          exact ⟨hAbandon.1, List.forall_mem_nil _⟩
      | silent =>
          exact ⟨hBalanced.alike hPools hLived rfl
            fun _ _ _ => ⟨rfl, rfl⟩,
              List.forall_mem_nil _⟩

/-
  A connection that does not open in time is not waited for.
-/
theorem outlastConnect_accounts :
    Accounts limit
      (outlastConnect target :
        Act σ (Except Error Connection))
      (.wait ⟨target, .forConnection, mayFallBack⟩)
      Share.ofResult
      (fun result => handed result = []) := by
  apply (abandon_accounts target mayFallBack).bind
  intro _ _ others db hBalanced
  exact ⟨hBalanced, rfl⟩

theorem markReplicaDown_accounts (given : Share) :
    Accounts limit
      (markReplicaDown target : Act σ Unit) given
      (fun _ => given) fun _ => True := by
  apply accounts_of_same
  · intro db
    cases target <;> rfl
  · intro db
    cases target <;> exact .of_history_eq rfl rfl

/- Choosing a place takes up none. -/
theorem pick_accounts
    (intent : Intent)
    (inTransaction : Bool)
    (given : Share) :
    Accounts limit
      (pick intent inTransaction : Act σ Target)
      given (fun _ => given) fun _ => True := by
  apply accounts_of_same
  · intro db
    rfl
  · intro db
    exact .of_history_eq rfl rfl

end Act

/- A checkout of the primary stays there. -/
theorem World.Demand.choose_accounts
    {limit : Nat}
    (demand : World.Demand) :
    Act.Accounts limit
      (demand.choose : Act σ (Target × Bool)) .none
      (fun _ => .none)
      fun chosen =>
        demand = .role .primary →
          chosen = (.primary, false) := by
  cases demand with
  | target place => exact .pure rfl nofun
  | role wanted =>
      cases wanted with
      | primary => exact .pure rfl fun _ => rfl
      | replica =>
          exact (Act.pick_accounts .read false .none).bind
            fun _ _ => .pure rfl nofun
  | routed intent inTransaction =>
      exact
        (Act.pick_accounts intent inTransaction .none).bind
        fun _ _ => .pure rfl nofun

namespace Waiter

variable {limit : Nat}

/- What a user has of the pools when a checkout goes on. -/
def share :
    Except Waiter (Except Error Connection) → Share
  | .error waiter => .wait waiter
  | .ok result => .ofResult result

/-
  A checkout stays at one place, or it falls back to the
  primary if it may.
-/
def StaysAt
    (target : Target)
    (mayFallBack : Bool)
    (answer : Except Waiter (Except Error Connection)) :
    Prop :=
  let near := fun place =>
    place = target ∨ mayFallBack = true ∧
      place = .primary
  (∀ waiter, answer = .error waiter →
    near waiter.target ∧
      (waiter.mayFallBack = true →
        mayFallBack = true)) ∧
    ∀ conn ∈ handed answer, near conn.target

/-
  A client who still waits does so at one of these places.
-/
theorem staysAt_waiting
    {target : Target}
    {mayFallBack : Bool}
    {waiter : Waiter}
    (hNear :
      waiter.target = target ∨
        mayFallBack = true ∧ waiter.target = .primary)
    (hMay :
      waiter.mayFallBack = true → mayFallBack = true) :
    StaysAt target mayFallBack (.error waiter) := by
  refine ⟨?_, List.forall_mem_nil _⟩
  rintro _ ⟨⟩
  exact ⟨hNear, hMay⟩

/- What a checkout ends with is from one of these places. -/
theorem staysAt_ended
    {target : Target}
    {mayFallBack : Bool}
    {result : Except Error Connection}
    (hNear :
      ∀ conn ∈ SqlAccess.handed result,
        conn.target = target ∨
          mayFallBack = true ∧ conn.target = .primary) :
    StaysAt target mayFallBack (.ok result) := by
  refine ⟨?_, hNear⟩
  rintro _ ⟨⟩

/-
  A checkout that goes on takes up a place where it comes
  to.
-/
theorem resume_accounts
    (target : Target)
    (mayFallBack : Bool)
    {progress : Progress}
    (hLeads : progress.LeadsTo target) :
    Act.Accounts limit
      (resume target mayFallBack progress :
        Act σ (Except Waiter (Except Error Connection)))
      (progress.share target mayFallBack) share
      (StaysAt target mayFallBack) := by
  cases progress with
  | paused pause =>
      exact .pure rfl (staysAt_waiting (.inl rfl) id)
  | finished result =>
      simp only [resume]
      cases hFalls :
        mayFallBack && Act.fallsBack target result with
      | true =>
          rw [Bool.and_eq_true] at hFalls
          have hNone : Share.ofResult result = .none := by
            cases result with
            | ok conn => cases hFalls.2
            | error e => rfl
          rw [Progress.share, hNone]
          apply
            (Act.markReplicaDown_accounts target .none).bind
          intro _ _
          apply (Act.enter_accounts .primary false).bind
          intro progress hPrimary
          cases progress with
          | paused pause =>
              refine .pure rfl
                (staysAt_waiting
                  (.inr ⟨hFalls.1, rfl⟩) ?_)
              intro hMay
              cases hMay
          | finished result =>
              refine .pure rfl (staysAt_ended ?_)
              intro conn hConn
              exact .inr ⟨hFalls.1, hPrimary conn hConn⟩
      | false =>
          refine .pure rfl (staysAt_ended ?_)
          intro conn hConn
          exact .inl (hLeads conn hConn)

/-
  A checkout that begins takes up a place or waits for one.
-/
theorem begin_accounts (demand : World.Demand) :
    Act.Accounts limit
      (begin demand :
        Act σ (Except Waiter (Except Error Connection)))
      .none share
      (fun answer =>
        demand = .role .primary →
          StaysAt .primary false answer)
    := by
  apply demand.choose_accounts.bind
  rintro ⟨target, mayFallBack⟩ hChosen
  apply (Act.enter_accounts target mayFallBack).bind
  intro progress hLeads
  apply (resume_accounts target mayFallBack hLeads).mono
  intro answer hStays hPrimary
  cases hChosen hPrimary
  exact hStays

/- A checkout that waits goes on with what it has. -/
theorem proceed_accounts
    (waiter : Waiter)
    (inTime : Bool) :
    Act.Accounts limit
      (waiter.proceed inTime :
        Act σ (Except Waiter (Except Error Connection)))
      (.wait waiter) share
      (StaysAt waiter.target waiter.mayFallBack) := by
  rcases waiter with ⟨target, pause, mayFallBack⟩
  unfold proceed
  cases pause with
  | forPlace =>
      exact (Act.wake_accounts target mayFallBack).bind
        fun progress hLeads =>
          resume_accounts target mayFallBack hLeads
  | forConnection =>
      cases inTime with
      | true =>
          exact
            (Act.openNew_accounts target mayFallBack).bind
            fun progress hLeads =>
              resume_accounts target mayFallBack hLeads
      | false =>
          apply
            (Act.outlastConnect_accounts target
              mayFallBack).bind
          intro result hNone
          have hLeads :
              (Progress.finished result).LeadsTo
                target := by
            rw [Progress.LeadsTo, Progress.handed, hNone]
            exact List.forall_mem_nil _
          exact resume_accounts target mayFallBack hLeads

end Waiter

------------------------------------------------------------
-- Giving Back
------------------------------------------------------------

/- The pool of a connection that is held. -/
theorem Database.Balanced.home
    {limit : Nat}
    {conn : Connection}
    {others : Share}
    {db : Database σ}
    (hBalanced : db.Balanced limit (.hold conn ++ others)) :
    ∃ pool, db.pool? conn.target = some pool :=
  Option.isSome_iff_exists.1
    (hBalanced.placed conn.tag List.mem_cons_self)

namespace Act

variable {limit : Nat} (conn : Connection)

/- A connection that is evicted is closed. -/
theorem evict_accounts :
    Accounts limit (evict conn : Act σ Unit) (.hold conn)
      (fun _ => .none) fun _ => True := by
  intro others db hBalanced
  rcases hBalanced.home with ⟨pool, hPool⟩
  rcases destroy_modified conn.target [conn] db
    Pool.discard with
    ⟨hPools, hOpened, hHistory⟩
  have hBefore :
      (pool.idle.map Connection.id ++
        (Share.hold conn ++ others).held.map Tag.id).Perm
        ([conn].map Connection.id ++
          (pool.idle.map Connection.id ++
            others.held.map Tag.id)) :=
    List.perm_middle
  refine ⟨hBalanced.changed hPool hPools
    (.of_closings hOpened hHistory) hBefore
      (.refl _) ?_ ?_ ?_,
    trivial⟩
  · intro hFits
    have hHeld := hFits.held
    have hOpening := hFits.opening
    have hSeats := hFits.seats
    have hRoom := hFits.room
    simp only [Share.heldAt_append, Share.heldAt_hold,
      Share.openingAt_append, Share.openingAt_hold,
      Share.seatsAt_append, Share.seatsAt_hold,
      if_true, Nat.zero_add] at hHeld hOpening hRoom
    refine ⟨hFits.place, hFits.bounded, hFits.own, ?_,
      hOpening, ?_, ?_, hFits.empty⟩
    · simp only [Pool.discard, Share.none_append]
      omega
    · simp only [Pool.discard]
      omega
    · simp only [Pool.discard, Share.none_append]
      omega
  · intro other hOther
    simp [Ne.symm hOther]
  · intro tag hTag
    exact .inl (List.mem_cons_of_mem _ hTag)

/- A connection that is put back is idle. -/
theorem putBack_balanced
    {others : Share}
    {db : Database σ}
    (hBalanced : db.Balanced limit (.hold conn ++ others))
    (hOpen :
      (db.pool? conn.target).any Pool.closed = false) :
    (db.modifyPool conn.target fun pool =>
      pool.putBack conn).Balanced limit
        (.none ++ others) := by
  rcases hBalanced.home with ⟨pool, hPool⟩
  rw [hPool, Option.any_some] at hOpen
  have hLived :=
    (Database.Lived.refl db).modified conn.target
      fun pool =>
      pool.putBack conn
  refine hBalanced.changed hPool rfl hLived
    (.refl _) ?_ ?_ ?_ ?_
  · simp [Pool.putBack, Share.hold, Connection.tag]
  · intro hFits
    have hHeld := hFits.held
    have hOpening := hFits.opening
    have hSeats := hFits.seats
    have hRoom := hFits.room
    simp only [Share.heldAt_append, Share.heldAt_hold,
      Share.openingAt_append, Share.openingAt_hold,
      Share.seatsAt_append, Share.seatsAt_hold,
      if_true, Nat.zero_add] at hHeld hOpening hRoom
    refine ⟨hFits.place, hFits.bounded, ?_, ?_, hOpening,
      ?_, ?_, ?_⟩
    · intro other hOther
      rcases List.mem_append.1 hOther with hIdle | hBack
      · exact hFits.own other hIdle
      · rw [List.mem_singleton.1 hBack]
    · simp only [Pool.putBack, Pool.discard,
        Share.none_append]
      omega
    · simp only [Pool.putBack, Pool.discard]
      omega
    · simp only [Pool.putBack, Pool.discard,
        Share.none_append, List.length_append,
        List.length_singleton]
      omega
    · intro hClosed
      have hStill : pool.closed = true := hClosed
      rw [hOpen] at hStill
      cases hStill
  · intro other hOther
    simp [Ne.symm hOther]
  · intro tag hTag
    exact .inl (List.mem_cons_of_mem _ hTag)

/-
  A connection that is let go of is idle, or it is closed.
-/
theorem release_accounts
    (hAnswered : conn.unanswered = false) :
    Accounts limit (release conn : Act σ Unit) (.hold conn)
      (fun _ => .none) fun _ => True := by
  intro others db hBalanced
  simp only [release, hAnswered, Bool.false_eq_true,
    if_false]
  rw [bind_run]
  have hClosed :
      (isPoolClosed conn).run db =
        ((db.pool? conn.target).any Pool.closed, db) :=
    rfl
  rw [hClosed]
  cases hOpen : (db.pool? conn.target).any Pool.closed with
  | true => exact evict_accounts conn others db hBalanced
  | false =>
      exact ⟨putBack_balanced conn hBalanced hOpen,
        trivial⟩

/- A connection that is given back frees its place. -/
theorem checkin_accounts
    (hAnswered : conn.unanswered = false) :
    Accounts limit (checkin conn : Act σ Unit) (.hold conn)
      (fun _ => .none) fun _ => True := by
  unfold checkin
  split
  · exact release_accounts conn hAnswered
  · exact evict_accounts conn

------------------------------------------------------------
-- Closing
------------------------------------------------------------

/-
  The idle connections of a pool that is closed are closed.
-/
theorem closePool_accounts
    (target : Target)
    (given : Share) :
    Accounts limit (closePool target : Act σ Unit) given
      (fun _ => given) fun _ => True := by
  apply Accounts.of_get
  intro others db hBalanced
  cases hPool : db.pool? target with
  | none => exact ⟨hBalanced, trivial⟩
  | some pool =>
      rcases destroy_modified target pool.idle db
        Pool.close with
        ⟨hPools, hOpened, hHistory⟩
      refine ⟨hBalanced.changed hPool hPools
        (.of_closings hOpened hHistory) (.refl _)
          (.refl _) ?_ ?_
        ?_, trivial⟩
      · intro hFits
        have hRoom := hFits.room
        refine ⟨hFits.place, hFits.bounded, ?_,
          hFits.held, hFits.opening, hFits.seats, ?_,
            fun _ => rfl⟩
        · simp [Pool.close]
        · simp only [Pool.close, List.length_nil]
          omega
      · intro other _
        exact ⟨rfl, rfl, rfl⟩
      · intro tag hTag
        exact .inl hTag

theorem close_accounts (given : Share) :
    Accounts limit (close : Act σ Unit) given
      (fun _ => given) fun _ => True := by
  apply Accounts.of_get
  intro others db
  have hClose :
      Accounts limit
        (closePool .primary >>= fun _ =>
          (List.range db.replicas.length).forM fun index =>
            closePool (.replica index) : Act σ Unit) given
        (fun _ => given) fun _ => True := by
    apply (closePool_accounts .primary given).bind
    intro _ _
    generalize List.range db.replicas.length = indices
    induction indices with
    | nil => exact .pure rfl trivial
    | cons index rest ih =>
        exact
          (closePool_accounts (.replica index) given).bind
          fun _ _ => ih
  exact hClose others db

end Act

end SqlAccess
