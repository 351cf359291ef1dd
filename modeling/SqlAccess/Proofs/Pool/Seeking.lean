import SqlAccess.Proofs.Pool.Clients

/-
  This file takes checkouts apart where other clients may
  come in between: after a place was asked for, after the
  wait for a place, and while a connection is being opened.
  Put together again, the parts are the checkouts of the
  library.

  Key definitions include:
    * `Act.take`
    * `Act.seat`
    * `Act.enter`
    * `Act.wake`
    * `World.Demand.choose`
    * `Waiter.resume`
    * `Waiter.begin`
    * `Waiter.proceed`

  Key theorems include:
    * `Act.attempt_eq`
    * `Act.checkoutAt_eq`
    * `World.Demand.serve_eq`
    * `Waiter.begin_supplies`
    * `Waiter.proceed_supplies`
-/

namespace SqlAccess

variable {σ : Type}

------------------------------------------------------------
-- Places and Connections
------------------------------------------------------------

namespace Act

/-
  Take the first idle connection that may be used for the
  user who reserved a place.  Those before it are destroyed.
-/
def take
    (target : Target) :
    Act σ (Option Connection) := do
  let db ← get
  match db.pool? target with
  | none => return none
  | some pool =>
      let reuse := pool.reuse
      modifyPool target fun _ => reuse.pool
      destroy reuse.spoiled
      match reuse.found with
      | some conn =>
          modifyPool target Pool.deliver
          return some conn
      | none => return none

/-
  Take a place if there is one, with an idle connection or
  to have one opened; a full pool is dealt with as given.
-/
def seat
    (target : Target)
    (whenFull : Act σ Progress) : Act σ Progress := do
  match ← reserve target with
  | .ok () =>
      match ← take target with
      | some conn => return .finished (.ok conn)
      | none => return .paused .forConnection
  | .error .closed =>
      return .finished (.error (poolClosed target))
  | .error .full => whenFull

/- Fail for want of a place. -/
def giveUp (target : Target) : Act σ Progress := do
  return .finished (.error (← exhausted target))

/-
  Wait for a place of a full pool, or fail at once if there
  is no time to wait.
-/
def queueUp (target : Target) : Act σ Progress := do
  let db ← get
  if db.config.checkoutMillis = 0 then
    giveUp target
  else
    modifyPool target Pool.enqueue
    return .paused .forPlace

/- Ask for a connection. -/
def enter (target : Target) : Act σ Progress :=
  seat target (queueUp target)

/-
  The wait for a place ends: with a place if there is one by
  now, and otherwise because the time runs out.
-/
def wake (target : Target) : Act σ Progress := do
  modifyPool target Pool.dequeue
  seat target (giveUp target)

/- Open a connection if that is what a user waits for. -/
def openIfNeeded
    (target : Target) : Progress → Act σ Progress
  | .paused .forConnection => openNew target
  | progress => return progress

/- An idle connection is handed out, or one is opened. -/
def openUnless
    (target : Target) :
    Option Connection → Act σ Progress
  | some conn => return .finished (.ok conn)
  | none => openNew target

/-
  An act that looks at the database goes on from what it is.
-/
theorem get_bind_run
    {α : Type}
    (next : Database σ → Act σ α)
    (db : Database σ) :
    (get >>= next : Act σ α) db = next db db :=
  rfl

/-
  A user with a place takes an idle connection, or has one
  opened.
-/
theorem obtain_eq (target : Target) :
    (obtain target : Act σ Progress) =
      take target >>= openUnless target := by
  funext db
  unfold obtain take
  rw [bind_assoc, get_bind_run, get_bind_run]
  cases hPool : db.pool? target with
  | none =>
      simp only [pure_bind, openUnless, openNew]
      rw [get_bind_run]
      simp only [hPool]
  | some pool =>
      simp only [bind_assoc]
      cases hFound : pool.reuse.found with
      | some conn => simp [openUnless, deliver]
      | none => simp [openUnless]

/-
  Asking for a connection without waiting is asking for a
  place, and then opening a connection if one is needed.
-/
theorem attempt_eq (target : Target) :
    (attempt target : Act σ Progress) =
      enter target >>= openIfNeeded target := by
  unfold attempt enter seat queueUp giveUp
  rw [bind_assoc]
  congr 1
  funext reserved
  cases reserved with
  | ok _ =>
      simp only [obtain_eq, bind_assoc]
      congr 1
      funext found
      cases found <;> simp [openUnless, openIfNeeded]
  | error refusal =>
      cases refusal with
      | closed => simp [openIfNeeded]
      | full =>
          simp only [bind_assoc]
          congr 1
          funext db
          split <;> simp [openIfNeeded]

/- Wait for what is left to wait for. -/
def settle
    (target : Target) :
    Progress → Act σ (Except Error Connection)
  | .finished result => return result
  | .paused _ => outlastConnect target

/-
  The wait for a place ends with a place or without one, and
  with a place a connection is opened if one is needed.
-/
theorem outlastQueue_eq (target : Target) :
    (outlastQueue target :
      Act σ (Except Error Connection)) =
      wake target >>= openIfNeeded target >>=
        settle target := by
  unfold outlastQueue wake seat giveUp
  simp only [bind_assoc]
  congr 1
  funext _
  congr 1
  funext reserved
  cases reserved with
  | ok _ =>
      simp only [obtain_eq, bind_assoc]
      congr 1
      funext found
      cases found with
      | some conn => simp [openUnless, openIfNeeded, settle]
      | none =>
          simp only [openUnless, pure_bind, openIfNeeded]
          congr 1
  | error refusal =>
      cases refusal <;> simp [openIfNeeded, settle]

/-
  A connection that is being opened is all there is to wait.
-/
theorem openNew_settle (target : Target) :
    (openNew target >>= fun progress =>
        match progress with
        | .finished result => return result
        | .paused pause => outlast target pause :
      Act σ (Except Error Connection)) =
      openNew target >>= settle target := by
  unfold openNew
  simp only [bind_assoc]
  congr 1
  funext db
  cases hPool : db.pool? target with
  | none => simp [settle]
  | some pool =>
      simp only [bind_assoc]
      congr 1
      funext reply
      cases reply with
      | done link => simp [deliver, settle]
      | failed e => simp [settle]
      | silent => simp [settle, outlast]

/- Wait to the end for what a user waits for. -/
def persist
    (target : Target) :
    Progress → Act σ (Except Error Connection)
  | .paused .forPlace =>
      wake target >>= openIfNeeded target >>= settle target
  | .paused .forConnection =>
      openNew target >>= settle target
  | .finished result => return result

/-
  A checkout is asking for a place and waiting to the end.
-/
theorem checkoutAt_eq (target : Target) :
    (checkoutAt target : Act σ (Except Error Connection)) =
      enter target >>= persist target := by
  unfold checkoutAt
  simp only [attempt_eq, bind_assoc]
  congr 1
  funext progress
  cases progress with
  | finished result => simp [openIfNeeded, persist]
  | paused pause =>
      cases pause with
      | forPlace =>
          simp only [openIfNeeded, pure_bind, persist]
          exact outlastQueue_eq target
      | forConnection => exact openNew_settle target

end Act

------------------------------------------------------------
-- Checkouts in Parts
------------------------------------------------------------

/-
  The place that a client asks at, and whether the primary
  may take the place of a replica.
-/
def World.Demand.choose :
    World.Demand → Act σ (Target × Bool)
  | .target place => return (place, false)
  | .role .primary => return (.primary, false)
  | .role .replica => do
      return (← Act.pick .read false, true)
  | .routed intent inTransaction => do
      return (← Act.pick intent inTransaction, true)

/- A checkout goes to the chosen place and may fall back. -/
theorem World.Demand.serve_eq (demand : World.Demand) :
    (demand.serve : Act σ (Except Error Connection)) = do
      let (place, mayFallBack) ← demand.choose
      let result ← Act.checkoutAt place
      if mayFallBack then Act.fallBack place result
      else return result := by
  cases demand with
  | target place =>
      simp [World.Demand.serve, World.Demand.choose]
  | role wanted =>
      cases wanted with
      | primary =>
          simp [World.Demand.serve, World.Demand.choose,
            Act.checkout]
      | replica =>
          simp [World.Demand.serve, World.Demand.choose,
            Act.checkout, Act.checkoutRouted]
  | routed intent inTransaction =>
      simp [World.Demand.serve, World.Demand.choose,
        Act.checkoutRouted]

namespace Waiter

/-
  What a user waits for now, or what the checkout ended
  with.
-/
def standing
    (target : Target)
    (mayFallBack : Bool) :
    Progress → Except Waiter (Except Error Connection)
  | .paused pause => .error ⟨target, pause, mayFallBack⟩
  | .finished result => .ok result

/-
  Go on after a part of a checkout.  A replica that cannot
  be reached is left alone for a while, and the user asks at
  the primary.
-/
def resume
    (target : Target)
    (mayFallBack : Bool)
    (progress : Progress) :
    Act σ (Except Waiter (Except Error Connection)) := do
  match progress with
  | .paused pause =>
      return standing target mayFallBack (.paused pause)
  | .finished result =>
      if mayFallBack && Act.fallsBack target result then
        Act.markReplicaDown target
        return standing .primary false
          (← Act.enter .primary)
      else
        return .ok result

/- Ask for a connection. -/
def begin
    (demand : World.Demand) :
    Act σ (Except Waiter (Except Error Connection)) := do
  let (target, mayFallBack) ← demand.choose
  resume target mayFallBack (← Act.enter target)

/-
  What a user waits for comes to an end: the wait for a
  place, or the opening of a connection, in time or not.
-/
def proceed
    (waiter : Waiter)
    (inTime : Bool) :
    Act σ (Except Waiter (Except Error Connection)) := do
  match waiter.pause with
  | .forPlace =>
      resume waiter.target waiter.mayFallBack
        (← Act.wake waiter.target)
  | .forConnection =>
      if inTime then
        resume waiter.target waiter.mayFallBack
          (← Act.openNew waiter.target)
      else
        resume waiter.target waiter.mayFallBack
          (.finished (← Act.outlastConnect waiter.target))

end Waiter

------------------------------------------------------------
-- Supplies
------------------------------------------------------------

namespace Act

variable (target : Target) (db : Database σ)

/-
  A pool hands out one of its idle connections, if it has
  one that can be used.
-/
theorem take_supplies :
    Supplies (take target) db [] Option.toList := by
  apply Supplies.of_get
  cases hPool : db.pool? target with
  | none => exact .pure none db Option.toList
  | some pool =>
      have hTake :
          Supplies
            (modifyPool target fun _ => pool.reuse.pool) db
              []
            fun _ => pool.reuse.found.toList := by
        apply modifyPool_supplies hPool
        · exact pool.reuse_subperm
        · intro _ conn hConn
          rw [Option.mem_toList] at hConn
          exact Pool.isUsable_of_found hConn
      apply hTake.bind
      intro _ after
      apply (destroy_aside pool.reuse.spoiled after _).bind
      intro _ last
      cases hFound : pool.reuse.found with
      | none => exact .pure none last Option.toList
      | some conn =>
          have hDeliver :
              Aside
                (modifyPool target Pool.deliver :
                  Act σ Unit) :=
            modifyPool_aside target fun _ => rfl
          apply (hDeliver last [conn]).bind
          intro _ final
          exact .pure (some conn) final Option.toList

/- Who gives up is handed nothing. -/
theorem giveUp_supplies :
    Supplies (giveUp target) db [] Progress.handed := by
  apply (exhausted_aside target db []).bind
  intro e after
  exact .pure (.finished (.error e)) after Progress.handed

/- Who waits is handed nothing yet. -/
theorem queueUp_supplies :
    Supplies (queueUp target) db [] Progress.handed := by
  apply Supplies.of_get
  by_cases hWait : db.config.checkoutMillis = 0
  · simp only [hWait, if_true]
    exact giveUp_supplies target db
  · simp only [hWait, if_false]
    have hQueue :
        Aside
          (modifyPool target Pool.enqueue : Act σ Unit) :=
      modifyPool_aside target fun _ => rfl
    apply (hQueue db []).bind
    intro _ after
    exact .pure (.paused .forPlace) after Progress.handed

/-
  A seat is supplied from the pool, or as it is done when
  there is none.
-/
theorem seat_supplies
    {whenFull : Act σ Progress}
    (hFull :
      ∀ db, Supplies whenFull db [] Progress.handed) :
    Supplies (seat target whenFull) db []
      Progress.handed := by
  apply (reserve_aside target db []).bind
  intro reserved after
  cases reserved with
  | ok _ =>
      apply (take_supplies target after).bind
      intro found last
      cases found with
      | some conn =>
          exact .pure (.finished (.ok conn)) last
            Progress.handed
      | none =>
          exact .pure (.paused .forConnection) last
            Progress.handed
  | error refusal =>
      cases refusal with
      | closed =>
          exact .pure
            (.finished (.error (poolClosed target)))
            after Progress.handed
      | full => exact hFull after

/- Who comes in is served, waits or is refused. -/
theorem enter_supplies :
    Supplies (enter target) db [] Progress.handed :=
  seat_supplies target db (queueUp_supplies target)

/- Who is woken is served, or has a connection opened. -/
theorem wake_supplies :
    Supplies (wake target) db [] Progress.handed := by
  have hQueue :
      Aside
        (modifyPool target Pool.dequeue : Act σ Unit) :=
    modifyPool_aside target fun _ => rfl
  apply (hQueue db []).bind
  intro _ after
  exact seat_supplies target after (giveUp_supplies target)

end Act

/- Choosing a place moves no connection. -/
theorem World.Demand.choose_aside (demand : World.Demand) :
    Act.Aside
      (demand.choose : Act σ (Target × Bool)) := by
  intro db given
  cases demand with
  | target place => exact .refl db given
  | role wanted =>
      cases wanted with
      | primary => exact .refl db given
      | replica =>
          exact (Act.pick_aside .read false db given).bind
            fun target after => .refl after given
  | routed intent inTransaction =>
      exact
        (Act.pick_aside intent inTransaction db given).bind
        fun target after => .refl after given

namespace Waiter

variable (db : Database σ)

/-
  A checkout that goes on hands out what it was handed, or
  what the primary hands out instead.
-/
theorem resume_supplies
    (target : Target)
    (mayFallBack : Bool)
    (progress : Progress) :
    Act.Supplies (resume target mayFallBack progress) db
      progress.handed handed := by
  cases progress with
  | paused pause =>
      exact .pure
        (.error ⟨target, pause, mayFallBack⟩) db handed
  | finished result =>
      simp only [resume, Progress.handed]
      cases hFalls :
        mayFallBack && Act.fallsBack target result with
      | true =>
          rw [Bool.and_eq_true] at hFalls
          rw [Act.handed_of_fallsBack hFalls.2, if_pos rfl]
          apply
            (Act.markReplicaDown_aside target db []).bind
          intro _ after
          apply (Act.enter_supplies .primary after).bind
          intro progress last
          cases progress with
          | paused pause =>
              exact .pure
                (.error ⟨.primary, pause, false⟩)
                last handed
          | finished result =>
              exact .pure (.ok result) last handed
      | false => exact .pure (.ok result) db handed

/-
  A checkout that begins hands out what the pools supply.
-/
theorem begin_supplies (demand : World.Demand) :
    Act.Supplies (begin demand) db [] handed := by
  apply (demand.choose_aside db []).bind
  rintro ⟨target, mayFallBack⟩ after
  apply (Act.enter_supplies target after).bind
  intro progress last
  exact resume_supplies last target mayFallBack progress

/-
  A checkout that waited hands out what the pools supply.
-/
theorem proceed_supplies
    (waiter : Waiter)
    (inTime : Bool) :
    Act.Supplies (waiter.proceed inTime) db [] handed := by
  unfold proceed
  cases waiter.pause with
  | forPlace =>
      apply (Act.wake_supplies waiter.target db).bind
      intro progress after
      exact resume_supplies after _ _ progress
  | forConnection =>
      cases inTime with
      | true =>
          apply (Act.openNew_supplies waiter.target db).bind
          intro progress after
          exact resume_supplies after _ _ progress
      | false =>
          apply
            (Act.outlastConnect_supplies waiter.target
              db).bind
          intro result after
          exact resume_supplies after _ _ (.finished result)

end Waiter

end SqlAccess
