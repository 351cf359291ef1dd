import SqlAccess.Pool.Database

/-
  This file hands out connections and takes them back.  A
  user who cannot be served at once waits for a place in the
  pool or for the connection to be opened; that state is a
  value, so that others may act in between.

  Key definitions include:
    * `Pause`
    * `Act.obtain`
    * `Act.attempt`
    * `Act.outlast`
    * `Act.checkoutAt`
    * `Act.fallBack`
    * `Act.checkoutRouted`
    * `Act.checkout`
    * `Act.checkin`
    * `Act.release`
    * `Waiter`
-/

namespace SqlAccess

/- What a user waits for. -/
inductive Pause
  | forPlace
  | forConnection
deriving DecidableEq, Repr

/- A user who waits, or the end of waiting. -/
inductive Progress
  | paused (pause : Pause)
  | finished (result : Except Error Connection)

namespace Act

variable {σ : Type}

------------------------------------------------------------
-- Failures
------------------------------------------------------------

/- The failure of a user who waited too long for a place. -/
def exhausted (target : Target) : Act σ Error := do
  let db ← get
  return .poolExhausted "" target.role
    db.config.checkoutTimeout

/-
  The failure of a connection that takes too long to open.
-/
def connectTimedOut (target : Target) : Act σ Error := do
  let db ← get
  return .connection ""
    ("connecting to " ++ target.role.text ++
      " timed out after " ++ db.config.connectTimeout.text)

/- The failure of a pool that hands out nothing any more. -/
def poolClosed (target : Target) : Error :=
  .connection "" (target.role.text ++ " pool is closed")

------------------------------------------------------------
-- Obtaining a Connection
------------------------------------------------------------

/- Give a connection to the user who reserved a place. -/
def deliver
    (target : Target)
    (conn : Connection) : Act σ Progress := do
  modifyPool target Pool.deliver
  return .finished (.ok conn)

/- Open a connection for the user who reserved a place. -/
def openNew (target : Target) : Act σ Progress := do
  let db ← get
  match db.pool? target with
  | none => return .finished (.error (poolClosed target))
  | some pool =>
      match ← connect pool.address with
      | .done link => deliver target (.new link target)
      | .failed e =>
          modifyPool target Pool.abandon
          return .finished (.error e)
      | .silent => return .paused .forConnection

/-
  Serve the user who reserved a place: from the idle
  connections, or with a new one.  Idle connections that may
  not be used are destroyed on the way.
-/
def obtain (target : Target) : Act σ Progress := do
  let db ← get
  match db.pool? target with
  | none => return .finished (.error (poolClosed target))
  | some pool =>
      let reuse := pool.reuse
      modifyPool target fun _ => reuse.pool
      destroy reuse.spoiled
      match reuse.found with
      | some conn => deliver target conn
      | none => openNew target

/- Try to reserve a place. -/
def reserve
    (target : Target) :
    Act σ (Except Pool.Refusal Unit) := do
  let db ← get
  match db.pool? target with
  | none => return .error .closed
  | some pool =>
      match pool.reserve with
      | .ok reserved =>
          modifyPool target fun _ => reserved
          return .ok ()
      | .error refusal => return .error refusal

/-
  Ask for a connection.  A full pool fails at once if there
  is no time to wait.
-/
def attempt (target : Target) : Act σ Progress := do
  match ← reserve target with
  | .ok () => obtain target
  | .error .closed =>
      return .finished (.error (poolClosed target))
  | .error .full =>
      let db ← get
      if db.config.checkoutMillis = 0 then
        return .finished (.error (← exhausted target))
      else
        modifyPool target Pool.enqueue
        return .paused .forPlace

------------------------------------------------------------
-- Waiting
------------------------------------------------------------

/- Wait for a connection that does not open in time. -/
def outlastConnect
    (target : Target) :
    Act σ (Except Error Connection) := do
  modifyPool target Pool.abandon
  return .error (← connectTimedOut target)

/-
  Wait for a place.  If there is one by now, the user is
  served; otherwise the time runs out.
-/
def outlastQueue
    (target : Target) :
    Act σ (Except Error Connection) := do
  modifyPool target Pool.dequeue
  match ← reserve target with
  | .ok () =>
      match ← obtain target with
      | .finished result => return result
      | .paused _ => outlastConnect target
  | .error .closed => return .error (poolClosed target)
  | .error .full => return .error (← exhausted target)

/- Wait until there is an end to it. -/
def outlast
    (target : Target) :
    Pause → Act σ (Except Error Connection)
  | .forPlace => outlastQueue target
  | .forConnection => outlastConnect target

/- Ask for a connection and wait for it. -/
def checkoutAt
    (target : Target) :
    Act σ (Except Error Connection) := do
  match ← attempt target with
  | .finished result => return result
  | .paused pause => outlast target pause

------------------------------------------------------------
-- Falling Back to the Primary
------------------------------------------------------------

/-
  Whether a failed checkout is tried again on the primary:
  that of a replica which cannot be reached.
-/
def fallsBack
    (target : Target) : Except Error Connection → Bool
  | .ok _ => false
  | .error e => target ≠ .primary && e.spoilsConnection

/-
  Go on after a checkout.  A replica that cannot be reached
  is left alone for a while, and the primary takes its
  place.
-/
def fallBack
    (target : Target)
    (result : Except Error Connection) :
    Act σ (Except Error Connection) := do
  if fallsBack target result then
    markReplicaDown target
    checkoutAt .primary
  else
    return result

/- Check out a connection for a statement. -/
def checkoutRouted
    (intent : Intent)
    (inTransaction : Bool) :
    Act σ (Except Error Connection) := do
  let target ← pick intent inTransaction
  let result ← checkoutAt target
  fallBack target result

/-
  Check out a connection to the primary, or to a replica if
  one can be used.
-/
def checkout : Role → Act σ (Except Error Connection)
  | .primary => checkoutAt .primary
  | .replica => checkoutRouted .read false

------------------------------------------------------------
-- Giving Back
------------------------------------------------------------

/- Destroy a connection that was held. -/
def evict (conn : Connection) : Act σ Unit := do
  modifyPool conn.target Pool.discard
  destroy [conn]

/- Whether the pool of a connection was closed. -/
def isPoolClosed (conn : Connection) : Act σ Bool := do
  let db ← get
  return (db.pool? conn.target).any Pool.closed

/-
  Let go of a connection.  It returns to its pool in
  whatever state it is, unless the pool was closed.  A
  connection with a call that never ends stays with its
  user.
-/
def release (conn : Connection) : Act σ Unit := do
  if conn.unanswered then
    return
  else if ← isPoolClosed conn then
    evict conn
  else
    modifyPool conn.target fun pool => pool.putBack conn

/-
  Give a connection back.  One that may not be used by
  others is destroyed.
-/
def checkin (conn : Connection) : Act σ Unit :=
  if conn.isUsable then release conn else evict conn

/- Close one pool and destroy its idle connections. -/
def closePool (target : Target) : Act σ Unit := do
  let db ← get
  match db.pool? target with
  | none => return
  | some pool =>
      modifyPool target Pool.close
      destroy pool.idle

/- Close all pools, that of the primary first. -/
def close : Act σ Unit := do
  let db ← get
  closePool .primary
  (List.range db.replicas.length).forM fun index =>
    closePool (.replica index)

end Act

------------------------------------------------------------
-- Waiters
------------------------------------------------------------

/-
  A user who waits, what for and at which place, and whether
  the primary may still take the place of a replica.
-/
structure Waiter where
  target : Target
  pause : Pause
  mayFallBack : Bool
deriving DecidableEq, Repr

namespace Waiter

variable {σ : Type}

/- Go on with the primary, without waiting yet. -/
def startPrimary :
    Act σ (Except Waiter (Except Error Connection)) := do
  match ← Act.attempt .primary with
  | .finished result => return .ok result
  | .paused pause =>
      return .error ⟨.primary, pause, false⟩

/- Ask for a connection of a role, without waiting yet. -/
def start
    (role : Role) :
    Act σ (Except Waiter (Except Error Connection)) := do
  match role with
  | .primary => startPrimary
  | .replica =>
      let target ← Act.pick .read false
      match ← Act.attempt target with
      | .paused pause =>
          return .error ⟨target, pause, true⟩
      | .finished result =>
          if Act.fallsBack target result then
            Act.markReplicaDown target
            startPrimary
          else
            return .ok result

/- Wait until there is an end to it. -/
def finish
    (waiter : Waiter) :
    Act σ (Except Error Connection) := do
  let result ← Act.outlast waiter.target waiter.pause
  if waiter.mayFallBack then
    Act.fallBack waiter.target result
  else return result

end Waiter

end SqlAccess
