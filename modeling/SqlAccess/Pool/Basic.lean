import SqlAccess.Pool.Connection

/-
  This file defines the pool of connections to one place.
  Its transitions are small steps: a user who asks for a
  connection first reserves a place, then takes an idle
  connection or has one opened, and gives it back in the
  end.  The pool itself keeps only idle connections; all
  others belong to their users and are counted.

  Key definitions include:
    * `Pool`
    * `Pool.status`
    * `Pool.reserve`
    * `Pool.reuse`
    * `Pool.deliver`
    * `Pool.abandon`
    * `Pool.putBack`
    * `Pool.discard`
    * `Pool.close`
-/

namespace SqlAccess

------------------------------------------------------------
-- Pools
------------------------------------------------------------

/-
  A pool: the place, its address, how many connections there
  may be, the idle connections in the order in which they
  came back, and the numbers of connections that users hold,
  of users who have reserved a place, and of users who wait
  for one.
-/
structure Pool where
  target : Target
  address : String
  limit : Nat
  idle : List Connection
  held : Nat
  opening : Nat
  queued : Nat
  closed : Bool
deriving Repr

/- The state of a pool as it is reported. -/
structure Occupancy where
  target : Target
  maxSize : Nat
  size : Nat
  available : Nat
  waiting : Nat
deriving DecidableEq, Repr

namespace Pool

/- A pool without connections. -/
def new
    (target : Target)
    (address : String)
    (limit : Nat) : Pool :=
  { target := target
    address := address
    limit := limit
    idle := []
    held := 0
    opening := 0
    queued := 0
    closed := false }

/- The number of open connections. -/
def size (pool : Pool) : Nat :=
  pool.idle.length + pool.held

/- The number of users, with those who have nothing yet. -/
def users (pool : Pool) : Nat :=
  pool.held + pool.opening + pool.queued

/- The state of a pool as it is reported. -/
def status (pool : Pool) : Occupancy :=
  { target := pool.target
    maxSize := if pool.closed then 0 else pool.limit
    size := pool.size
    available := pool.size - pool.users
    waiting := pool.users - pool.size }

------------------------------------------------------------
-- Asking for a Connection
------------------------------------------------------------

/- Why no place can be reserved. -/
inductive Refusal
  | closed
  | full
deriving DecidableEq, Repr

/- Reserve a place for one more connection. -/
def reserve (pool : Pool) : Except Refusal Pool :=
  if pool.closed then .error .closed
  else if pool.held + pool.opening < pool.limit then
    .ok { pool with opening := pool.opening + 1 }
  else
    .error .full

/- Begin to wait for a place. -/
def enqueue (pool : Pool) : Pool :=
  { pool with queued := pool.queued + 1 }

/- Wait no longer. -/
def dequeue (pool : Pool) : Pool :=
  { pool with queued := pool.queued - 1 }

/-
  The idle connections in front of the first one that may be
  used, which are of no use any more, and that one.
-/
structure Reuse where
  spoiled : List Connection
  found : Option Connection
  pool : Pool

/- Take the first idle connection that may be used. -/
def reuse (pool : Pool) : Reuse :=
  let (spoiled, rest) :=
    pool.idle.span fun conn => !conn.isUsable
  { spoiled := spoiled
    found := rest.head?
    pool := { pool with idle := rest.tail } }

/- Give a connection to the user who reserved the place. -/
def deliver (pool : Pool) : Pool :=
  { pool with
    opening := pool.opening - 1
    held := pool.held + 1 }

/- Give up a place that was reserved. -/
def abandon (pool : Pool) : Pool :=
  { pool with opening := pool.opening - 1 }

------------------------------------------------------------
-- Giving a Connection Back
------------------------------------------------------------

/- Take a held connection off the count. -/
def discard (pool : Pool) : Pool :=
  { pool with held := pool.held - 1 }

/- Keep a connection that comes back, in whatever state. -/
def putBack
    (pool : Pool)
    (conn : Connection) : Pool :=
  { pool.discard with idle := pool.idle ++ [conn] }

/- Hand out nothing any more and keep nothing. -/
def close (pool : Pool) : Pool :=
  { pool with idle := [], closed := true }

end Pool

end SqlAccess
