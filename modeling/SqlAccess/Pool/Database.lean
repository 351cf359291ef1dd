import SqlAccess.Pool.Basic
import SqlAccess.Routing.Health

/-
  This file defines databases: the pools of the primary and
  of the replicas, the health of the replicas, the backend,
  and everything that has happened so far.

  Key definitions include:
    * `Database`
    * `Database.new`
    * `Act`
    * `Act.modifyPool`
    * `Act.destroy`
    * `Act.ask`
    * `Act.pick`
-/

namespace SqlAccess

------------------------------------------------------------
-- Databases
------------------------------------------------------------

/-
  A database with a backend that remembers things of type
  `σ`.  Events are kept with the latest one first.  The
  clock goes on with every look at it.
-/
structure Database (σ : Type) where
  config : Config
  backend : Backend σ
  memory : σ
  history : List Event
  opened : Nat
  clock : Nat
  primary : Pool
  replicas : List Pool
  health : Health

namespace Database

variable {σ : Type}

/- A database that has no connections yet. -/
def new
    (config : Config)
    (backend : Backend σ)
    (memory : σ) : Database σ :=
  { config := config
    backend := backend
    memory := memory
    history := []
    opened := 0
    clock := 0
    primary :=
      Pool.new .primary config.primary config.maxConnections
    replicas :=
      config.replicas.mapIdx fun index address =>
        Pool.new (.replica index) address
          config.maxConnections
    health :=
      Health.new config.replicas.length
        config.cooldownMillis }

/- How statements are written for the database. -/
def dialect (db : Database σ) : Dialect :=
  ⟨db.backend.style, db.config.emptyList⟩

/- The pool of a place, if there is one. -/
def pool?
    (db : Database σ) : Target → Option Pool
  | .primary => some db.primary
  | .replica index => db.replicas[index]?

/- All pools, the one of the primary first. -/
def pools (db : Database σ) : List Pool :=
  db.primary :: db.replicas

/- Change the pool of a place. -/
def modifyPool
    (db : Database σ)
    (target : Target)
    (change : Pool → Pool) : Database σ :=
  match target with
  | .primary => { db with primary := change db.primary }
  | .replica index =>
      { db with
        replicas := db.replicas.modify index change }

/- Add an event. -/
def record
    (db : Database σ)
    (event : Event) : Database σ :=
  { db with history := event :: db.history }

/- The state of all pools as it is reported. -/
def status (db : Database σ) : List Occupancy :=
  db.pools.map Pool.status

/- Whether the database was closed. -/
def isClosed (db : Database σ) : Bool :=
  db.primary.closed

/- A database as it is shown for debugging. -/
def describe (db : Database σ) : String :=
  "Database \x7b driver: " ++ db.backend.kind.describe ++
    ", replicas: " ++ toString db.replicas.length ++
    ", .. \x7d"

end Database

------------------------------------------------------------
-- Acts
------------------------------------------------------------

/- Something that is done with a database. -/
abbrev Act (σ : Type) :=
  StateM (Database σ)

namespace Act

variable {σ : Type}

/- Change the pool of a place. -/
def modifyPool
    (target : Target)
    (change : Pool → Pool) : Act σ Unit :=
  modify fun db => db.modifyPool target change

/- Change the health of the replicas. -/
def modifyHealth
    (change : Health → Health) :
    Act σ Unit :=
  modify fun db => { db with health := change db.health }

/- The time, which is later at every look. -/
def tick : Act σ Nat :=
  modifyGet fun db =>
    (db.clock, { db with clock := db.clock + 1 })

/- Destroy connections, one after the other. -/
def destroy (conns : List Connection) : Act σ Unit :=
  modify fun db =>
    conns.foldl (fun db conn =>
      db.record (.closed conn.link.id)) db

/- A replica that fails is left alone for a while. -/
def markReplicaDown : Target → Act σ Unit
  | .primary => pure ()
  | .replica index => do
      let now ← tick
      modifyHealth fun health => health.fail index now

/- A replica that answers may be used again. -/
def markReplicaUp : Target → Act σ Unit
  | .primary => pure ()
  | .replica index =>
      modifyHealth fun health => health.recover index

/-
  Choose the place of a statement.  A database takes a
  cursor for each read, the first of them zero, so that no
  sum is too large before it has made nearly `2 ^ 64` reads.
  No use of it comes so far; here such a read goes to the
  primary.
-/
def pick
    (intent : Intent)
    (inTransaction : Bool) : Act σ Target := do
  let now ← tick
  modifyGet fun db =>
    let (chosen, health) :=
      db.health.pick intent inTransaction
        db.config.balancing now
    (chosen.toOption.getD .primary,
      { db with health := health })

/- Ask the backend to answer a call. -/
def ask
    (link : Link)
    (call : Call) : Act σ (Reply call.Answer) :=
  modifyGet fun db =>
    let (reply, memory) :=
      db.backend.perform link call db.memory
    let asked := { db with memory := memory }
    (reply, asked.record (.called link.id call reply.fate))

/- Ask the backend to open a connection to an address. -/
def connect (address : String) : Act σ (Reply Link) :=
  modifyGet fun db =>
    let (reply, memory) :=
      db.backend.connect address db.memory
    let asked :=
      { db with memory := memory }.record
        (.connecting address reply.fate)
    match reply with
    | .done _ =>
        let link := ⟨db.opened + 1, address⟩
        (.done link,
          { asked with opened := link.id }.record
            (.opened address link.id))
    | .failed e => (.failed e, asked)
    | .silent => (.silent, asked)

end Act

end SqlAccess
