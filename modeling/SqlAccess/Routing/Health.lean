import SqlAccess.Routing.Route

/-
  This file keeps account of the replicas: which of them are
  left alone for a while after a failure, and when each was
  used last.  Times and the length of the pause are numbers
  of one unit.

  Key definitions include:
    * `Health`
    * `Health.snapshot`
    * `Health.takeTurn`
    * `Health.touch`
    * `Health.fail`
    * `Health.recover`
    * `Health.pick`
-/

namespace SqlAccess

/- The account of one replica. -/
structure ReplicaState where
  restsUntil : Option Nat
  lastUsed : Option Nat
deriving DecidableEq, Repr

/- A replica at a time. -/
def ReplicaState.view
    (state : ReplicaState)
    (now : Nat) : Candidate :=
  ⟨state.restsUntil.all fun time => time ≤ now,
    state.lastUsed⟩

/- The account of all replicas. -/
structure Health where
  states : List ReplicaState
  cursor : UInt64
  cooldown : Nat
deriving Repr

namespace Health

/- The account of replicas that nothing has happened to. -/
def new (count cooldown : Nat) : Health :=
  ⟨List.replicate count ⟨none, none⟩, 0, cooldown⟩

/- All replicas at a time. -/
def snapshot
    (health : Health)
    (now : Nat) : List Candidate :=
  health.states.map fun state => state.view now

/- The cursor of the next round, which goes on by one. -/
def takeTurn (health : Health) : UInt64 × Health :=
  (health.cursor,
    { health with cursor := health.cursor + 1 })

/- Change the account of one replica, if there is one. -/
def modifyState
    (health : Health)
    (index : Nat)
    (change : ReplicaState → ReplicaState) : Health :=
  { health with
    states := health.states.modify index change }

/- A replica is used at a time. -/
def touch
    (health : Health)
    (index now : Nat) : Health :=
  health.modifyState index fun state =>
    { state with lastUsed := some now }

/-
  A replica fails at a time and is left alone from then on.
-/
def fail
    (health : Health)
    (index now : Nat) : Health :=
  health.modifyState index fun state =>
    { state with
      restsUntil := some (now + health.cooldown) }

/- A replica works. -/
def recover
    (health : Health)
    (index : Nat) : Health :=
  health.modifyState index fun state =>
    { state with restsUntil := none }

/-
  The cursor for a statement.  Only reads in rounds take
  one; for others it does not matter.
-/
def cursorFor
    (health : Health)
    (intent : Intent)
    (policy : Balancing) : UInt64 × Health :=
  match intent, policy with
  | .read, .roundRobin => health.takeTurn
  | _, _ => (0, health)

/-
  Choose the place of a statement at a time.  A replica that
  is chosen counts as used at that time.
-/
def pick
    (health : Health)
    (intent : Intent)
    (inTransaction : Bool)
    (policy : Balancing)
    (now : Nat) : Except Overflow Target × Health :=
  let views := health.snapshot now
  let (cursor, moved) := health.cursorFor intent policy
  let chosen :=
    Target.route intent inTransaction views cursor policy
  match chosen with
  | .ok (.replica index) => (chosen, moved.touch index now)
  | _ => (chosen, moved)

end Health

end SqlAccess
