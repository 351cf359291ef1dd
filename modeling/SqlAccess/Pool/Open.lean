import SqlAccess.Pool.Use

/-
  This file opens databases and does simple things with
  them: the primary must answer a first call, and replicas
  that do not are left alone for a while.

  Key definitions include:
    * `Act.probe`
    * `Act.open`
    * `Act.withConnection`
    * `Act.batch`
-/

namespace SqlAccess

namespace Act

variable {σ : Type}

------------------------------------------------------------
-- Opening
------------------------------------------------------------

/-
  See whether a place answers.  A connection that fails to
  is not relied on.
-/
def probe
    (target : Target) :
    Act σ (Except Error Unit) := do
  match ← checkoutAt target with
  | .error e => return .error e
  | .ok conn =>
      match ← Use.ping.run conn with
      | (.ok (), used) =>
          release used
          return .ok ()
      | (.error e, used) =>
          release used.spoil
          return .error e

/- See which replicas answer. -/
def probeReplica (index : Nat) : Act σ Unit := do
  match ← probe (.replica index) with
  | .ok () => return
  | .error _ => markReplicaDown (.replica index)

/-
  See whether the primary answers, and which replicas do.
-/
def probeAll : Act σ (Except Error Unit) := do
  match ← probe .primary with
  | .error e =>
      close
      return .error e
  | .ok () =>
      let db ← get
      (List.range db.replicas.length).forM probeReplica
      return .ok ()

/- Open a database whose settings can be used. -/
def «open» : Act σ (Except Error Unit) := do
  let db ← get
  match db.config.validate with
  | .error fault => return .error fault.toError
  | .ok () => probeAll

------------------------------------------------------------
-- Simple Uses
------------------------------------------------------------

/-
  Check out a connection, do something with it and let go of
  it.
-/
def withConnection
    {α : Type}
    (checkedOut : Act σ (Except Error Connection))
    (use : Use σ (Except Error α)) :
    Act σ (Except Error α) := do
  match ← checkedOut with
  | .error e => return .error e
  | .ok conn =>
      let (result, used) ← use.run conn
      release used
      return result

/- Run text without parameters on the primary. -/
def batch (sql : String) : Act σ (Except Error Unit) := do
  match ← checkout .primary with
  | .error e => return .error (e.inStatement sql)
  | .ok conn =>
      let (result, used) ← (Use.batch sql).run conn
      release used
      return result

end Act

end SqlAccess
