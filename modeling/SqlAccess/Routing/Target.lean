/-
  This file defines the places where a statement can run:
  the writable primary and its read replicas.

  Key definitions include:
    * `Role`
    * `Target`
    * `Target.role`
-/

namespace SqlAccess

/- The two kinds of places. -/
inductive Role
  | primary
  | replica
deriving DecidableEq, Repr

namespace Role

/- The word for a role. -/
def text : Role → String
  | primary => "primary"
  | replica => "replica"

end Role

/- A place: the primary, or the replica of an index. -/
inductive Target
  | primary
  | replica (index : Nat)
deriving DecidableEq, Repr

namespace Target

/- The kind of a place. -/
def role : Target → Role
  | primary => .primary
  | replica _ => .replica

/- A place as it is shown for debugging. -/
def describe : Target → String
  | primary => "Primary"
  | replica index => "Replica(" ++ toString index ++ ")"

end Target

end SqlAccess
