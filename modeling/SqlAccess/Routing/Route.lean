import SqlAccess.Routing.Intent
import SqlAccess.Routing.Target

/-
  This file chooses the place where a statement runs.  What
  writes, and everything in a transaction, goes to the
  primary.

  Key definitions include:
    * `Balancing`
    * `Candidate`
    * `Overflow`
    * `rotated`
    * `roundRobin?`
    * `leastRecentlyUsed?`
    * `Target.route`
-/

namespace SqlAccess

/- How reads are spread over the healthy replicas. -/
inductive Balancing
  | roundRobin
  | leastRecentlyUsed
deriving DecidableEq, Repr, Inhabited

/-
  A replica at a moment: whether it may be used, and when it
  was used last.
-/
structure Candidate where
  healthy : Bool
  lastUsed : Option Nat
deriving DecidableEq, Repr

------------------------------------------------------------
-- Policies
------------------------------------------------------------

/- Whether the replica at an index is healthy. -/
def isHealthyAt
    (replicas : List Candidate)
    (index : Nat) : Bool :=
  (replicas[index]?).any Candidate.healthy

/-
  The end of a computation in which a sum is too large for a
  number of 64 bits.  It has no result.
-/
inductive Overflow
  | overflow
deriving DecidableEq, Repr

/-
  The index that a round comes to after some steps from a
  cursor.  The sum has to be a number of 64 bits.
-/
def rotated
    (cursor : UInt64)
    (count step : Nat) : Except Overflow Nat :=
  if cursor.toNat + step < UInt64.size then
    .ok ((cursor.toNat + step) % count)
  else
    .error .overflow

/-
  The first healthy replica that is come to with one of some
  steps.  No step is made behind it.
-/
def firstHealthy?
    (replicas : List Candidate)
    (cursor : UInt64) :
    List Nat → Except Overflow (Option Nat)
  | [] => .ok none
  | step :: steps => do
      let index ← rotated cursor replicas.length step
      if isHealthyAt replicas index then
        return some index
      else
        firstHealthy? replicas cursor steps

/- The first healthy replica in a round from the cursor. -/
def roundRobin?
    (replicas : List Candidate)
    (cursor : UInt64) : Except Overflow (Option Nat) :=
  firstHealthy? replicas cursor (List.range replicas.length)

/-
  When a replica was used, as a rank; never is the least.
-/
def Candidate.rank (view : Candidate) : Nat :=
  match view.lastUsed with
  | none => 0
  | some time => time + 1

/-
  The better of two healthy replicas: the one used earlier.
-/
def earlierUsed
    (best : Option (Nat × Nat))
    (index rank : Nat) : Option (Nat × Nat) :=
  match best with
  | none => some (index, rank)
  | some (other, least) =>
      if rank < least then some (index, rank)
      else some (other, least)

/-
  The healthy replica that was used least recently.  Of
  those used at the same time the first counts.
-/
def leastRecentlyUsed?
    (replicas : List Candidate) : Option Nat :=
  let best :=
    replicas.zipIdx.foldl (fun best (view, index) =>
      if view.healthy then earlierUsed best index view.rank
      else best) none
  best.map Prod.fst

------------------------------------------------------------
-- Routing
------------------------------------------------------------

/- The replica that a policy chooses, if one is healthy. -/
def Balancing.choose?
    (policy : Balancing)
    (replicas : List Candidate)
    (cursor : UInt64) : Except Overflow (Option Nat) :=
  match policy with
  | roundRobin => roundRobin? replicas cursor
  | leastRecentlyUsed => .ok (leastRecentlyUsed? replicas)

/-
  The place of a choice: the primary where there is none.
-/
def Target.ofChoice : Option Nat → Target
  | some index => replica index
  | none => primary

/-
  The place where a statement runs.  There is none for a
  read in a round that has to add up a sum which is too
  large.
-/
def Target.route
    (intent : Intent)
    (inTransaction : Bool)
    (replicas : List Candidate)
    (cursor : UInt64)
    (policy : Balancing) : Except Overflow Target :=
  if intent = .write || inTransaction ||
    replicas.isEmpty then
    .ok primary
  else
    (policy.choose? replicas cursor).map ofChoice

end SqlAccess
