import SqlAccess.Number.Binary64

/-
  This file defines JSON documents.  A number keeps the kind
  it was written as, and the members of an object are kept
  in increasing order of their names, one of each name.

  Key definitions include:
    * `Json.Number`
    * `Json`
    * `Json.insertMember`
    * `Json.ofMembers`
    * `Json.member?`
    * `Json.same`
-/

namespace SqlAccess

------------------------------------------------------------
-- Documents
------------------------------------------------------------

/-
  A number: a whole number that fits 64 bits, not negative
  or negative, or a floating-point number.
-/
inductive Json.Number
  | natural (n : UInt64)
  | negative (n : Int64)
  | float (x : Binary64)
deriving DecidableEq, Repr, Inhabited

/- A JSON document. -/
inductive Json
  | null
  | bool (b : Bool)
  | number (n : Json.Number)
  | string (s : String)
  | array (items : List Json)
  | object (members : List (String × Json))
deriving Repr, Inhabited

namespace Json

------------------------------------------------------------
-- Members
------------------------------------------------------------

/-
  Add a member at its place in the order of names; a member
  of the same name is replaced.
-/
def insertMember
    (name : String)
    (value : Json) :
    List (String × Json) → List (String × Json)
  | [] => [(name, value)]
  | (other, old) :: rest =>
      if name < other then
        (name, value) :: (other, old) :: rest
      else if name = other then
        (name, value) :: rest
      else
        (other, old) :: insertMember name value rest

/- An object from members in any order; the last wins. -/
def ofMembers (members : List (String × Json)) : Json :=
  .object <|
    members.foldl (fun all (name, value) =>
      insertMember name value all) []

/- The member of a name. -/
def member?
    (document : Json)
    (name : String) : Option Json :=
  match document with
  | .object members => members.lookup name
  | _ => none

------------------------------------------------------------
-- Equality
------------------------------------------------------------

/-
  Numbers of different kinds differ; floating-point numbers
  are compared as numbers.
-/
def Number.same : Number → Number → Bool
  | .natural m, .natural n => m == n
  | .negative m, .negative n => m == n
  | .float x, .float y => x.numericEq y
  | _, _ => false

mutual

/- Whether two documents are equal. -/
def same : Json → Json → Bool
  | .null, .null => true
  | .bool a, .bool b => a == b
  | .number m, .number n => m.same n
  | .string s, .string t => s == t
  | .array xs, .array ys => sameItems xs ys
  | .object xs, .object ys => sameMembers xs ys
  | _, _ => false

/- Whether two lists of documents are equal. -/
def sameItems : List Json → List Json → Bool
  | [], [] => true
  | x :: xs, y :: ys => same x y && sameItems xs ys
  | _, _ => false

/- Whether two lists of members are equal. -/
def sameMembers :
    List (String × Json) → List (String × Json) → Bool
  | [], [] => true
  | (k, x) :: xs, (l, y) :: ys =>
      k == l && same x y && sameMembers xs ys
  | _, _ => false

end

end Json

end SqlAccess
