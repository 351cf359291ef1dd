/-
  This file defines how databases want their parameters
  marked in a statement, and what becomes of a list without
  values.

  Key definitions include:
    * `MarkerStyle`
    * `MarkerStyle.marker`
    * `EmptyList`
    * `Dialect`
-/

namespace SqlAccess

/-
  The form of a marker: `$1`, `?1`, `?` or `@p1`.
-/
inductive MarkerStyle
  | dollar
  | numbered
  | bare
  | atSign
deriving DecidableEq, Repr, Inhabited

/- The marker of the parameter of a number, from one. -/
def MarkerStyle.marker
    (style : MarkerStyle)
    (number : Nat) : String :=
  match style with
  | dollar => "$" ++ toString number
  | numbered => "?" ++ toString number
  | bare => "?"
  | atSign => "@p" ++ toString number

/-
  What a list without values becomes: a failure, or a null,
  which nothing is equal to.
-/
inductive EmptyList
  | reject
  | alwaysFalse
deriving DecidableEq, Repr, Inhabited

/- How statements are written for a database. -/
structure Dialect where
  style : MarkerStyle
  emptyList : EmptyList
deriving DecidableEq, Repr

end SqlAccess
