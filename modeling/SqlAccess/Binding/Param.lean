import SqlAccess.Clause
import SqlAccess.Value.Basic

/-
  This file defines what callers supply for the placeholders
  of a template.

  Key definitions include:
    * `Param`
    * `Params`
    * `Params.insert`
    * `Params.push`
    * `Params.get?`
    * `Params.contains`
-/

namespace SqlAccess

------------------------------------------------------------
-- Parameters
------------------------------------------------------------

/-
  What is supplied for one placeholder: a value, several
  values, or a part of a statement.
-/
inductive Param
  | value (v : Value)
  | list (items : List Value)
  | fragment (f : Fragment)

/-
  Everything that is supplied for one statement.  Each name
  is bound at most once.  A bound null is bound.
-/
structure Params where
  named : List (String × Param)
  positional : List Param

namespace Params

/- Nothing supplied. -/
def empty : Params := ⟨[], []⟩

/-
  Bind a name in a list, in place of what it was bound to.
-/
def insertNamed
    (name : String)
    (param : Param) :
    List (String × Param) → List (String × Param)
  | [] => [(name, param)]
  | (other, old) :: rest =>
      if other = name then (name, param) :: rest
      else (other, old) :: insertNamed name param rest

/- Bind a name. -/
def insert
    (params : Params)
    (name : String)
    (param : Param) : Params :=
  { params with
    named := insertNamed name param params.named }

/- Bind a name only if there is something to bind. -/
def insert?
    (params : Params)
    (name : String)
    (param : Option Param) : Params :=
  match param with
  | some param => params.insert name param
  | none => params

/- Supply one more positional parameter. -/
def push
    (params : Params)
    (param : Param) : Params :=
  { params with positional := params.positional ++ [param] }

/-
  Bind names one after the other; the last binding counts.
-/
def ofList (pairs : List (String × Param)) : Params :=
  pairs.foldl (fun params (name, param) =>
    params.insert name param) empty

/- What a name is bound to. -/
def get?
    (params : Params)
    (name : String) : Option Param :=
  params.named.lookup name

/- Whether a name is bound. -/
def contains
    (params : Params)
    (name : String) : Bool :=
  (params.get? name).isSome

/- Whether nothing is supplied. -/
def isEmpty (params : Params) : Bool :=
  params.named.isEmpty && params.positional.isEmpty

end Params

end SqlAccess
