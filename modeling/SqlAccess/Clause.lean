import SqlAccess.Error
import SqlAccess.Text.Blank

/-
  This file builds the parts of statements that are not
  values: sort orders and column lists.  Callers choose them
  by key, and only expressions that were listed beforehand
  reach the statement.

  Key definitions include:
    * `Fragment`
    * `Direction.ofText?`
    * `ClauseFault`
    * `Whitelist`
    * `Whitelist.orderBy`
    * `Whitelist.columns`
-/

namespace SqlAccess

------------------------------------------------------------
-- Fragments
------------------------------------------------------------

/-
  A part of a statement that is written as it is.  The
  functions of this file are the only ones that make one.
-/
structure Fragment where
  private mk ::
  sql : String
deriving DecidableEq, Repr

------------------------------------------------------------
-- Directions
------------------------------------------------------------

/- The direction of a sort. -/
inductive Direction
  | ascending
  | descending
deriving DecidableEq, Repr

/- The keyword of a direction. -/
def Direction.sql : Direction → String
  | ascending => "ASC"
  | descending => "DESC"

/- Why a clause cannot be built. -/
inductive ClauseFault
  | unknownKey (key : String)
  | unknownDirection (word : String)
  | noKeys (clause : String)
deriving DecidableEq, Repr

namespace ClauseFault

/- The text of a clause fault. -/
def message : ClauseFault → String
  | unknownKey key => "unknown clause key '" ++ key ++ "'"
  | unknownDirection word =>
      "invalid sort direction '" ++ word ++ "'"
  | noKeys clause => clause ++ " needs at least one key"

/- A clause fault as a failure. -/
def toError (fault : ClauseFault) : Error :=
  .clause fault.message

end ClauseFault

namespace Direction

/-
  A word without the white space around it, in lower-case
  ASCII letters.
-/
def normalized (text : String) : String :=
  String.ofList ((Blank.trim text.toList).map Char.toLower)

/- The direction that a word names. -/
def ofText?
    (text : String) :
    Except ClauseFault Direction :=
  let word := normalized text
  if word ∈ ["asc", "ascending"] then .ok ascending
  else if word ∈ ["desc", "descending"] then
    .ok descending
  else .error (.unknownDirection word)

end Direction

------------------------------------------------------------
-- Whitelists
------------------------------------------------------------

/-
  The expressions that callers may choose by key, the most
  recently listed first.
-/
structure Whitelist where
  entries : List (String × String)
deriving Repr

namespace Whitelist

/- A whitelist; the last expression of a key counts. -/
def ofList
    (entries : List (String × String)) :
    Whitelist :=
  ⟨entries.reverse⟩

/- The expression of a key. -/
def expression?
    (whitelist : Whitelist)
    (key : String) : Except ClauseFault String :=
  match whitelist.entries.lookup key with
  | some expression => .ok expression
  | none => .error (.unknownKey key)

/- Whether a key is listed. -/
def contains
    (whitelist : Whitelist)
    (key : String) : Bool :=
  (whitelist.entries.lookup key).isSome

/- One item of a sort order. -/
def sortItem
    (whitelist : Whitelist)
    (key direction : String) :
    Except ClauseFault String := do
  let expression ← whitelist.expression? key
  let direction ← Direction.ofText? direction
  return expression ++ " " ++ direction.sql

/- Items with commas between them; there must be one. -/
def joined
    (clause : String)
    (items : List String) : Except ClauseFault Fragment :=
  if items.isEmpty then .error (.noKeys clause)
  else .ok ⟨", ".intercalate items⟩

/- A sort order, from keys and words for directions. -/
def orderBy
    (whitelist : Whitelist)
    (pairs : List (String × String)) :
    Except ClauseFault Fragment := do
  let items ← pairs.mapM fun (key, direction) =>
    whitelist.sortItem key direction
  joined "order_by" items

/- A list of columns, from keys. -/
def columns
    (whitelist : Whitelist)
    (keys : List String) : Except ClauseFault Fragment := do
  let items ← keys.mapM whitelist.expression?
  joined "columns" items

end Whitelist

end SqlAccess
