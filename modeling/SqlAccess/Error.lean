import SqlAccess.Routing.Target
import SqlAccess.Time.Duration

/-
  This file defines the failures that callers see, their
  text, the statement that they are about, and the two
  classes that decide what happens next.

  Key definitions include:
    * `BindingSite`
    * `BindingReason`
    * `Error`
    * `Error.message`
    * `Error.sql?`
    * `Error.mayRetry`
    * `Error.spoilsConnection`
    * `Error.inStatement`
-/

namespace SqlAccess

------------------------------------------------------------
-- Binding Failures
------------------------------------------------------------

/-
  What a binding failure is about: a named placeholder, a
  positional slot counted over the retained placeholders, or
  the number of positional values as a whole.
-/
inductive BindingSite
  | named (name : String)
  | positional (slot : Nat)
  | count (consumed supplied : Nat)
deriving DecidableEq, Repr

/- The text of a binding site. -/
def BindingSite.text : BindingSite → String
  | named name => "parameter '" ++ name ++ "'"
  | positional slot =>
      "positional parameter #" ++ toString slot
  | count consumed supplied =>
      "positional parameters (template consumed " ++
        toString consumed ++ ", caller supplied " ++
        toString supplied ++ ")"

/- Why a placeholder could not be bound. -/
inductive BindingReason
  | missing
  | shortfall
  | surplus
  | cast (message : String)
deriving DecidableEq, Repr

/- The text of a binding reason. -/
def BindingReason.text : BindingReason → String
  | missing => "no value bound"
  | shortfall => "not enough positional values"
  | surplus => "too many positional values"
  | cast message => "cast failed: " ++ message

------------------------------------------------------------
-- Errors
------------------------------------------------------------

/- A failure. -/
inductive Error
  | templateSyntax
      (template : String) (offset : Nat) (message : String)
  | binding
      (template : String) (site : BindingSite)
      (reason : BindingReason)
  | invalidParameter
      (template : String) (site : BindingSite)
      (message : String)
  | clause (message : String)
  | poolExhausted
      (sql : String) (role : Role) (timeout : Duration)
  | connection (sql message : String)
  | statementTimeout (sql : String) (timeout : Duration)
  | query (sql message : String)
  | transaction (message : String)
  | resultShape (sql message : String)
  | config (message : String)
deriving DecidableEq, Repr

namespace Error

/- The statement at the end of a message. -/
def aboutSql (sql : String) : String :=
  " (sql: " ++ sql ++ ")"

/- The template at the end of a message. -/
def aboutTemplate (template : String) : String :=
  " (template: " ++ template ++ ")"

/- The text of a failure. -/
def message : Error → String
  | templateSyntax template offset message =>
      "Template syntax error at offset " ++
        toString offset ++
        ": " ++ message ++ aboutTemplate template
  | binding template site reason =>
      "Binding error for " ++ site.text ++ ": " ++
        reason.text ++ aboutTemplate template
  | invalidParameter template site message =>
      "Invalid parameter " ++ site.text ++ ": " ++
        message ++ aboutTemplate template
  | clause message => "Clause error: " ++ message
  | poolExhausted sql role timeout =>
      "Pool exhausted: no " ++ role.text ++
        " connection available within " ++ timeout.text ++
        aboutSql sql
  | connection sql message =>
      "Connection error: " ++ message ++ aboutSql sql
  | statementTimeout sql timeout =>
      "Statement timed out after " ++ timeout.text ++
        aboutSql sql
  | query sql message =>
      "Query error: " ++ message ++ aboutSql sql
  | transaction message => "Transaction error: " ++ message
  | resultShape sql message =>
      "Result shape error: " ++ message ++ aboutSql sql
  | config message => "Configuration error: " ++ message

/-
  The statement or template that a failure is about.  An
  empty one counts as none.
-/
def sql? (e : Error) : Option String :=
  let text? : Option String :=
    match e with
    | templateSyntax template _ _ => some template
    | binding template _ _ => some template
    | invalidParameter template _ _ => some template
    | poolExhausted sql _ _ => some sql
    | connection sql _ => some sql
    | statementTimeout sql _ => some sql
    | query sql _ => some sql
    | resultShape sql _ => some sql
    | clause _ => none
    | transaction _ => none
    | config _ => none
  text?.filter fun text => text ≠ ""

/- Whether the caller may try again after a pause. -/
def mayRetry : Error → Bool
  | poolExhausted _ _ _ => true
  | _ => false

/-
  Whether a failure spoils the connection it happened on.
-/
def spoilsConnection : Error → Bool
  | connection _ _ => true
  | statementTimeout _ _ => true
  | _ => false

/-
  Name the statement in a failure that comes from below the
  statements and names none.
-/
def inStatement
    (statement : String) : Error → Error
  | poolExhausted "" role timeout =>
      poolExhausted statement role timeout
  | connection "" message => connection statement message
  | query "" message => query statement message
  | resultShape "" message => resultShape statement message
  | e => e

end Error

end SqlAccess
