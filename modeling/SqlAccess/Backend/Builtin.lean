import SqlAccess.Backend.Address
import SqlAccess.Backend.Basic
import SqlAccess.Backend.Select

/-
  This file defines the backends of the two database systems
  as far as they answer without storage and without a
  network: an SQLite database in memory that nothing is
  stored in, and the PostgreSQL addresses that are refused
  before they are tried.

  Key definitions include:
    * `Backend.sqlite`
    * `Backend.postgres`
    * `Backend.builtin`
-/

namespace SqlAccess

namespace Backend

------------------------------------------------------------
-- Replies
------------------------------------------------------------

/- The reply that a result stands for. -/
def replyOf
    {α : Type} : Except Error α → Reply α
  | .ok a => .done a
  | .error e => .failed e

/- A failure to connect. -/
def unreachable (message : String) : Except Error Unit :=
  .error (.connection "" message)

------------------------------------------------------------
-- SQLite
------------------------------------------------------------

/-
  Open a database.  A path into a directory leads nowhere,
  for there are no directories in memory.
-/
def openSqlite (path : String) : Except Error Unit :=
  if path.toList.contains '/' then
    unreachable
      ("failed to open sqlite database " ++ path ++
        ": unable to open database file: " ++ path)
  else
    .ok ()

/- Answer a call without tables. -/
def answerSqlite :
    (call : Call) → Except Error call.Answer
  | .batch _ => .ok ()
  | .select statement =>
      Select.answer statement.query statement.params
  | .dml statement =>
      .error <|
        .query statement.query
          ("Execute returned results - did you mean to call " ++
            "query?")
  | .ping => .ok ()
  | .cancel => .ok ()

/- A database in memory. -/
def sqlite {σ : Type} : Backend σ where
  kind := .sqlite
  style := BackendKind.sqlite.style
  cancellable := true
  connect path memory := (replyOf (openSqlite path), memory)
  perform _ call memory :=
    (replyOf (answerSqlite call), memory)

------------------------------------------------------------
-- PostgreSQL
------------------------------------------------------------

/- Try a server.  None can be reached without a network. -/
def openPostgres (address : String) : Except Error Unit :=
  let reason :=
    match Address.fault? address with
    | some fault => fault.message
    | none => "error connecting to server"
  unreachable ("postgres connect error: " ++ reason)

/- A server that cannot be reached. -/
def postgres {σ : Type} : Backend σ where
  kind := .postgres
  style := BackendKind.postgres.style
  cancellable := true
  connect address memory :=
    (replyOf (openPostgres address), memory)
  perform _ _ memory := (.silent, memory)

/- The backend of a kind. -/
def builtin {σ : Type} : BackendKind → Backend σ
  | .sqlite => sqlite
  | .postgres => postgres

end Backend

end SqlAccess
