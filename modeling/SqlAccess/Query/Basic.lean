import SqlAccess.Transaction.Basic

/-
  This file defines queries: a template, its parameters and
  what is wanted of it.  A query runs on a database, on a
  connection that is held, or in a scope of a transaction.

  Key definitions include:
    * `Executor`
    * `Act.executor`
    * `Use.executor`
    * `Scope.executor`
    * `Query`
    * `Query.execute`
    * `Query.all`
    * `Query.one`
    * `Query.fetch`
-/

namespace SqlAccess

------------------------------------------------------------
-- Executors
------------------------------------------------------------

/- Something that runs bound statements. -/
structure Executor (m : Type → Type) where
  select : Intent → Bound → m (Except Error ResultSet)
  dml : Bound → m (Except Error Nat)
  batch : String → m (Except Error Unit)

namespace Act

variable {σ : Type}

/-
  Whether a failed read is tried once more: one that is not
  in a transaction, on a connection that broke.  A statement
  that took too long may still be running and is not tried
  again.
-/
def triesAgain
    (retry : Retry)
    (intent : Intent)
    (e : Error) : Bool :=
  match e with
  | .connection _ _ => intent = .read && retry = .once
  | _ => false

/-
  Run a statement for its rows, at the place that it is
  routed to.
-/
def select
    (intent : Intent)
    (statement : Bound) :
    Act σ (Except Error ResultSet) := do
  match ← checkoutRouted intent false with
  | .error e => return .error e
  | .ok conn =>
      let (result, used) ← (Use.select statement).run conn
      release used
      match result with
      | .ok rows => return .ok rows
      | .error e =>
          let db ← get
          if triesAgain db.config.readRetry intent e then
            withConnection (checkoutRouted intent false)
              (Use.select statement)
          else
            return .error e

/- Run a statement for its effect, on the primary. -/
def dml (statement : Bound) : Act σ (Except Error Nat) :=
  withConnection (checkoutRouted .write false)
    (Use.dml statement)

/- Run statements on a database. -/
def executor : Executor (Act σ) where
  select := select
  dml := dml
  batch := batch

end Act

/- Run statements on a connection. -/
def Use.executor {σ : Type} : Executor (Use σ) where
  select _ statement := Use.select statement
  dml := Use.dml
  batch := Use.batch

/- Run statements in a scope. -/
def Scope.executor
    {σ : Type}
    (scope : Scope) : Executor (Use σ) where
  select _ statement :=
    scope.whileActive (Use.select statement)
  dml statement := scope.whileActive (Use.dml statement)
  batch sql := scope.whileActive (Use.batch sql)

------------------------------------------------------------
-- Queries
------------------------------------------------------------

/-
  A template with its parameters.  The intent is found out
  if none is given, and so is the shape of rows.
-/
structure Query where
  sql : String
  params : Params
  intent : Option Intent
  shape : Option RowShape

namespace Query

/- A query of a template without parameters. -/
def new (sql : String) : Query :=
  ⟨sql, .empty, none, none⟩

/- Change the parameters. -/
def mapParams
    (query : Query)
    (change : Params → Params) : Query :=
  { query with params := change query.params }

/- Say whether the query reads. -/
def withIntent
    (query : Query)
    (intent : Intent) : Query :=
  { query with intent := some intent }

/- Run on the primary even if the query reads. -/
def onPrimary (query : Query) : Query :=
  query.withIntent .write

/- Say in which shape rows are wanted. -/
def withShape
    (query : Query)
    (shape : RowShape) : Query :=
  { query with shape := some shape }

/- The statement and its values. -/
def bound
    (query : Query)
    (dialect : Dialect) : Except Error Bound :=
  bindText query.sql query.params dialect

/- The intent of the query once it is bound. -/
def intentOf
    (query : Query)
    (statement : Bound) : Intent :=
  query.intent.getD (Intent.detect statement.query)

------------------------------------------------------------
-- Running Queries
------------------------------------------------------------

variable {m : Type → Type} [Monad m]

/- A result with the statement named in its failure. -/
def named
    {α : Type}
    (statement : Bound)
    (result : Except Error α) : Except Error α :=
  result.mapError fun e => e.inStatement statement.query

/- Run for the number of rows that the query changes. -/
def execute
    (query : Query)
    (dialect : Dialect)
    (executor : Executor m) : m (Except Error Nat) := do
  match query.bound dialect with
  | .error e => return .error e
  | .ok statement =>
      return named statement (← executor.dml statement)

/- Run for the rows, as the given function wants them. -/
def rowsAs
    {α : Type}
    (query : Query)
    (dialect : Dialect)
    (executor : Executor m)
    (wanted : ResultSet → Except Error α) :
    m (Except Error α) := do
  match query.bound dialect with
  | .error e => return .error e
  | .ok statement =>
      let intent := query.intentOf statement
      let result ← executor.select intent statement
      return named statement (result.bind wanted)

/- The rows. -/
def all
    (query : Query)
    (dialect : Dialect)
    (shape : RowShape)
    (executor : Executor m) : m (Except Error Rows) :=
  query.rowsAs dialect executor fun result =>
    .ok (result.toRows (query.shape.getD shape))

/- The first row, if there is one. -/
def one
    (query : Query)
    (dialect : Dialect)
    (shape : RowShape)
    (executor : Executor m) :
    m (Except Error (Option Row)) :=
  query.rowsAs dialect executor fun result =>
    .ok (result.toRows (query.shape.getD shape)).first?

/- The result in a shape. -/
def fetch
    (query : Query)
    (dialect : Dialect)
    (executor : Executor m)
    (shape : Shape) : m (Except Error Materialized) :=
  query.rowsAs dialect executor fun result =>
    (result.materialize shape).mapError ShapeFault.toError

/- The values of a single column. -/
def column
    (query : Query)
    (dialect : Dialect)
    (executor : Executor m) :
    m (Except Error (List Value)) :=
  query.rowsAs dialect executor fun result =>
    result.column.mapError ShapeFault.toError

/- The last row of each key. -/
def dictionary
    (query : Query)
    (dialect : Dialect)
    (executor : Executor m) :
    m (Except Error (Keyed Record)) :=
  query.rowsAs dialect executor fun result =>
    result.dictionary.mapError ShapeFault.toError

/- All rows of each key. -/
def groups
    (query : Query)
    (dialect : Dialect)
    (executor : Executor m) :
    m (Except Error (Keyed (List Record))) :=
  query.rowsAs dialect executor fun result =>
    result.groups.mapError ShapeFault.toError

end Query

end SqlAccess
