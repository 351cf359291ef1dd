import SqlAccess.Proofs.Pool.Caution
import SqlAccess.Proofs.Pool.Supply
import SqlAccess.Proofs.Transaction.Scope

/-
  This file follows any number of clients who share a
  database.  They check out connections, wait for them, run
  statements, begin and end transactions, and give the
  connections back, in any order.  The system keeps a
  session for each connection, in which a transaction is
  open or not.

  Key definitions include:
    * `Database.mayBeOpen`
    * `Engagement`
    * `Handling`
    * `Handling.carryOut`
    * `World`
    * `World.Deed`
    * `World.step`
    * `World.play`
    * `World.trace`

  Key theorems include:
    * `Database.Heard.mayBeOpen`
-/

namespace SqlAccess

------------------------------------------------------------
-- Server Sessions
------------------------------------------------------------

/- Whether a call was answered. -/
def Fate.isDone : Fate → Bool
  | done => true
  | _ => false

/-
  Whether a transaction may be open after a command.  A
  transaction that could not begin is not open, unless the
  connection broke or the command took too long.
-/
def Command.leavesOpen
    (fate : Fate)
    (wasOpen : Bool) : Command → Bool
  | begin => wasOpen || fate.isDone || !fate.isHarmless
  | commit => wasOpen && !fate.isDone
  | rollback => wasOpen && !fate.isDone
  | _ => wasOpen

/- Whether a transaction may be open after a call. -/
def Call.leavesOpen
    (wasOpen : Bool)
    (entry : Call × Fate) : Bool :=
  (entry.1.commands?.getD []).foldl
    (Command.leavesOpen entry.2) wasOpen

/- Whether a transaction may be open after some calls. -/
def Call.openAfter
    (wasOpen : Bool)
    (calls : List (Call × Fate)) : Bool :=
  calls.foldl Call.leavesOpen wasOpen

namespace Database

variable {σ : Type}

/- All calls on a connection so far. -/
def callsOn
    (db : Database σ)
    (id : Nat) : List (Call × Fate) :=
  db.history.reverse.filterMap (Event.callOn? id)

/-
  Whether the session of a connection may have a
  transaction.
-/
def mayBeOpen (db : Database σ) (id : Nat) : Bool :=
  Call.openAfter false (db.callsOn id)

/- The calls in between decide about the session. -/
theorem Heard.mayBeOpen
    {id : Nat}
    {calls : List (Call × Fate)}
    {before after : Database σ}
    (hHeard : Heard id calls before after) :
    after.mayBeOpen id =
      Call.openAfter (before.mayBeOpen id) calls := by
  rcases hHeard with ⟨events, hAfter, rfl⟩
  simp [Database.mayBeOpen, callsOn, hAfter, Call.openAfter]

end Database

namespace Call

/- Only control statements change a session. -/
theorem leavesOpen_of_ordinary
    {call : Call}
    (hOrdinary : call.isControl = false)
    (wasOpen : Bool)
    (fate : Fate) :
    leavesOpen wasOpen (call, fate) = wasOpen := by
  have hNone : call.commands? = none := by
    simpa [isControl] using hOrdinary
  simp [leavesOpen, hNone]

/-
  Calls that only stop what runs open and end no
  transaction.
-/
theorem openAfter_of_cancels
    {calls : List (Call × Fate)}
    (hCancels : Use.OnlyCancels calls)
    (wasOpen : Bool) :
    openAfter wasOpen calls = wasOpen := by
  induction calls with
  | nil => rfl
  | cons entry rest ih =>
      rcases entry with ⟨call, fate⟩
      have hCall : call = .cancel :=
        hCancels (call, fate) (by simp)
      have hRest : Use.OnlyCancels rest := by
        intro later hLater
        exact hCancels later (List.mem_cons_of_mem _ hLater)
      subst hCall
      exact ih hRest

theorem commands?_begin :
    (batch "BEGIN").commands? = some [.begin] := by
  rw [commands?_batch]
  decide

/- A transaction that has ended is not open. -/
theorem openAfter_of_ended
    {sql : String}
    {pending : List String}
    {calls : List (Call × Fate)}
    (hEnd : sql = "COMMIT" ∨ sql = "ROLLBACK")
    (hPerformed :
      Use.Performed (.batch sql) pending calls true)
    (wasOpen : Bool) :
    openAfter wasOpen calls = false := by
  cases hPerformed with
  | sent hSent =>
      cases hSent with
      | answered =>
          unfold openAfter
          rw [List.foldl_append]
          rcases hEnd with rfl | rfl
          · simp [leavesOpen, Command.leavesOpen,
              Fate.isDone]
          · simp [leavesOpen, Command.leavesOpen,
              Fate.isDone]

/-
  A statement with nothing pending before it changes the
  session as far as its own call does.
-/
theorem openAfter_of_performed
    {call : Call}
    {calls : List (Call × Fate)}
    {ok : Bool}
    (hPerformed : Use.Performed call [] calls ok)
    (wasOpen : Bool) :
    ∃ fate,
      (call, fate) ∈ calls ∧ fate.isDone = ok ∧
        openAfter wasOpen calls =
          leavesOpen wasOpen (call, fate) := by
  cases hPerformed with
  | sent hSent =>
      cases hSent with
      | answered =>
          exact ⟨.done, by simp [Use.flushed], rfl, rfl⟩
      | @failed fate cancels hFate hCancels =>
          refine ⟨fate, by simp [Use.flushed], ?_, ?_⟩
          · cases fate <;> simp_all [Fate.isDone]
          · exact openAfter_of_cancels hCancels _
  | stuck hStuck =>
      rcases hStuck with
        ⟨before, sql, later, _, hNil, _⟩
      cases before <;> cases hNil

end Call

------------------------------------------------------------
-- Handling a Connection
------------------------------------------------------------

/-
  What a connection that is held is engaged in: nothing, or
  a transaction with its innermost scope and the scopes
  around it, or a transaction that was left and must be
  undone.
-/
inductive Engagement
  | free
  | inside (scope : Scope) (outer : List Scope)
  | abandoned

/- What a client does with a connection. -/
inductive Handling
  | run (statement : Session.Statement)
  | ping
  | spoil
  | begin
  | finish (ending : Session.Ending)
  | undo

namespace Handling

variable {σ : Type}

/- Run a statement outside of transactions. -/
def runFree : Session.Statement → Use σ Bool
  | .select intent statement => do
      return (← Use.executor.select intent statement).isOk
  | .dml statement => do
      return (← Use.executor.dml statement).isOk
  | .batch sql => do
      return (← Use.executor.batch sql).isOk

/-
  End a whole transaction.  One that is left is still to be
  undone, or its connection is not relied on any more.
-/
def endOutermost
    (scope : Scope) : Session.Ending → Use σ Engagement
  | .commit => do
      let _ ← scope.commit
      return .free
  | .rollback => do
      let _ ← scope.rollback
      return .free
  | .drop false => do
      let _ ← scope.abandon
      return .abandoned
  | .drop true => do
      let _ ← scope.abandon
      Use.spoil
      return .free

/- Do something with a connection, if it can be done. -/
def carryOut : Handling → Engagement → Use σ Engagement
  | run statement, .free => do
      let _ ← runFree statement
      return .free
  | run statement, .inside scope outer => do
      let _ ← statement.run scope
      return .inside scope outer
  | ping, .free => do
      let _ ← Use.ping
      return .free
  | spoil, .free => do
      Use.spoil
      return .free
  | begin, .free => do
      match ← Scope.beginOutermost with
      | .ok scope => return .inside scope []
      | .error _ => return .free
  | begin, .inside scope outer => do
      match ← scope.begin with
      | .ok inner => return .inside inner (scope :: outer)
      | .error _ => return .inside scope outer
  | finish ending, .inside scope [] =>
      endOutermost scope ending
  | finish ending, .inside scope (parent :: outer) => do
      let _ ← Session.endNested scope ending
      return .inside parent outer
  | undo, .abandoned => do
      Scope.rollbackAbandoned
      return .free
  | _, engagement => return engagement

/- Statements of clients control no transactions. -/
def IsOrdinary : Handling → Prop
  | run statement => statement.call.isControl = false
  | _ => True

end Handling

------------------------------------------------------------
-- Worlds
------------------------------------------------------------

/- A connection that is held, and what it is engaged in. -/
structure Holding where
  conn : Connection
  engagement : Engagement

/-
  A database with its clients: the connections that they
  hold, and the clients who wait for one.
-/
structure World (σ : Type) where
  db : Database σ
  held : List Holding
  waiters : List Waiter

namespace World

variable {σ : Type}

/- How a client asks for a connection. -/
inductive Demand
  | target (target : Target)
  | role (role : Role)
  | routed (intent : Intent) (inTransaction : Bool)

/- Check out a connection. -/
def Demand.serve :
    Demand → Act σ (Except Error Connection)
  | target place => Act.checkoutAt place
  | role wanted => Act.checkout wanted
  | routed intent inTransaction =>
      Act.checkoutRouted intent inTransaction

/-
  What a client does next: ask for a connection and wait to
  the end, ask and wait for some time, do something with a
  connection, give it back or just let go of it, leave a
  replica alone for a while, or close the database.  Held
  connections and waiters are named by their places.
-/
inductive Deed
  | checkout (demand : Demand)
  | ask (role : Role)
  | await (place : Nat)
  | handle (place : Nat) (handling : Handling)
  | checkin (place : Nat)
  | drop (place : Nat)
  | suspect (target : Target)
  | close

/- Statements of clients control no transactions. -/
def Deed.IsOrdinary : Deed → Prop
  | handle _ handling => handling.IsOrdinary
  | _ => True

/- A database that nobody has used yet. -/
def new
    (config : Config)
    (backend : Backend σ)
    (memory : σ) : World σ :=
  ⟨.new config backend memory, [], []⟩

/- All connections that are idle or held. -/
def conns (world : World σ) : List Connection :=
  world.db.idle ++ world.held.map Holding.conn

/- A client takes what a checkout hands out. -/
def receive
    (world : World σ)
    (result : Except Error Connection) :
    Option Connection × World σ :=
  match result with
  | .ok conn =>
      (some conn,
        { world with
          held := ⟨conn, .free⟩ :: world.held })
  | .error _ => (none, world)

/- Let go of a connection that is engaged in nothing. -/
def letGo
    (world : World σ)
    (place : Nat)
    (release : Connection → Act σ Unit) : World σ :=
  match world.held[place]? with
  | some ⟨conn, .free⟩ =>
      { world with
        db := ((release conn).run world.db).2
        held := world.held.eraseIdx place }
  | _ => world

/-
  What a deed makes of the world, and the connection that a
  checkout hands out.
-/
def step
    (deed : Deed)
    (world : World σ) : Option Connection × World σ :=
  match deed with
  | .checkout demand =>
      let (result, db) := demand.serve.run world.db
      { world with db := db }.receive result
  | .ask role =>
      match (Waiter.start role).run world.db with
      | (.ok result, db) =>
          { world with db := db }.receive result
      | (.error waiter, db) =>
          (none,
            { world with
              db := db
              waiters := waiter :: world.waiters })
  | .await place =>
      match world.waiters[place]? with
      | some waiter =>
          let (result, db) := waiter.finish.run world.db
          { world with
            db := db
            waiters :=
              world.waiters.eraseIdx place }.receive result
      | none => (none, world)
  | .handle place handling =>
      match world.held[place]? with
      | some holding =>
          let ((engagement, used), db) :=
            ((handling.carryOut holding.engagement).run
              holding.conn).run world.db
          (none,
            { world with
              db := db
              held :=
                world.held.set place
                  ⟨used, engagement⟩ })
      | none => (none, world)
  | .checkin place => (none, world.letGo place Act.checkin)
  | .drop place => (none, world.letGo place Act.release)
  | .suspect target =>
      (none,
        { world with
          db :=
            ((Act.markReplicaDown target).run world.db).2 })
  | .close =>
      (none,
        { world with db := (Act.close.run world.db).2 })

/- The world after some deeds. -/
def play : List Deed → World σ → World σ
  | [], world => world
  | deed :: rest, world => play rest (step deed world).2

/- The worlds before and after each of some deeds. -/
def trace : List Deed → World σ → List (World σ)
  | [], world => [world]
  | deed :: rest, world =>
      world :: trace rest (step deed world).2

end World

end SqlAccess
