import SqlAccess.Proofs.Pool.Seeking
import SqlAccess.Proofs.Pool.Tracking

/-
  This file follows any number of clients who share a
  database and get in each other's way wherever they can: a
  client who waits for a place or for a connection to open,
  and one whose connection has several calls to make, is
  overtaken by others at any time.  All calls are noted,
  with the client whom they are made for.

  Key definitions include:
    * `Crowd`
    * `Crowd.Client`
    * `Crowd.Seeker`
    * `Crowd.Holder`
    * `Crowd.Entry`
    * `Crowd.Move`
    * `Crowd.step`
    * `Crowd.play`
    * `Crowd.Step`

  Key theorems include:
    * `Crowd.step_cases`
    * `Crowd.play_keeps`
-/

namespace SqlAccess

variable {σ : Type}

------------------------------------------------------------
-- Clients
------------------------------------------------------------

namespace Crowd

/-
  What a client asks for: a connection, or a transaction.
-/
inductive Purpose
  | connection
  | transaction
deriving DecidableEq

/-
  What can be done with a connection that is engaged in
  something.  A client has one transaction at most: it
  begins at the client's first turn, and nothing can be done
  with the connection after its end.
-/
def Purpose.allows
    (turn : Nat) :
    Purpose → Engagement → Handling → Bool
  | connection, .free, .run _ => true
  | connection, .free, .ping => true
  | connection, .free, .spoil => true
  | transaction, .free, .begin => turn = 0
  | transaction, .inside _ _, .run _ => true
  | transaction, .inside _ _, .begin => true
  | transaction, .inside _ _, .finish _ => true
  | transaction, .abandoned, .undo => true
  | _, _, _ => false

/- A client, with a number that no other one has. -/
structure Client where
  number : Nat
  purpose : Purpose
deriving DecidableEq

/- A client who waits. -/
structure Seeker where
  client : Client
  waiter : Waiter

/-
  A client who has a connection, what it is doing, and how
  often the client has done something with it.
-/
structure Holder where
  client : Client
  turn : Nat
  conn : Connection
  activity : Activity

/-
  A call on a connection: the client whom it was made for,
  the place, and what the call was to the client's
  transaction.
-/
structure Entry where
  client : Client
  target : Target
  part : Part
  id : Nat
  call : Call
  fate : Fate

namespace Entry

/- A call that has begun the transaction of its client. -/
def Begins (entry : Entry) : Prop :=
  entry.part.Begins (entry.call, entry.fate)

/- A call that has ended the transaction of its client. -/
def Ends (entry : Entry) : Prop :=
  entry.part.Ends (entry.call, entry.fate)

end Entry

/- The entry of an event, if it is a call. -/
def Holder.entry?
    (holder : Holder)
    (part : Part) : Event → Option Entry
  | .called id call fate =>
      some
        { client := holder.client
          target := holder.conn.target
          part := part
          id := id
          call := call
          fate := fate }
  | _ => none

/-
  The calls between two states of a database, with the
  latest one first.
-/
def Holder.entries
    (holder : Holder)
    (part : Part)
    (before after : Database σ) : List Entry :=
  let events := after.history.take
    (after.history.length - before.history.length)
  events.filterMap (holder.entry? part)

end Crowd

------------------------------------------------------------
-- Crowds
------------------------------------------------------------

/-
  A database with its clients: those who wait, those who
  have a connection, and how many there have been.  The
  calls that were made and those that were submitted are
  noted, with the latest one first.
-/
structure Crowd (σ : Type) where
  db : Database σ
  seekers : List Crowd.Seeker
  holders : List Crowd.Holder
  joined : Nat
  log : List Crowd.Entry
  submitted : List (Crowd.Client × Call)

namespace Crowd

/- A database that nobody has used yet. -/
def new
    (config : Config)
    (backend : Backend σ)
    (memory : σ) : Crowd σ :=
  ⟨.new config backend memory, [], [], 0, [], []⟩

/-
  What may happen next: a client asks for a connection or
  for a transaction, or what a client waits for comes to an
  end; a client begins to do something with a connection, or
  makes the next call; a client gives a connection back or
  just lets go of it; a replica is left alone for a while;
  or the database is closed.  Clients are named by their
  places.
-/
inductive Move
  | ask (demand : World.Demand)
  | begin
  | await (place : Nat) (inTime : Bool)
  | handle (place : Nat) (handling : Handling)
  | advance (place : Nat)
  | checkin (place : Nat)
  | drop (place : Nat)
  | suspect (target : Target)
  | close

/-
  A client goes on with a checkout.  What it ended with, if
  it did, is given back beside the crowd.
-/
def settle
    (crowd : Crowd σ)
    (client : Client)
    (answer : Except Waiter (Except Error Connection)) :
    Option (Except Error Connection) × Crowd σ :=
  match answer with
  | .error waiter =>
      (none,
        { crowd with
          seekers :=
            ⟨client, waiter⟩ :: crowd.seekers })
  | .ok (.ok conn) =>
      (some (.ok conn),
        { crowd with
          holders :=
            ⟨client, 0, conn, .resting .free⟩ ::
              crowd.holders })
  | .ok (.error e) => (some (.error e), crowd)

/- A client takes the next part of a checkout. -/
def seek
    (crowd : Crowd σ)
    (client : Client)
    (part :
      Act σ (Except Waiter (Except Error Connection))) :
    Option (Except Error Connection) × Crowd σ :=
  let (answer, db) := part.run crowd.db
  { crowd with db := db }.settle client answer

/- A new client asks for a connection. -/
def join
    (crowd : Crowd σ)
    (purpose : Purpose)
    (demand : World.Demand) :
    Option (Except Error Connection) × Crowd σ :=
  { crowd with joined := crowd.joined + 1 }.seek
    ⟨crowd.joined, purpose⟩ (Waiter.begin demand)

/- What a client waits for comes to an end. -/
def await
    (crowd : Crowd σ)
    (place : Nat)
    (inTime : Bool) :
    Option (Except Error Connection) × Crowd σ :=
  match crowd.seekers[place]? with
  | some seeker =>
      { crowd with
        seekers := crowd.seekers.eraseIdx place }.seek
          seeker.client (seeker.waiter.proceed inTime)
  | none => (none, crowd)

/-
  A client does something with a connection, in a part of a
  transaction.  The calls that are made and the calls that
  are submitted are noted.
-/
def work
    (crowd : Crowd σ)
    (place : Nat)
    (holder : Holder)
    (part : Part)
    (submits : Activity → List Call)
    (use : Use σ Activity) : Crowd σ :=
  let ((activity, used), db) :=
    (use.run holder.conn).run crowd.db
  let calls := (submits activity).reverse
  { crowd with
    db := db
    holders := crowd.holders.set place
      { holder with conn := used, activity := activity }
    log := holder.entries part crowd.db db ++ crowd.log
    submitted :=
      calls.map (holder.client, ·) ++ crowd.submitted }

/-
  A client begins to do something with a connection.
  Nothing can be done while a call never ends.
-/
def handle
    (crowd : Crowd σ)
    (place : Nat)
    (handling : Handling) : Crowd σ :=
  match crowd.holders[place]? with
  | some ⟨client, turn, conn, .resting engagement⟩ =>
      if !conn.unanswered &&
          client.purpose.allows turn engagement
            handling then
        crowd.work place
          ⟨client, turn + 1, conn, .resting engagement⟩
            .work
          Activity.calls (handling.prepare engagement)
      else crowd
  | _ => crowd

/- A client makes the next call. -/
def advance
    (crowd : Crowd σ)
    (place : Nat) : Crowd σ :=
  match crowd.holders[place]? with
  | some ⟨client, turn, conn, .working errand⟩ =>
      if conn.unanswered then crowd
      else
        crowd.work place
          ⟨client, turn, conn, .working errand⟩
          errand.part (fun _ => []) errand.advance
  | _ => crowd

/- A client lets go of a connection engaged in nothing. -/
def letGo
    (crowd : Crowd σ)
    (place : Nat)
    (release : Connection → Act σ Unit) : Crowd σ :=
  match crowd.holders[place]? with
  | some ⟨_, _, conn, .resting .free⟩ =>
      if conn.unanswered then crowd
      else
        { crowd with
          db := ((release conn).run crowd.db).2
          holders := crowd.holders.eraseIdx place }
  | _ => crowd

/-
  What happens, and the end of a checkout if it ends there.
-/
def step
    (move : Move)
    (crowd : Crowd σ) :
    Option (Except Error Connection) × Crowd σ :=
  match move with
  | .ask demand => crowd.join .connection demand
  | .begin => crowd.join .transaction (.role .primary)
  | .await place inTime => crowd.await place inTime
  | .handle place handling =>
      (none, crowd.handle place handling)
  | .advance place => (none, crowd.advance place)
  | .checkin place => (none, crowd.letGo place Act.checkin)
  | .drop place => (none, crowd.letGo place Act.release)
  | .suspect target =>
      (none,
        { crowd with
          db :=
            ((Act.markReplicaDown target).run crowd.db).2 })
  | .close =>
      (none,
        { crowd with db := (Act.close.run crowd.db).2 })

/- The crowd after some moves. -/
def play : List Move → Crowd σ → Crowd σ
  | [], crowd => crowd
  | move :: rest, crowd => play rest (step move crowd).2

------------------------------------------------------------
-- What a Move Does
------------------------------------------------------------

/-
  Who is at a place is one of all, and the others are left.
-/
theorem perm_eraseIdx
    {α : Type}
    {all : List α}
    {place : Nat}
    {one : α}
    (hOne : all[place]? = some one) :
    all.Perm (one :: all.eraseIdx place) := by
  rcases List.getElem?_eq_some_iff.1 hOne with
    ⟨hPlace, rfl⟩
  exact (List.getElem_cons_eraseIdx_perm hPlace).symm

/-
  What can become of a crowd with one move, with what a
  checkout ended with.
-/
inductive Step (crowd : Crowd σ) :
    Option (Except Error Connection) × Crowd σ → Prop
  | nothing : Step crowd (none, crowd)
  | asked
      (purpose : Purpose)
      (demand : World.Demand)
      (hPrimary :
        purpose = .transaction →
          demand = .role .primary) :
      Step crowd (crowd.join purpose demand)
  | awaited
      {place : Nat}
      {seeker : Seeker}
      (inTime : Bool)
      (hSeeker : crowd.seekers[place]? = some seeker) :
      Step crowd
        ({ crowd with
          seekers := crowd.seekers.eraseIdx place }.seek
            seeker.client (seeker.waiter.proceed inTime))
  | handled
      {place : Nat}
      {holder : Holder}
      {engagement : Engagement}
      {handling : Handling}
      (hHolder : crowd.holders[place]? = some holder)
      (hActivity : holder.activity = .resting engagement)
      (hAllowed :
        holder.client.purpose.allows holder.turn engagement
          handling = true) :
      Step crowd
        (none,
          crowd.work place { holder with
            turn := holder.turn + 1 }
            .work Activity.calls
              (handling.prepare engagement))
  | advanced
      {place : Nat}
      {holder : Holder}
      {errand : Errand}
      (hHolder : crowd.holders[place]? = some holder)
      (hActivity : holder.activity = .working errand) :
      Step crowd
        (none,
          crowd.work place holder errand.part (fun _ => [])
            errand.advance)
  | released
      {place : Nat}
      {holder : Holder}
      {release : Connection → Act σ Unit}
      (hHolder : crowd.holders[place]? = some holder)
      (hAnswered : holder.conn.unanswered = false)
      (hRelease :
        release = Act.checkin ∨ release = Act.release) :
      Step crowd
        (none,
          { crowd with
            db := ((release holder.conn).run crowd.db).2
            holders := crowd.holders.eraseIdx place })
  | suspected (target : Target) :
      Step crowd
        (none,
          { crowd with
            db :=
              ((Act.markReplicaDown target).run crowd.db).2
                })
  | closed :
      Step crowd
        (none,
          { crowd with db := (Act.close.run crowd.db).2 })

section Cases

variable (crowd : Crowd σ) (place : Nat)

/-
  However a holder handles a connection, the crowd makes one
  of its steps.
-/
theorem handle_cases (handling : Handling) :
    Step crowd (none, crowd.handle place handling) := by
  fun_cases handle crowd place handling
  case case1 client turn conn engagement hHolder hReady =>
    rw [Bool.and_eq_true] at hReady
    exact .handled hHolder rfl hReady.2
  case case2 => exact .nothing
  case case3 => exact .nothing

/-
  When an errand goes on, the crowd makes one of its steps.
-/
theorem advance_cases :
    Step crowd (none, crowd.advance place) := by
  fun_cases advance crowd place
  case case1 => exact .nothing
  case case2 client turn conn errand hHolder hAnswered =>
    exact .advanced hHolder rfl
  case case3 => exact .nothing

/-
  When a holder lets go, the crowd makes one of its steps.
-/
theorem letGo_cases
    {release : Connection → Act σ Unit}
    (hRelease :
      release = Act.checkin ∨ release = Act.release) :
    Step crowd (none, crowd.letGo place release) := by
  fun_cases letGo crowd place release
  case case1 => exact .nothing
  case case2 client turn conn hHolder hAnswered =>
    rw [Bool.not_eq_true] at hAnswered
    exact .released hHolder hAnswered hRelease
  case case3 => exact .nothing

/- Every move is one of these. -/
theorem step_cases
    (move : Move) :
    Step crowd (step move crowd) := by
  cases move with
  | ask demand => exact .asked .connection demand nofun
  | begin =>
      exact .asked .transaction (.role .primary)
        fun _ => rfl
  | await place inTime =>
      simp only [step, await]
      cases hSeeker : crowd.seekers[place]? with
      | some seeker => exact .awaited inTime hSeeker
      | none => exact .nothing
  | handle place handling =>
      exact crowd.handle_cases place handling
  | advance place => exact crowd.advance_cases place
  | checkin place =>
      exact crowd.letGo_cases place (.inl rfl)
  | drop place => exact crowd.letGo_cases place (.inr rfl)
  | suspect target => exact .suspected target
  | close => exact .closed

end Cases

/- What every move keeps is kept in the end. -/
theorem play_keeps
    {kept : Crowd σ → Prop}
    (hStep :
      ∀ crowd outcome,
        kept crowd → Step crowd outcome →
        kept outcome.2)
    (moves : List Move)
    {crowd : Crowd σ}
    (hKept : kept crowd) :
    kept (play moves crowd) := by
  induction moves generalizing crowd with
  | nil => exact hKept
  | cons move rest ih =>
      exact ih (hStep crowd _ hKept (crowd.step_cases move))

end Crowd

end SqlAccess
