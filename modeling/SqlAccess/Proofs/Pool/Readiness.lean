import SqlAccess.Proofs.Pool.Balance
import SqlAccess.Proofs.Pool.Chronicle

/-
  This file shows that nothing is pending on a connection
  that is handed out, and no call on it goes on.  Statements
  are deferred only inside of a transaction, and none of
  them is left when it has ended, however any number of
  clients get in each other's way.

  Key definitions include:
    * `Connection.IsClear`
    * `Engagement.IsNested`
    * `Aim.IsNested`
    * `Activity.Neat`
    * `Crowd.Ready`

  Key theorems include:
    * `Handling.prepare_neat`
    * `Errand.advance_neat`
    * `Crowd.Ready.supplied`
    * `Crowd.Ready.step`
-/

namespace SqlAccess

variable {σ : Type}

------------------------------------------------------------
-- Neat Activities
------------------------------------------------------------

/- The scopes of a transaction are nested in each other. -/
def Engagement.IsNested : Engagement → Prop
  | inside scope outer => scope.Nesting outer
  | _ => True

/- Whatever comes of an aim, scopes are nested after it. -/
def Aim.IsNested : Aim → Prop
  | run _ engagement => engagement.IsNested
  | begin => True
  | nest _ scope outer => scope.Nesting outer
  | commit _ next => next.IsNested
  | rollback _ next => next.IsNested

/-
  A connection that is on an errand, or not inside of a
  transaction, has nothing pending.
-/
def Activity.Neat
    (conn : Connection) : Activity → Prop
  | resting (.inside scope outer) => scope.Nesting outer
  | resting _ => conn.pending = []
  | working errand =>
      conn.pending = [] ∧ errand.aim.IsNested

/-
  Where nothing is pending, all nested engagements are neat.
-/
theorem Activity.neat_of_nested
    {conn : Connection}
    {engagement : Engagement}
    (hPending : conn.pending = [])
    (hNested : engagement.IsNested) :
    (resting engagement).Neat conn := by
  cases engagement with
  | free => exact hPending
  | inside scope outer => exact hNested
  | abandoned => exact hPending

/- A use ends in an activity that is neat. -/
def Use.EndsNeat
    (use : Use σ Activity)
    (conn : Connection)
    (db : Database σ) : Prop :=
  let run := (use.run conn).run db
  run.1.1.Neat run.1.2

namespace Handling

variable (conn : Connection) (db : Database σ)

/- What is pending is taken along. -/
theorem submit_neat
    {aim : Aim}
    (hNested : aim.IsNested) :
    Use.EndsNeat (submit aim) conn db :=
  ⟨rfl, hNested⟩

/-
  What is submitted within an active scope leaves the
  connection neat.
-/
theorem submitWithin_neat
    {scope : Scope}
    {aim : Aim}
    {otherwise : Engagement}
    (hNested : aim.IsNested)
    (hActive : scope.phase = .active) :
    Use.EndsNeat (submitWithin scope aim otherwise) conn
      db := by
  unfold submitWithin
  rw [if_pos hActive]
  exact submit_neat conn db hNested

/- The scope around an innermost one is nested as well. -/
theorem isNested_outside
    {scope : Scope}
    {outer : List Scope}
    (hNesting : scope.Nesting outer) :
    (outside outer).IsNested := by
  cases hNesting with
  | outermost => trivial
  | inner hOuter => exact hOuter

/-
  A transaction that is left forgets what is pending.
-/
theorem endOutermost_drop_neat (idle : Bool) :
    let use : Use σ Activity := do
      return .resting (← endOutermost .root (.drop idle))
    Use.EndsNeat use conn db := by
  cases idle <;> exact rfl

/- A sign of life leaves alone what is pending. -/
theorem ping_neat (hPending : conn.pending = []) :
    let use : Use σ Activity := do
      let _ ← Use.ping
      return .resting .free
    Use.EndsNeat use conn db := by
  rcases ping_kept conn db with ⟨-, -, -, hKept, -⟩
  exact hKept.pending.trans hPending

/- Up to the first call, a neat activity stays neat. -/
theorem prepare_neat
    (handling : Handling)
    {engagement : Engagement}
    (hNeat : (Activity.resting engagement).Neat conn) :
    Use.EndsNeat (handling.prepare engagement) conn db := by
  fun_cases prepare handling engagement
  case case1 statement => exact submit_neat conn db trivial
  case case2 statement scope outer =>
    exact submitWithin_neat conn db hNeat hNeat.active
  case case3 => exact submit_neat conn db trivial
  case case4 scope outer hActive => exact ⟨rfl, hNeat⟩
  case case5 scope outer hEnded =>
    exact absurd hNeat.active hEnded
  case case6 scope outer =>
    exact submitWithin_neat conn db (isNested_outside hNeat)
      hNeat.active
  case case7 scope outer =>
    unfold prepareRollback
    rw [if_pos hNeat.active]
    cases scope.isNested with
    | true =>
        exact submit_neat conn db (isNested_outside hNeat)
    | false => exact ⟨rfl, isNested_outside hNeat⟩
  case case8 => exact submit_neat conn db trivial
  case case9 => exact ping_neat conn db hNeat
  case case10 => exact hNeat
  case case11 idle scope =>
    cases hNeat
    exact endOutermost_drop_neat conn db idle
  case case12 idle scope parent outer =>
    cases hNeat with
    | inner hOuter => exact hOuter
  case case13 => exact hNeat

end Handling

namespace Aim

variable {aim : Aim} {conn : Connection}

/- A scope that ends leaves alone what is pending. -/
theorem concludeEnd_neat
    {scope : Scope}
    {next : Engagement}
    (hPending : conn.pending = [])
    (hNested : next.IsNested)
    (ok : Bool)
    (db : Database σ) :
    let use : Use σ Activity := do
      return .resting (← concludeEnd scope next ok)
    Use.EndsNeat use conn db := by
  cases ok with
  | false => exact Activity.neat_of_nested hPending hNested
  | true =>
      unfold concludeEnd
      cases scope.isNested <;>
      exact Activity.neat_of_nested hPending hNested

/-
  What an aim leads to is nested, and nothing is pending.
-/
theorem conclude_neat
    (hPending : conn.pending = [])
    (hNested : aim.IsNested)
    (ok : Bool)
    (db : Database σ) :
    let use : Use σ Activity := do
      return .resting (← aim.conclude ok)
    Use.EndsNeat use conn db := by
  cases aim with
  | run statement engagement =>
      exact Activity.neat_of_nested hPending hNested
  | begin =>
      cases ok with
      | true => exact Scope.Nesting.outermost
      | false => exact hPending
  | nest name scope outer =>
      cases ok with
      | true => exact Scope.Nesting.inner hNested
      | false => exact hNested
  | commit scope next =>
      exact concludeEnd_neat hPending hNested ok db
  | rollback scope next =>
      exact concludeEnd_neat hPending hNested ok db

end Aim

/- The next call of an errand leaves it neat. -/
theorem Errand.advance_neat
    {errand : Errand}
    {conn : Connection}
    (hNeat : (Activity.working errand).Neat conn)
    (db : Database σ) :
    Use.EndsNeat errand.advance conn db := by
  rcases errand with ⟨pending, aim⟩
  rcases hNeat with ⟨hPending, hNested⟩
  have hKept :
      ∀ call : Call,
        (((Use.dispatch call).run conn).run
          db).1.2.pending =
          [] := by
    intro call
    rcases Use.dispatch_yields call conn db with
      ⟨-, -, -, -, hKept⟩
    exact hKept.pending.trans hPending
  unfold advance Use.EndsNeat
  cases pending with
  | cons sql rest =>
      have hUsed := hKept (.batch sql)
      dsimp only
      rw [Use.bind_run]
      rcases hRun :
          ((Use.dispatch (.batch sql)).run conn).run db with
        ⟨⟨result, used⟩, after⟩
      rw [hRun] at hUsed
      cases result with
      | ok answer => exact ⟨hUsed, hNested⟩
      | error e =>
          have hSpoiled : used.spoil.pending = [] := hUsed
          exact Aim.conclude_neat hSpoiled hNested
            false after
  | nil =>
      have hUsed := hKept aim.call
      dsimp only
      rw [Use.bind_run]
      rcases hRun :
          ((Use.dispatch aim.call).run conn).run db with
        ⟨⟨result, used⟩, after⟩
      rw [hRun] at hUsed
      exact Aim.conclude_neat hUsed hNested _ after

------------------------------------------------------------
-- Crowds
------------------------------------------------------------

/-
  Nothing is pending on a connection, and no call on it goes
  on for ever.
-/
structure Connection.IsClear
    (conn : Connection) :
    Prop where
  pending : conn.pending = []
  answered : conn.unanswered = false

namespace Crowd

variable {crowd : Crowd σ}

/-
  Idle connections are clear, and those that are held neat.
-/
structure Ready (crowd : Crowd σ) : Prop where
  idle : ∀ conn ∈ crowd.db.idle, conn.IsClear
  holders :
    ∀ holder ∈ crowd.holders,
      holder.activity.Neat holder.conn

namespace Ready

/- A new crowd is ready. -/
theorem new
    (config : Config)
    (backend : Backend σ)
    (memory : σ) :
    (Crowd.new config backend memory).Ready := by
  have hIdle :
      (Crowd.new config backend memory).db.idle = [] :=
    World.idle_new config backend memory
  refine ⟨?_, List.forall_mem_nil _⟩
  rw [hIdle]
  exact List.forall_mem_nil _

/-
  What is handed out or kept is clear if what was given back
  was.
-/
theorem supplied
    (hReady : crowd.Ready)
    {db : Database σ}
    {given taken : List Connection}
    (hSupplied : crowd.db.Supplied db given taken)
    (hGiven : ∀ conn ∈ given, conn.IsClear) :
    ∀ conn ∈ taken ++ db.idle, conn.IsClear := by
  intro conn hConn
  rcases hSupplied.origin with
    ⟨fresh, -, hFresh, hOrigin⟩
  have hSource := hOrigin.subset hConn
  rw [List.mem_append, List.mem_append] at hSource
  rcases hSource with hNew | hGave | hIdle
  · rw [(hFresh conn hNew).2.2]
    exact ⟨rfl, rfl⟩
  · exact hGiven conn hGave
  · exact hReady.idle conn hIdle

/- A part of a checkout hands out what is clear. -/
theorem seek
    (hReady : crowd.Ready)
    (client : Client)
    {part :
      Act σ (Except Waiter (Except Error Connection))}
    (hSupplies :
      Act.Supplies part crowd.db [] Waiter.handed) :
    (crowd.seek client part).2.Ready := by
  have hSupplied : crowd.db.Supplied _ [] _ := hSupplies
  have hClear := hReady.supplied hSupplied
    (List.forall_mem_nil _)
  unfold Crowd.seek
  rcases hRun : part.run crowd.db with ⟨answer, db⟩
  rw [hRun, List.forall_mem_append] at hClear
  cases answer with
  | error waiter => exact ⟨hClear.2, hReady.holders⟩
  | ok result =>
      cases result with
      | error e => exact ⟨hClear.2, hReady.holders⟩
      | ok conn =>
          refine ⟨hClear.2, ?_⟩
          intro holder hHolder
          rcases List.mem_cons.1 hHolder with rfl | hOther
          · exact
              (hClear.1 conn List.mem_cons_self).pending
          · exact hReady.holders holder hOther

/- A connection that is used stays neat. -/
theorem work
    (hReady : crowd.Ready)
    (place : Nat)
    (holder : Holder)
    {part : Part}
    (submits : Activity → List Call)
    {use : Use σ Activity}
    (hTracking : use.Tracking part)
    (hNeat : use.EndsNeat holder.conn crowd.db) :
    (crowd.work place holder part submits use).Ready := by
  have hIdle :
      (crowd.work place holder part submits use).db.idle =
        crowd.db.idle :=
    Database.idle_congr
      (hTracking.1 holder.conn crowd.db).2.pools
  refine ⟨?_, ?_⟩
  · rw [hIdle]
    exact hReady.idle
  · intro other hOther
    rcases List.mem_or_eq_of_mem_set hOther with hOld | rfl
    · exact hReady.holders other hOld
    · exact hNeat

/- What is let go of is engaged in nothing. -/
theorem letGo
    (hReady : crowd.Ready)
    (place : Nat)
    {release : Connection → Act σ Unit}
    (hRelease :
      release = Act.checkin ∨ release = Act.release) :
    (crowd.letGo place release).Ready := by
  fun_cases Crowd.letGo crowd place release
  case case1 => exact hReady
  case case2 client turn conn hHolder hAnswered =>
    have hHeld :=
      hReady.holders _ (List.mem_of_getElem? hHolder)
    have hSupplied :
        crowd.db.Supplied ((release conn).run crowd.db).2
          (Act.returned conn) [] := by
      rcases hRelease with rfl | rfl
      · exact Act.checkin_supplies conn crowd.db
      · exact Act.release_supplies conn crowd.db
    refine ⟨?_, ?_⟩
    · refine hReady.supplied hSupplied ?_
      intro other hOther
      unfold Act.returned at hOther
      rw [if_neg hAnswered, List.mem_singleton] at hOther
      rw [hOther]
      exact ⟨hHeld, Bool.eq_false_iff.2 hAnswered⟩
    · intro other hOther
      exact hReady.holders other
        ((List.eraseIdx_sublist _ _).subset hOther)
  case case3 => exact hReady

/- Nothing is handed out or given back. -/
theorem aside
    (hReady : crowd.Ready)
    {db : Database σ}
    (hSupplied : crowd.db.Supplied db [] []) :
    ({ crowd with db := db } : Crowd σ).Ready :=
  ⟨hReady.supplied hSupplied (List.forall_mem_nil _),
    hReady.holders⟩

/- Every move keeps clear and neat what is to be. -/
theorem step
    (hReady : crowd.Ready)
    (move : Move) :
    (Crowd.step move crowd).2.Ready := by
  have hJoined :
      ({ crowd with joined := crowd.joined + 1 } :
        Crowd σ).Ready :=
    ⟨hReady.idle, hReady.holders⟩
  cases move with
  | ask demand =>
      exact hJoined.seek _ (Waiter.begin_supplies _ demand)
  | begin =>
      exact hJoined.seek _ (Waiter.begin_supplies _ _)
  | await place inTime =>
      simp only [Crowd.step, Crowd.await]
      cases hSeeker : crowd.seekers[place]? with
      | none => exact hReady
      | some seeker =>
          have hCalled :
              ({ crowd with
                seekers := crowd.seekers.eraseIdx place } :
                  Crowd σ).Ready :=
            ⟨hReady.idle, hReady.holders⟩
          exact hCalled.seek _
            (Waiter.proceed_supplies _ seeker.waiter inTime)
  | handle place handling =>
      simp only [Crowd.step]
      fun_cases Crowd.handle crowd place handling
      case case1 client turn conn engagement hHolder
          hReadyNow =>
        have hNeat :=
          hReady.holders _ (List.mem_of_getElem? hHolder)
        exact hReady.work place _ Activity.calls
          (handling.prepare_tracking engagement)
          (Handling.prepare_neat conn crowd.db handling
            hNeat)
      case case2 => exact hReady
      case case3 => exact hReady
  | advance place =>
      simp only [Crowd.step]
      fun_cases Crowd.advance crowd place
      case case1 => exact hReady
      case case2 client turn conn errand hHolder
          hAnswered =>
        have hNeat :=
          hReady.holders _ (List.mem_of_getElem? hHolder)
        exact hReady.work place _ (fun _ => [])
          errand.advance_tracking
          (Errand.advance_neat hNeat crowd.db)
      case case3 => exact hReady
  | checkin place => exact hReady.letGo place (.inl rfl)
  | drop place => exact hReady.letGo place (.inr rfl)
  | suspect target =>
      exact hReady.aside
        (Act.markReplicaDown_aside target crowd.db [])
  | close =>
      exact hReady.aside (Act.close_aside crowd.db [])

end Ready

end Crowd

end SqlAccess
