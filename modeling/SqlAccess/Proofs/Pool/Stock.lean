import Mathlib.Data.List.TakeWhile
import SqlAccess.Proofs.Pool.Turnover

/-
  This file shows what a checkout leaves of the connections
  that were idle when it yields none: all of them, but for
  those of one place that could not be used any more.

  Key definitions include:
    * `Stock`
    * `Stock.Cleared`
    * `Waiter.Spares`

  Key theorems include:
    * `Waiter.begin_spares`
    * `Waiter.proceed_spares`
-/

namespace SqlAccess

variable {σ : Type}

------------------------------------------------------------
-- Stocks
------------------------------------------------------------

/-
  What stands in front of the first usable one is useless.
-/
theorem Pool.not_isUsable_of_spoiled
    {pool : Pool}
    {conn : Connection}
    (hSpoiled : conn ∈ pool.reuse.spoiled) :
    conn.isUsable = false := by
  rw [reuse_eq] at hSpoiled
  simpa using List.mem_takeWhile_imp hSpoiled

/- The idle connections of every place. -/
abbrev Stock := Target → List Connection

namespace Database

def stock (db : Database σ) : Stock :=
  fun target => ((db.pool? target).map Pool.idle).getD []

/- The stock of a place is what its pool has idle. -/
theorem stock_of_pool
    {db : Database σ}
    {target : Target}
    {pool : Pool}
    (hPool : db.pool? target = some pool) :
    db.stock target = pool.idle := by
  rw [stock, hPool]
  rfl

/- The stock hangs on the pools only. -/
theorem stock_congr
    {before after : Database σ}
    (hPools : after.pools = before.pools) :
    after.stock = before.stock := by
  funext target
  rw [stock, pool?_congr hPools, stock]

/- A change of one pool is one of what is idle there. -/
theorem stock_modifyPool
    {db : Database σ}
    {target : Target}
    {pool : Pool}
    (hPool : db.pool? target = some pool)
    (change : Pool → Pool)
    (other : Target) :
    (db.modifyPool target change).stock other =
      if other = target then (change pool).idle
      else db.stock other := by
  rw [stock, db.pool?_modifyPool]
  split
  case isTrue hSame =>
    rw [hSame, hPool]
    rfl
  case isFalse => rfl

/- A change that keeps what is idle in the pool. -/
theorem stock_modifyPool_eq
    {db : Database σ}
    {target : Target}
    {change : Pool → Pool}
    (hIdle :
      ∀ pool, db.pool? target = some pool →
        (change pool).idle = pool.idle) :
    (db.modifyPool target change).stock = db.stock := by
  cases hPool : db.pool? target with
  | none => rw [modifyPool_of_none hPool]
  | some pool =>
      funext other
      rw [stock_modifyPool hPool, hIdle pool hPool,
        ← stock_of_pool hPool]
      split
      case isTrue hSame => rw [hSame]
      case isFalse => rfl

end Database

/-
  Of the idle connections of a place, none may be used, and
  all of them are gone afterwards.
-/
structure Stock.Cleared
    (target : Target)
    (before after : Stock) : Prop where
  useless : ∀ conn ∈ before target,
    conn.isUsable = false
  gone : after target = []
  others : ∀ other, other ≠ target →
    after other = before other

/-
  What a part of a checkout at a place may take away from
  the idle connections, unless it hands out one of them.
-/
def Progress.Spares
    (target : Target)
    (before after : Stock) : Progress → Prop
  | paused pause =>
      after = before ∨
        pause = .forConnection ∧
          Stock.Cleared target before after
  | finished (.ok _) => True
  | finished (.error _) => after = before

/-
  What a client who gets no connection may take away from
  the idle connections: nothing, or those of a place where
  the client now waits for a new one, if none may be used.
-/
def Waiter.Spares
    (before after : Stock) :
    Except Waiter (Except Error Connection) → Prop
  | .error waiter =>
      after = before ∨
        waiter.pause = .forConnection ∧
          Stock.Cleared waiter.target before after
  | .ok (.ok _) => True
  | .ok (.error _) => after = before

namespace Act

variable {α β : Type}

/- An act that leaves the idle connections as they are. -/
def Keeps (act : Act σ α) : Prop :=
  ∀ db, (act.run db).2.stock = db.stock

/- An act after which the idle connections are as given. -/
def Stocks
    (act : Act σ α)
    (stocked : Stock → Stock → α → Prop) : Prop :=
  ∀ db,
    stocked db.stock (act.run db).2.stock (act.run db).1

section Rules

variable {stocked : Stock → Stock → β → Prop}

/- What keeps the stock may come before anything else. -/
theorem Keeps.bind
    {act : Act σ α}
    {next : α → Act σ β}
    (hAct : Keeps act)
    (hNext : ∀ a, Stocks (next a) stocked) :
    Stocks (act >>= next) stocked := by
  intro db
  have hLast := hNext (act.run db).1 (act.run db).2
  rw [hAct db] at hLast
  exact hLast

theorem Stocks.pure
    {b : β}
    (hStocked : ∀ stock, stocked stock stock b) :
    Stocks (pure b : Act σ β) stocked :=
  fun db => hStocked db.stock

/- Looking at a database changes no stock. -/
theorem Stocks.of_get
    {next : Database σ → Act σ β}
    (hNext : ∀ db, Stocks (next db) stocked) :
    Stocks (get >>= next) stocked :=
  fun db => hNext db db

end Rules

/- A pool that changes may keep its idle connections. -/
theorem modifyPool_keeps
    (target : Target)
    {change : Pool → Pool}
    (hIdle : ∀ pool, (change pool).idle = pool.idle) :
    Keeps (modifyPool target change : Act σ Unit) :=
  fun _ => Database.stock_modifyPool_eq fun pool _ =>
    hIdle pool

theorem markReplicaDown_keeps (target : Target) :
    Keeps (markReplicaDown target : Act σ Unit) := by
  intro db
  apply Database.stock_congr
  cases target <;> rfl

theorem pick_keeps
    (intent : Intent)
    (inTransaction : Bool) :
    Keeps (pick intent inTransaction : Act σ Target) :=
  fun _ => Database.stock_congr rfl

section Checkouts

variable (target : Target)

theorem reserve_keeps :
    Keeps
      (reserve target :
        Act σ (Except Pool.Refusal Unit)) := by
  intro db
  unfold reserve StateT.run
  rw [get_bind_run]
  cases hPool : db.pool? target with
  | none => rfl
  | some pool =>
      dsimp only
      cases hReserve : pool.reserve with
      | error refusal => rfl
      | ok reserved =>
          apply Database.stock_modifyPool_eq
          intro found hFound
          rw [hPool, Option.some_inj] at hFound
          rw [← hFound]
          exact Pool.reserve_idle hReserve

/- Who gives up takes nothing from the stock. -/
theorem giveUp_spares :
    Stocks (giveUp target : Act σ Progress)
      (Progress.Spares target) :=
  fun _ => rfl

/- Who waits takes nothing from the stock. -/
theorem queueUp_spares :
    Stocks (queueUp target : Act σ Progress)
      (Progress.Spares target) := by
  apply Stocks.of_get
  intro db
  by_cases hWait : db.config.checkoutMillis = 0
  · simp only [hWait, if_true]
    exact giveUp_spares target
  · simp only [hWait, if_false]
    have hQueue :
        Keeps
          (modifyPool target Pool.enqueue : Act σ Unit) :=
      modifyPool_keeps target fun _ => rfl
    exact hQueue.bind fun _ => .pure fun _ => .inl rfl

/-
  A user with a place finds a connection, or none is left.
-/
theorem take_spares :
    Stocks (take target : Act σ (Option Connection))
      fun before after found =>
        found = none →
          after = before ∨
            Stock.Cleared target before after := by
  intro db
  unfold take StateT.run
  rw [get_bind_run]
  cases hPool : db.pool? target with
  | none => exact fun _ => .inl rfl
  | some pool =>
      dsimp only
      cases hFound : pool.reuse.found with
      | some conn => exact nofun
      | none =>
          intro _
          right
          rcases Pool.spoiled_of_none hFound with
            ⟨hAll, hNone⟩
          have hClosed :=
            destroy_modified target pool.reuse.spoiled db
              fun _ => pool.reuse.pool
          have hStock :=
            Database.stock_modifyPool hPool
              fun _ => pool.reuse.pool
          have hAfter := Database.stock_congr hClosed.1
          refine ⟨?_, ?_, ?_⟩
          · intro conn hConn
            rw [Database.stock_of_pool hPool, ← hAll]
              at hConn
            exact Pool.not_isUsable_of_spoiled hConn
          · refine (congrFun hAfter target).trans ?_
            rw [hStock, if_pos rfl, hNone]
          · intro other hOther
            refine (congrFun hAfter other).trans ?_
            rw [hStock, if_neg hOther]

/- A seat is taken from the stock of its own place. -/
theorem seat_spares
    {whenFull : Act σ Progress}
    (hFull : Stocks whenFull (Progress.Spares target)) :
    Stocks (seat target whenFull)
      (Progress.Spares target) := by
  unfold seat
  refine (reserve_keeps target).bind ?_
  intro reserved
  cases reserved with
  | ok _ =>
      intro db
      have hTake := take_spares target db
      dsimp only
      rw [bind_run]
      rcases hRun : (take target).run db with
        ⟨found, after⟩
      rw [hRun] at hTake
      cases found with
      | some conn => trivial
      | none =>
          exact (hTake rfl).imp_right fun hCleared =>
            ⟨rfl, hCleared⟩
  | error refusal =>
      cases refusal with
      | closed => exact .pure fun _ => rfl
      | full => exact hFull

/- Who comes in takes from the stock of one place. -/
theorem enter_spares :
    Stocks (enter target : Act σ Progress)
      (Progress.Spares target) :=
  seat_spares target (queueUp_spares target)

/- Who is woken takes from the stock of one place. -/
theorem wake_spares :
    Stocks (wake target : Act σ Progress)
      (Progress.Spares target) := by
  have hQueue :
      Keeps
        (modifyPool target Pool.dequeue : Act σ Unit) :=
    modifyPool_keeps target fun _ => rfl
  unfold wake
  exact hQueue.bind fun _ =>
    seat_spares target (giveUp_spares target)

/- What is opened was in no stock. -/
theorem openNew_spares :
    Stocks (openNew target : Act σ Progress)
      (Progress.Spares target) := by
  have hAbandon :
      Keeps
        (modifyPool target Pool.abandon : Act σ Unit) :=
    modifyPool_keeps target fun _ => rfl
  apply Stocks.of_get
  intro db
  cases db.pool? target with
  | none => exact .pure fun _ => rfl
  | some pool =>
      have hConnect :
          Keeps
            (connect pool.address : Act σ (Reply Link)) :=
        fun db =>
          Database.stock_congr
            (connect_lived pool.address db).1
      refine hConnect.bind ?_
      intro reply
      cases reply with
      | done link => exact fun _ => trivial
      | failed e =>
          exact hAbandon.bind fun _ => .pure fun _ => rfl
      | silent => exact .pure fun _ => .inl rfl

/- An opening that is given up is from no stock. -/
theorem outlastConnect_spares :
    Stocks
      (outlastConnect target :
        Act σ (Except Error Connection))
      fun before after result =>
        handed result = [] ∧ after = before := by
  have hAbandon :
      Keeps
        (modifyPool target Pool.abandon : Act σ Unit) :=
    modifyPool_keeps target fun _ => rfl
  unfold outlastConnect
  exact hAbandon.bind fun _ _ => ⟨rfl, rfl⟩

end Checkouts

end Act

/- Choosing a place keeps the stock. -/
theorem World.Demand.choose_keeps (demand : World.Demand) :
    Act.Keeps
      (demand.choose : Act σ (Target × Bool)) := by
  cases demand with
  | target place => exact fun _ => rfl
  | role wanted =>
      cases wanted with
      | primary => exact fun _ => rfl
      | replica => exact Act.pick_keeps .read false
  | routed intent inTransaction =>
      exact Act.pick_keeps intent inTransaction

namespace Waiter

/- The primary is asked when a replica cannot be reached. -/
theorem enterPrimary_spares :
    Act.Stocks
      (do
        return standing .primary false
          (← Act.enter .primary) :
        Act σ (Except Waiter (Except Error Connection)))
      Spares := by
  intro db
  have hEnter := Act.enter_spares .primary db
  rw [Act.bind_run]
  rcases hRun : (Act.enter .primary).run db with
    ⟨progress, after⟩
  rw [hRun] at hEnter
  cases progress with
  | paused pause => exact hEnter
  | finished result =>
      cases result with
      | ok conn => trivial
      | error e => exact hEnter

/-
  What was spared by a part of a checkout is spared after
  it.
-/
theorem resume_spares
    (target : Target)
    (mayFallBack : Bool)
    {part : Act σ Progress}
    (hPart : Act.Stocks part (Progress.Spares target)) :
    Act.Stocks (part >>= resume target mayFallBack)
      Spares := by
  intro db
  have hSpares := hPart db
  rw [Act.bind_run]
  rcases hRun : part.run db with ⟨progress, after⟩
  rw [hRun] at hSpares
  cases progress with
  | paused pause => exact hSpares
  | finished result =>
      simp only [resume]
      cases hFalls :
        mayFallBack && Act.fallsBack target result with
      | true =>
          rw [Bool.and_eq_true] at hFalls
          have hSame : after.stock = db.stock := by
            cases result with
            | ok conn => cases hFalls.2
            | error e => exact hSpares
          rw [← hSame]
          have hDown :
              Act.Keeps (Act.markReplicaDown target :
                Act σ Unit) :=
            Act.markReplicaDown_keeps target
          exact hDown.bind
            (fun _ => enterPrimary_spares) after
      | false =>
          cases result with
          | ok conn => trivial
          | error e => exact hSpares

/-
  A checkout that begins takes from the places that it comes
  to.
-/
theorem begin_spares (demand : World.Demand) :
    Act.Stocks
      (begin demand :
        Act σ (Except Waiter (Except Error Connection)))
      Spares := by
  unfold begin
  refine demand.choose_keeps.bind ?_
  rintro ⟨target, mayFallBack⟩
  exact resume_spares target mayFallBack
    (Act.enter_spares target)

/-
  A checkout that goes on takes from the places that it
  comes to.
-/
theorem proceed_spares
    (waiter : Waiter)
    (inTime : Bool) :
    Act.Stocks
      (waiter.proceed inTime :
        Act σ (Except Waiter (Except Error Connection)))
      Spares := by
  rcases waiter with ⟨target, pause, mayFallBack⟩
  unfold proceed
  cases pause with
  | forPlace =>
      exact resume_spares target mayFallBack
        (Act.wake_spares target)
  | forConnection =>
      cases inTime with
      | true =>
          exact resume_spares target mayFallBack
            (Act.openNew_spares target)
      | false =>
          have hOutlast :
              Act.Stocks
                (do
                  return .finished
                    (← Act.outlastConnect target) :
                  Act σ Progress)
                (Progress.Spares target) := by
            intro db
            have hNone :=
              Act.outlastConnect_spares target db
            rw [Act.bind_run]
            rcases hRun :
                (Act.outlastConnect target).run db with
              ⟨result, after⟩
            rw [hRun] at hNone
            cases result with
            | ok conn => trivial
            | error e => exact hNone.2
          exact resume_spares target mayFallBack hOutlast

end Waiter

end SqlAccess
