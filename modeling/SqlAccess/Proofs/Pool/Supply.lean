import Mathlib.Data.List.Perm.Subperm
import Mathlib.Data.List.TakeDrop
import SqlAccess.Proofs.Pool.Exchange

/-
  This file says where the connections come from that the
  pools hand out: each is one that was idle or one that was
  just opened, and none comes twice.

  Key definitions include:
    * `Database.idle`
    * `Connection.Opened`
    * `Database.Supplied`
    * `Act.Supplies`

  Key theorems include:
    * `Database.Supplied.trans`
    * `Act.obtain_supplies`
    * `Act.checkoutAt_supplies`
    * `Act.checkoutRouted_supplies`
    * `Waiter.start_supplies`
    * `Waiter.finish_supplies`
    * `Act.release_supplies`
    * `Act.close_supplies`
-/

namespace SqlAccess

------------------------------------------------------------
-- Idle Connections
------------------------------------------------------------

/- The connections that nobody has, pool by pool. -/
def Database.idle
    {σ : Type}
    (db : Database σ) : List Connection :=
  db.pools.flatMap Pool.idle

section ListModify

variable {α β : Type}

/-
  When one item of a list is changed, the parts of all
  others stay.
-/
private theorem flatMap_modify_perm
    {list : List α}
    {index : Nat}
    {item : α}
    (hItem : list[index]? = some item)
    (part : α → List β) :
    ∃ rest, ∀ change : α → α,
      ((list.modify index change).flatMap part).Perm
        (part (change item) ++ rest) := by
  induction list generalizing index with
  | nil => simp at hItem
  | cons head later ih =>
      cases index with
      | zero =>
          rw [List.getElem?_cons_zero,
            Option.some.injEq] at hItem
          subst hItem
          exact ⟨later.flatMap part, fun _ => .refl _⟩
      | succ index =>
          rw [List.getElem?_cons_succ] at hItem
          rcases ih hItem with ⟨rest, hRest⟩
          refine ⟨part head ++ rest, ?_⟩
          intro change
          rw [List.modify_succ_cons, List.flatMap_cons]
          refine ((hRest change).append_left _).trans ?_
          rw [← List.append_assoc, ← List.append_assoc]
          exact List.perm_append_comm.append_right rest

end ListModify

namespace Database

variable {σ : Type}

/-
  A pool's idle connections and those of the other pools.
-/
theorem idle_modifyPool_perm
    {db : Database σ}
    {target : Target}
    {pool : Pool}
    (hPool : db.pool? target = some pool) :
    ∃ rest, ∀ change : Pool → Pool,
      (db.modifyPool target change).idle.Perm
        ((change pool).idle ++ rest) := by
  cases target with
  | primary =>
      cases hPool
      exact ⟨db.replicas.flatMap Pool.idle,
        fun _ => .refl _⟩
  | replica index =>
      rcases flatMap_modify_perm hPool Pool.idle with
        ⟨rest, hRest⟩
      refine ⟨db.primary.idle ++ rest, ?_⟩
      intro change
      refine ((hRest change).append_left _).trans ?_
      rw [← List.append_assoc, ← List.append_assoc]
      exact List.perm_append_comm.append_right rest

theorem modifyPool_id (db : Database σ) (target : Target) :
    db.modifyPool target id = db := by
  cases target with
  | primary => rfl
  | replica index => simp [modifyPool]

/- There is nothing to change at a place without a pool. -/
theorem modifyPool_of_none
    {db : Database σ}
    {target : Target}
    (hPool : db.pool? target = none)
    (change : Pool → Pool) :
    db.modifyPool target change = db := by
  cases target with
  | primary => simp [pool?] at hPool
  | replica index =>
      have hRange : db.replicas.length ≤ index :=
        List.getElem?_eq_none_iff.1 hPool
      simp only [modifyPool, List.modify_eq_self hRange]

/-
  What one pool takes and keeps is what the database does.
-/
theorem idle_modifyPool_subperm
    {db : Database σ}
    {target : Target}
    {pool : Pool}
    {change : Pool → Pool}
    {given taken : List Connection}
    (hPool : db.pool? target = some pool)
    (hChange :
      (taken ++ (change pool).idle).Subperm
        (given ++ pool.idle)) :
    (taken ++ (db.modifyPool target change).idle).Subperm
      (given ++ db.idle) := by
  rcases idle_modifyPool_perm hPool with ⟨rest, hRest⟩
  have hBefore : db.idle.Perm (pool.idle ++ rest) := by
    simpa [modifyPool_id] using hRest id
  have hAfter := (hRest change).append_left taken
  rw [← List.append_assoc] at hAfter
  have hBoth := (hBefore.append_left given).symm
  rw [← List.append_assoc] at hBoth
  exact hAfter.subperm.trans
    (((List.subperm_append_right rest).2 hChange).trans
      hBoth.subperm)

end Database

------------------------------------------------------------
-- Supplies
------------------------------------------------------------

/-
  A connection with a number in a range, and just opened.
-/
def Connection.Opened
    (low high : Nat)
    (conn : Connection) : Prop :=
  low < conn.link.id ∧ conn.link.id ≤ high ∧
    conn = .new conn.link conn.target

/-
  Between two states of a database, some connections were
  given to it and some were taken.  What was taken or is
  idle was given, or was idle, or was just opened.  No calls
  were made.
-/
structure Database.Supplied
    {σ : Type}
    (before after : Database σ)
    (given taken : List Connection) : Prop where
  quiet : ∀ id, Database.Heard id [] before after
  opened : before.opened ≤ after.opened
  origin :
    ∃ fresh : List Connection,
      (fresh.map fun conn => conn.link.id).Nodup ∧
        (∀ conn ∈ fresh,
          conn.Opened before.opened after.opened) ∧
        (taken ++ after.idle).Subperm
          (fresh ++ (given ++ before.idle))
  usable :
    (∀ conn ∈ given, conn.isUsable = true) →
      ∀ conn ∈ taken, conn.isUsable = true

namespace Database.Supplied

variable {σ : Type} {given taken : List Connection}

/- Nothing is opened. -/
theorem of_subperm
    {before after : Database σ}
    (hQuiet : ∀ id, Database.Heard id [] before after)
    (hOpened : after.opened = before.opened)
    (hIdle :
      (taken ++ after.idle).Subperm (given ++ before.idle))
    (hUsable :
      (∀ conn ∈ given, conn.isUsable = true) →
        ∀ conn ∈ taken, conn.isUsable = true) :
    Supplied before after given taken :=
  ⟨hQuiet, Nat.le_of_eq hOpened.symm,
    ⟨[], by simp, by simp, hIdle⟩, hUsable⟩

theorem refl
    (db : Database σ)
    (given : List Connection) :
    Supplied db db given given :=
  .of_subperm (fun _ => .of_history_eq rfl) rfl (.refl _) id

/- The idle connections and the calls stay as they are. -/
theorem of_idle_eq
    {before after : Database σ}
    (given : List Connection)
    (hQuiet : ∀ id, Database.Heard id [] before after)
    (hOpened : after.opened = before.opened)
    (hIdle : after.idle = before.idle) :
    Supplied before after given given := by
  refine .of_subperm hQuiet hOpened ?_ id
  rw [hIdle]

/- What is given in between is taken by what comes next. -/
theorem trans
    {before middle after : Database σ}
    {mid : List Connection}
    (hFirst : Supplied before middle given mid)
    (hSecond : Supplied middle after mid taken) :
    Supplied before after given taken := by
  rcases hFirst.origin with
    ⟨early, hEarly, hOld, hMiddle⟩
  rcases hSecond.origin with ⟨late, hLate, hNew, hAfter⟩
  have hFirstOpened := hFirst.opened
  have hSecondOpened := hSecond.opened
  refine
    ⟨?_, Nat.le_trans hFirstOpened hSecondOpened,
      ?_, ?_⟩
  · intro id
    exact (hFirst.quiet id).trans (hSecond.quiet id)
  · refine ⟨late ++ early, ?_, ?_, ?_⟩
    · rw [List.map_append, List.nodup_append]
      refine ⟨hLate, hEarly, ?_⟩
      simp only [List.mem_map]
      rintro _ ⟨new, hNewMem, rfl⟩ _
        ⟨old, hOldMem, rfl⟩
      have hAbove := (hNew new hNewMem).1
      have hBelow := (hOld old hOldMem).2.1
      omega
    · intro conn hConn
      rw [List.mem_append] at hConn
      cases hConn with
      | inl hLater =>
          rcases hNew conn hLater with
            ⟨hLow, hHigh, hConn⟩
          exact ⟨by omega, hHigh, hConn⟩
      | inr hEarlier =>
          rcases hOld conn hEarlier with
            ⟨hLow, hHigh, hConn⟩
          exact ⟨hLow, by omega, hConn⟩
    · rw [List.append_assoc]
      exact hAfter.trans
        ((List.subperm_append_left late).2 hMiddle)
  · intro hGiven
    exact hSecond.usable (hFirst.usable hGiven)

/- What was given may be lost. -/
theorem dropped
    {before after : Database σ}
    (hSupplied : Supplied before after [] taken)
    (given : List Connection) :
    Supplied before after given taken := by
  rcases hSupplied.origin with
    ⟨fresh, hFresh, hNew, hIdle⟩
  refine ⟨hSupplied.quiet, hSupplied.opened,
    ⟨fresh, hFresh, hNew, hIdle.trans ?_⟩, ?_⟩
  · rw [List.nil_append]
    exact (List.subperm_append_left fresh).2
      (List.sublist_append_right given _).subperm
  · intro _
    exact hSupplied.usable (by simp)

end Database.Supplied

namespace Act

variable {σ α β : Type}

/-
  An act is given some connections, and others are taken
  with its result.
-/
def Supplies
    (act : Act σ α)
    (db : Database σ)
    (given : List Connection)
    (taken : α → List Connection) : Prop :=
  db.Supplied (act.run db).2 given (taken (act.run db).1)

theorem Supplies.pure
    (a : α)
    (db : Database σ)
    (taken : α → List Connection) :
    Supplies (pure a) db (taken a) taken :=
  .refl db (taken a)

/- Connections are handed on from step to step. -/
theorem Supplies.bind
    {act : Act σ α}
    {next : α → Act σ β}
    {db : Database σ}
    {given : List Connection}
    {mid : α → List Connection}
    {taken : β → List Connection}
    (hAct : Supplies act db given mid)
    (hNext :
      ∀ a after, Supplies (next a) after (mid a) taken) :
    Supplies (act >>= next) db given taken :=
  Database.Supplied.trans hAct (hNext _ _)

/- An act that takes nothing and gives nothing. -/
def Aside (act : Act σ α) : Prop :=
  ∀ (db : Database σ) (given : List Connection),
    Supplies act db given fun _ => given

/- A change of one pool, by what it takes and keeps. -/
theorem modifyPool_supplies
    {db : Database σ}
    {target : Target}
    {pool : Pool}
    {change : Pool → Pool}
    {given taken : List Connection}
    (hPool : db.pool? target = some pool)
    (hChange :
      (taken ++ (change pool).idle).Subperm
        (given ++ pool.idle))
    (hUsable :
      (∀ conn ∈ given, conn.isUsable = true) →
        ∀ conn ∈ taken, conn.isUsable = true) :
    Supplies (modifyPool target change) db given
      fun _ => taken := by
  have hIdle :=
    Database.idle_modifyPool_subperm hPool hChange
  refine .of_subperm ?_ ?_ hIdle hUsable
  · intro id
    cases target <;> exact .of_history_eq rfl
  · cases target <;> rfl

/- A change that leaves the idle connections moves none. -/
theorem modifyPool_aside
    (target : Target)
    {change : Pool → Pool}
    (hIdle : ∀ pool, (change pool).idle = pool.idle) :
    Aside (modifyPool target change : Act σ Unit) := by
  intro db given
  cases hPool : db.pool? target with
  | none =>
      have hSame := Database.modifyPool_of_none hPool change
      change db.Supplied (db.modifyPool target change) given
        given
      rw [hSame]
      exact .refl db given
  | some pool =>
      apply modifyPool_supplies hPool
      · rw [hIdle]
      · exact id

/- A connection that is closed was in no pool. -/
theorem destroy_aside (conns : List Connection) :
    Aside (destroy conns : Act σ Unit) := by
  intro db given
  change db.Supplied (conns.foldl _ db) given given
  induction conns generalizing db with
  | nil => exact .refl db given
  | cons conn rest ih =>
      have hRecord :
          db.Supplied
            (db.record (.closed conn.link.id)) given
            given :=
        .of_idle_eq given
          (fun _ => ⟨[.closed conn.link.id], rfl, rfl⟩)
            rfl rfl
      exact hRecord.trans (ih _)

theorem markReplicaDown_aside (target : Target) :
    Aside (markReplicaDown target : Act σ Unit) := by
  intro db given
  refine .of_idle_eq given ?_ ?_ ?_
  · intro id
    exact .of_history_eq (markReplicaDown_history target db)
  · cases target <;> rfl
  · cases target <;> rfl

/- Choosing a place moves no connection. -/
theorem pick_aside
    (intent : Intent)
    (inTransaction : Bool) :
    Aside (pick intent inTransaction : Act σ Target) := by
  intro db given
  exact .of_idle_eq given (fun _ => .of_history_eq rfl)
    rfl rfl

/-
  The rest of an act goes on from the state that it sees.
-/
theorem Supplies.of_get
    {next : Database σ → Act σ α}
    {db : Database σ}
    {given : List Connection}
    {taken : α → List Connection}
    (hNext : Supplies (next db) db given taken) :
    Supplies (get >>= next) db given taken :=
  hNext

end Act

------------------------------------------------------------
-- Checkouts
------------------------------------------------------------

/- The connection that a checkout hands out, if it does. -/
def handed (result : Except Error Connection) :
    List Connection :=
  result.toOption.toList

@[simp] theorem handed_ok (conn : Connection) :
    handed (.ok conn) = [conn] :=
  rfl

@[simp] theorem handed_error (e : Error) :
    handed (.error e) = [] :=
  rfl

/- The connection that was handed out by now. -/
def Progress.handed : Progress → List Connection
  | paused _ => []
  | finished result => SqlAccess.handed result

namespace Act

variable {σ : Type} (target : Target) (db : Database σ)

/- A failure hands out nothing. -/
theorem refuse_supplies
    (act : Act σ Error)
    (hAct : Aside act) :
    Supplies (do return .error (← act)) db [] handed :=
  .bind (hAct db []) fun e after =>
    .pure (.error e) after handed

/- A connection that is delivered is handed out. -/
theorem deliver_supplies (conn : Connection) :
    Supplies (deliver target conn) db [conn]
      Progress.handed := by
  have hPool :
      Aside
        (modifyPool target Pool.deliver : Act σ Unit) :=
    modifyPool_aside target fun _ => rfl
  apply (hPool db [conn]).bind
  intro _ after
  exact .pure (.finished (.ok conn)) after Progress.handed

/- A place that is given up hands out nothing. -/
theorem abandon_aside :
    Aside (modifyPool target Pool.abandon : Act σ Unit) :=
  modifyPool_aside target fun _ => rfl

section Connect

variable {db} {address : String} {memory : σ}

/- What comes of a connection that is to be opened. -/
theorem connect_run_done
    (hReply :
      db.backend.connect address db.memory =
        (.done (), memory)) :
    (connect address).run db =
      (.done ⟨db.opened + 1, address⟩,
        { db with
          memory := memory
          opened := db.opened + 1
          history :=
            .opened address (db.opened + 1) ::
              .connecting address .done ::
                db.history }) := by
  unfold connect StateT.run modifyGet
  simp only [instMonadStateOfMonadStateOf,
    MonadStateOf.modifyGet, StateT.modifyGet, hReply]
  rfl

/- An opening that fails leaves no connection. -/
theorem connect_run_failed
    {e : Error}
    (hReply :
      db.backend.connect address db.memory =
        (.failed e, memory)) :
    (connect address).run db =
      (.failed e,
        { db with
          memory := memory
          history :=
            .connecting address (.failed e) ::
              db.history }) :=
  by
  unfold connect StateT.run modifyGet
  simp only [instMonadStateOfMonadStateOf,
    MonadStateOf.modifyGet, StateT.modifyGet, hReply]
  rfl

/- An opening that never ends leaves no connection. -/
theorem connect_run_silent
    (hReply :
      db.backend.connect address db.memory =
        (.silent, memory)) :
    (connect address).run db =
      (.silent,
        { db with
          memory := memory
          history :=
            .connecting address .silent ::
              db.history }) := by
  unfold connect StateT.run modifyGet
  simp only [instMonadStateOfMonadStateOf,
    MonadStateOf.modifyGet, StateT.modifyGet, hReply]
  rfl

end Connect

/- A connection that is opened is a new one. -/
theorem connect_supplies (address : String) :
    Supplies (connect address) db [] fun reply =>
      match reply with
      | .done link => [.new link target]
      | _ => [] := by
  unfold Supplies
  rcases hReply : db.backend.connect address db.memory with
    ⟨reply, memory⟩
  cases reply with
  | done answer =>
      rw [connect_run_done hReply]
      let link : Link := ⟨db.opened + 1, address⟩
      refine ⟨fun id => ?_, Nat.le_succ _,
        ⟨[.new link target], by simp, ?_, .refl _⟩,
          ?_⟩
      · exact ⟨[.opened address link.id,
          .connecting address .done], rfl, rfl⟩
      · intro conn hConn
        rw [List.mem_singleton] at hConn
        subst hConn
        exact ⟨Nat.lt_succ_self _, Nat.le_refl _, rfl⟩
      · intro _ conn hConn
        cases List.mem_singleton.1 hConn
        rfl
  | failed e =>
      rw [connect_run_failed hReply]
      refine .of_idle_eq [] ?_ rfl rfl
      intro id
      exact ⟨[.connecting address (.failed e)], rfl,
        rfl⟩
  | silent =>
      rw [connect_run_silent hReply]
      refine .of_idle_eq [] ?_ rfl rfl
      intro id
      exact ⟨[.connecting address .silent], rfl, rfl⟩

/- A new connection is handed out, if one opens. -/
theorem openNew_supplies :
    Supplies (openNew target) db [] Progress.handed := by
  apply Supplies.of_get
  cases hPool : db.pool? target with
  | none =>
      exact .pure
        (.finished (.error (poolClosed target))) db
        Progress.handed
  | some pool =>
      apply (connect_supplies target db pool.address).bind
      intro reply after
      cases reply with
      | done link =>
          exact deliver_supplies target after
            (.new link target)
      | failed e =>
          apply (abandon_aside target after []).bind
          intro _ last
          exact .pure (.finished (.error e)) last
            Progress.handed
      | silent =>
          exact .pure (.paused .forConnection) after
            Progress.handed

end Act

namespace Pool

/- The connections that may not be used are passed over. -/
theorem reuse_eq (pool : Pool) :
    let unusable := fun conn : Connection => !conn.isUsable
    let rest := pool.idle.dropWhile unusable
    pool.reuse =
      ⟨pool.idle.takeWhile unusable, rest.head?,
        { pool with idle := rest.tail }⟩ := by
  simp only [reuse, List.span_eq_takeWhile_dropWhile]

/- What a pool finds and keeps was idle. -/
theorem reuse_subperm (pool : Pool) :
    (pool.reuse.found.toList ++
      pool.reuse.pool.idle).Subperm
      pool.idle := by
  let rest := pool.idle.dropWhile fun conn => !conn.isUsable
  have hRest : rest.head?.toList ++ rest.tail = rest := by
    cases rest <;> rfl
  have hSublist : rest.Sublist pool.idle :=
    (List.dropWhile_suffix _).sublist
  rw [reuse_eq]
  change (rest.head?.toList ++ rest.tail).Subperm pool.idle
  rw [hRest]
  exact hSublist.subperm

/- An idle connection is found only if it can be used. -/
theorem isUsable_of_found
    {pool : Pool}
    {conn : Connection}
    (hFound : pool.reuse.found = some conn) :
    conn.isUsable = true := by
  have hStop :=
    List.head?_dropWhile_not (fun conn => !conn.isUsable)
      pool.idle
  simp only [reuse_eq] at hFound
  rw [hFound] at hStop
  simpa using hStop

/- A place is reserved beside the idle connections. -/
theorem reserve_idle
    {pool reserved : Pool}
    (hReserve : pool.reserve = .ok reserved) :
    reserved.idle = pool.idle := by
  unfold reserve at hReserve
  split at hReserve
  · cases hReserve
  · split at hReserve
    · cases hReserve
      rfl
    · cases hReserve

end Pool

namespace Act

variable {σ : Type} (target : Target) (db : Database σ)

/- A connection is taken from the idle ones, or opened. -/
theorem obtain_supplies :
    Supplies (obtain target) db [] Progress.handed := by
  apply Supplies.of_get
  cases hPool : db.pool? target with
  | none =>
      exact .pure
        (.finished (.error (poolClosed target))) db
        Progress.handed
  | some pool =>
      have hTake :
          Supplies
            (modifyPool target fun _ => pool.reuse.pool) db
              []
            fun _ => pool.reuse.found.toList := by
        apply modifyPool_supplies hPool
        · exact pool.reuse_subperm
        · intro _ conn hConn
          rw [Option.mem_toList] at hConn
          exact Pool.isUsable_of_found hConn
      apply hTake.bind
      intro _ after
      apply (destroy_aside pool.reuse.spoiled after _).bind
      intro _ last
      cases hFound : pool.reuse.found with
      | some conn => exact deliver_supplies target last conn
      | none => exact openNew_supplies target last

theorem reserve_aside :
    Aside
      (reserve target :
        Act σ (Except Pool.Refusal Unit)) := by
  intro db given
  apply Supplies.of_get
  cases hPool : db.pool? target with
  | none => exact .refl db given
  | some pool =>
      dsimp only
      cases hReserve : pool.reserve with
      | error refusal => exact .refl db given
      | ok reserved =>
          have hKeep :
              Supplies (modifyPool target fun _ => reserved)
                db given fun _ => given := by
            apply modifyPool_supplies hPool
            · rw [Pool.reserve_idle hReserve]
            · exact id
          apply hKeep.bind
          intro _ after
          exact .refl after given

theorem exhausted_aside :
    Aside (exhausted target : Act σ Error) :=
  fun db given => .refl db given

theorem connectTimedOut_aside :
    Aside (connectTimedOut target : Act σ Error) :=
  fun db given => .refl db given

/- An attempt hands out one connection at most. -/
theorem attempt_supplies :
    Supplies (attempt target) db [] Progress.handed := by
  apply (reserve_aside target db []).bind
  intro reserved after
  cases reserved with
  | ok _ => exact obtain_supplies target after
  | error refusal =>
      cases refusal with
      | closed =>
          exact .pure
            (.finished (.error (poolClosed target)))
            after Progress.handed
      | full =>
          apply Supplies.of_get
          by_cases hWait : after.config.checkoutMillis = 0
          · simp only [hWait, if_true]
            apply (exhausted_aside target after []).bind
            intro e last
            exact .pure (.finished (.error e)) last
              Progress.handed
          · simp only [hWait, if_false]
            have hQueue :
                Aside
                  (modifyPool target Pool.enqueue :
                    Act σ Unit) :=
              modifyPool_aside target fun _ => rfl
            apply (hQueue after []).bind
            intro _ last
            exact .pure (.paused .forPlace) last
              Progress.handed

/- An opening that is given up hands out nothing. -/
theorem outlastConnect_supplies :
    Supplies (outlastConnect target) db [] handed := by
  apply (abandon_aside target db []).bind
  intro _ after
  exact refuse_supplies after _
    (connectTimedOut_aside target)

/- Who waits too long is handed nothing. -/
theorem outlastQueue_supplies :
    Supplies (outlastQueue target) db [] handed := by
  have hQueue :
      Aside
        (modifyPool target Pool.dequeue : Act σ Unit) :=
    modifyPool_aside target fun _ => rfl
  apply (hQueue db []).bind
  intro _ after
  apply (reserve_aside target after []).bind
  intro reserved after
  cases reserved with
  | ok _ =>
      apply (obtain_supplies target after).bind
      intro progress last
      cases progress with
      | finished result => exact .pure result last handed
      | paused pause =>
          exact outlastConnect_supplies target last
  | error refusal =>
      cases refusal with
      | closed =>
          exact .pure (.error (poolClosed target)) after
            handed
      | full =>
          exact refuse_supplies after _
            (exhausted_aside target)

theorem outlast_supplies (pause : Pause) :
    Supplies (outlast target pause) db [] handed := by
  cases pause with
  | forPlace => exact outlastQueue_supplies target db
  | forConnection => exact outlastConnect_supplies target db

/-
  A checkout at a place hands out what its pool supplies.
-/
theorem checkoutAt_supplies :
    Supplies (checkoutAt target) db [] handed := by
  apply (attempt_supplies target db).bind
  intro progress after
  cases progress with
  | finished result => exact .pure result after handed
  | paused pause =>
      exact outlast_supplies target after pause

/- A checkout that falls back has handed out nothing yet. -/
theorem handed_of_fallsBack
    {target : Target}
    {result : Except Error Connection}
    (hFalls : fallsBack target result = true) :
    handed result = [] := by
  cases result with
  | ok conn => cases hFalls
  | error e => rfl

/-
  The primary hands out a connection where a replica has
  failed to.
-/
theorem fallBack_supplies
    (result : Except Error Connection) :
    Supplies (fallBack target result) db (handed result)
      handed := by
  unfold fallBack
  cases hFalls : fallsBack target result with
  | true =>
      rw [handed_of_fallsBack hFalls, if_pos rfl]
      apply (markReplicaDown_aside target db []).bind
      intro _ after
      exact checkoutAt_supplies .primary after
  | false => exact .pure result db handed

/-
  A checkout that is routed hands out what its place
  supplies.
-/
theorem checkoutRouted_supplies
    (intent : Intent)
    (inTransaction : Bool) :
    Supplies (checkoutRouted intent inTransaction) db []
      handed := by
  apply (pick_aside intent inTransaction db []).bind
  intro target after
  apply (checkoutAt_supplies target after).bind
  intro result last
  exact fallBack_supplies target last result

/-
  A checkout hands out what the place for its role supplies.
-/
theorem checkout_supplies (role : Role) :
    Supplies (checkout role) db [] handed := by
  cases role with
  | primary => exact checkoutAt_supplies .primary db
  | replica => exact checkoutRouted_supplies db .read false

end Act

------------------------------------------------------------
-- Waiters
------------------------------------------------------------

namespace Waiter

variable {σ : Type} (db : Database σ)

/- The connection that a user has got without waiting. -/
def handed
    (result : Except Waiter (Except Error Connection)) :
    List Connection :=
  match result with
  | .error _ => []
  | .ok result => SqlAccess.handed result

theorem startPrimary_supplies :
    Act.Supplies startPrimary db [] handed := by
  apply (Act.attempt_supplies .primary db).bind
  intro progress after
  cases progress with
  | finished result => exact .pure (.ok result) after handed
  | paused pause =>
      exact .pure
        (.error ⟨.primary, pause, false⟩) after handed

theorem start_supplies (role : Role) :
    Act.Supplies (start role) db [] handed := by
  cases role with
  | primary => exact startPrimary_supplies db
  | replica =>
      apply (Act.pick_aside .read false db []).bind
      intro target after
      apply (Act.attempt_supplies target after).bind
      intro progress after
      cases progress with
      | paused pause =>
          exact .pure
            (.error ⟨target, pause, true⟩) after handed
      | finished result =>
          simp only [Progress.handed]
          cases hFalls : Act.fallsBack target result with
          | true =>
              rw [Act.handed_of_fallsBack hFalls,
                if_pos rfl]
              apply
                (Act.markReplicaDown_aside target after
                  []).bind
              intro _ last
              exact startPrimary_supplies last
          | false => exact .pure (.ok result) after handed

/-
  A checkout that waited for long ends with a connection or
  a failure.
-/
theorem finish_supplies (waiter : Waiter) :
    Act.Supplies waiter.finish db [] SqlAccess.handed := by
  apply
    (Act.outlast_supplies waiter.target db
      waiter.pause).bind
  intro result after
  by_cases hFall : waiter.mayFallBack = true
  · simp only [hFall, if_true]
    exact Act.fallBack_supplies waiter.target after result
  · simp only [hFall]
    exact .pure result after SqlAccess.handed

end Waiter

------------------------------------------------------------
-- Giving Back
------------------------------------------------------------

namespace Act

variable {σ : Type} (conn : Connection) (db : Database σ)

/-
  What the pools can get of a connection that is let go of:
  not one with a call that never ends.
-/
def returned (conn : Connection) : List Connection :=
  if conn.unanswered then [] else [conn]

/-
  A connection that cannot be used is closed, unless a call
  on it never ends.
-/
theorem evict_supplies :
    Supplies (evict conn) db (returned conn) fun _ =>
      [] := by
  have hDiscard :
      Aside
        (modifyPool conn.target Pool.discard :
          Act σ Unit) :=
    modifyPool_aside conn.target fun _ => rfl
  have hEvict :
      Supplies (evict conn) db [] fun _ => [] := by
    apply (hDiscard db []).bind
    intro _ after
    exact destroy_aside [conn] after []
  exact hEvict.dropped (returned conn)

/- A connection that is put back is idle again. -/
theorem putBack_supplies :
    Supplies
      (modifyPool conn.target fun pool => pool.putBack conn)
        db
      [conn] fun _ => [] := by
  cases hPool : db.pool? conn.target with
  | none =>
      have hSame :=
        Database.modifyPool_of_none hPool
          fun pool => pool.putBack conn
      change
        db.Supplied (db.modifyPool conn.target
          fun pool => pool.putBack conn) [conn] []
      rw [hSame]
      exact (Database.Supplied.refl db []).dropped [conn]
  | some pool =>
      have hPerm :
          (pool.idle ++ [conn]).Perm
            ([conn] ++ pool.idle) :=
        List.perm_append_comm
      apply modifyPool_supplies hPool
      · exact hPerm.subperm
      · intro _
        simp

theorem isPoolClosed_aside :
    Aside (isPoolClosed conn : Act σ Bool) :=
  fun db given => .refl db given

/- A connection that is let go of is put back or closed. -/
theorem release_supplies :
    Supplies (release conn) db (returned conn)
      fun _ => [] := by
  cases hUnanswered : conn.unanswered with
  | true =>
      simp only [release, returned, hUnanswered, if_true]
      exact .refl db []
  | false =>
      simp only [release, hUnanswered]
      apply
        (isPoolClosed_aside conn db (returned conn)).bind
      intro closed after
      cases closed with
      | true => exact evict_supplies conn after
      | false =>
          simp only [returned, hUnanswered]
          exact putBack_supplies conn after

/-
  A connection that is given back is idle again or closed.
-/
theorem checkin_supplies :
    Supplies (checkin conn) db (returned conn)
      fun _ => [] := by
  unfold checkin
  split
  · exact release_supplies conn db
  · exact evict_supplies conn db

/- The idle connections of a pool are closed. -/
theorem closePool_aside (target : Target) :
    Aside (closePool target : Act σ Unit) := by
  intro db given
  apply Supplies.of_get
  cases hPool : db.pool? target with
  | none => exact .refl db given
  | some pool =>
      have hClose :
          Supplies (modifyPool target Pool.close) db given
            fun _ => given := by
        apply modifyPool_supplies hPool
        · exact (List.subperm_append_left given).2
            List.nil_subperm
        · exact id
      apply hClose.bind
      intro _ after
      exact destroy_aside pool.idle after given

/- The idle connections of all pools are closed. -/
theorem close_aside : Aside (close : Act σ Unit) := by
  intro db given
  apply Supplies.of_get
  apply (closePool_aside .primary db given).bind
  intro _ after
  generalize List.range db.replicas.length = indices
  induction indices generalizing after with
  | nil => exact .refl after given
  | cons index rest ih =>
      apply
        (closePool_aside (.replica index) after given).bind
      intro _ last
      exact ih last

end Act

end SqlAccess
