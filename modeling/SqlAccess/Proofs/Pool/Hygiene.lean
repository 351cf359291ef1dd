import Mathlib.Data.List.Nodup
import SqlAccess.Proofs.Pool.Engagement
import SqlAccess.Proofs.Transaction.Progress

/-
  This file shows that a checkout never hands out a
  connection that someone has left in disorder.  The proof
  keeps an invariant of the world: no connection is at two
  places, and each fits what it is engaged in.

  Key definitions include:
    * `World.Sound`
    * `World.Follows`

  Key theorems include:
    * `World.Sound.supplied`
    * `World.Sound.handled`
    * `World.step_spec`
    * `World.handed_clean`
-/

namespace SqlAccess

variable {σ : Type}

------------------------------------------------------------
-- Sound Worlds
------------------------------------------------------------

/- The number of a connection, which no other one has. -/
def Connection.id (conn : Connection) : Nat :=
  conn.link.id

/- A held connection fits what it is engaged in. -/
def Holding.Fits
    (db : Database σ)
    (holding : Holding) : Prop :=
  holding.engagement.Fits holding.conn
    (db.mayBeOpen holding.conn.id)

namespace World

/-
  No connection is at two places, all of them were opened,
  and nothing was asked of connections that were not.  An
  idle connection is not stuck in a call, and fits being
  engaged in nothing; a held one fits what it is engaged in.
-/
structure Sound (world : World σ) : Prop where
  distinct : (world.conns.map Connection.id).Nodup
  known :
    ∀ conn ∈ world.conns, conn.id ≤ world.db.opened
  unasked :
    ∀ id, world.db.opened < id →
      world.db.mayBeOpen id = false
  idle :
    ∀ conn ∈ world.db.idle, conn.unanswered = false ∧
      Engagement.free.Fits conn (world.db.mayBeOpen conn.id)
  held : ∀ holding ∈ world.held, holding.Fits world.db

/-
  A connection that is relied on in a later world was relied
  on in the earlier one, or was opened in between.
-/
structure Follows (before after : World σ) : Prop where
  opened : before.db.opened ≤ after.db.opened
  relied :
    ∀ conn ∈ after.conns, conn.Relied →
      before.db.opened < conn.id ∨
        ∃ earlier ∈ before.conns,
          earlier.id = conn.id ∧ earlier.Relied

theorem Follows.refl (world : World σ) :
    world.Follows world := by
  refine ⟨Nat.le_refl _, ?_⟩
  intro conn hConn hRelied
  exact .inr ⟨conn, hConn, rfl, hRelied⟩

/- What is relied on later was relied on in between. -/
theorem Follows.trans
    {before middle after : World σ}
    (hFirst : before.Follows middle)
    (hSecond : middle.Follows after) :
    before.Follows after := by
  have hOpened := hFirst.opened
  refine ⟨Nat.le_trans hOpened hSecond.opened, ?_⟩
  intro conn hConn hRelied
  rcases hSecond.relied conn hConn hRelied with
    hNew | ⟨same, hSame, hId, hStill⟩
  · left
    omega
  · rw [← hId]
    exact hFirst.relied same hSame hStill

/- A new database has no connections. -/
theorem idle_new
    (config : Config)
    (backend : Backend σ)
    (memory : σ) :
    (Database.new config backend memory).idle = [] := by
  simp only [Database.idle, Database.pools,
    List.flatMap_eq_nil_iff]
  intro pool hPool
  simp only [Database.new, List.mem_cons,
    List.mem_mapIdx] at hPool
  rcases hPool with rfl | ⟨index, hIndex, rfl⟩
  · rfl
  · rfl

/- A new world has nothing in disorder. -/
theorem new_sound
    (config : Config)
    (backend : Backend σ)
    (memory : σ) :
    (World.new config backend memory).Sound := by
  have hIdle :
      (World.new config backend memory).db.idle = [] :=
    idle_new config backend memory
  have hConns :
      (World.new config backend memory).conns = [] := by
    rw [conns, hIdle]
    rfl
  refine ⟨?_, ?_, ?_, ?_, ?_⟩
  · rw [hConns]
    exact .nil
  · rw [hConns]
    simp
  · intro id _
    rfl
  · rw [hIdle]
    simp
  · intro holding hHolding
    cases hHolding

------------------------------------------------------------
-- Connections That Are Handed Out and Back
------------------------------------------------------------

section Subperms

variable {α β : Type}

/- Parts of fewer items are among those of more items. -/
private theorem subperm_map
    {few many : List α}
    (hFew : few.Subperm many)
    (part : α → β) :
    (few.map part).Subperm (many.map part) := by
  rcases hFew with ⟨same, hSame, hSublist⟩
  exact (hSame.map part).symm.subperm.trans
    (hSublist.map part).subperm

/- Fewer items than those that differ do so too. -/
private theorem nodup_of_subperm
    {few many : List α}
    (hFew : few.Subperm many)
    (hMany : many.Nodup) : few.Nodup := by
  rcases hFew with ⟨same, hSame, hSublist⟩
  exact hSame.nodup_iff.1 (hMany.sublist hSublist)

/- Three lists are put together in another order. -/
private theorem append_rotate (a b c : List α) :
    (a ++ (b ++ c)).Perm ((b ++ a) ++ c) := by
  rw [← List.append_assoc]
  exact List.perm_append_comm.append_right c

end Subperms

end World

/- A connection that is engaged in nothing. -/
def Holding.free (conn : Connection) : Holding :=
  ⟨conn, .free⟩

namespace World

section Supplied

variable {world : World σ} {after : Database σ}
variable {given taken : List Connection}
variable {rest : List Holding}

/-
  What the pools hand out and keep, with what else is held,
  was somewhere in the world or was just opened.
-/
private theorem conns_of_supplied
    (hSupplied : world.db.Supplied after given taken)
    (hHeld :
      (given.map Holding.free ++ rest).Subperm world.held)
    (waiters : List Waiter) :
    ∃ fresh : List Connection,
      (fresh.map Connection.id).Nodup ∧
        (∀ conn ∈ fresh,
          conn.Opened world.db.opened after.opened) ∧
        (taken ++ after.idle).Subperm
          (fresh ++ (given ++ world.db.idle)) ∧
        (conns ⟨after, taken.map Holding.free ++ rest,
          waiters⟩).Subperm (fresh ++ world.conns) := by
  rcases hSupplied.origin with
    ⟨fresh, hFresh, hNew, hIdle⟩
  refine ⟨fresh, hFresh, hNew, hIdle, ?_⟩
  have hFree :
      ∀ list : List Connection,
        (list.map Holding.free ++ rest).map Holding.conn =
          list ++ rest.map Holding.conn := by
    intro list
    simp [Holding.free, Function.comp_def]
  have hOther :
      (given ++ rest.map Holding.conn).Subperm
        (world.held.map Holding.conn) := by
    rw [← hFree]
    exact subperm_map hHeld Holding.conn
  have hAfter :
      (after.idle ++
        (taken ++ rest.map Holding.conn)).Subperm
        (fresh ++ ((given ++ world.db.idle) ++
          rest.map Holding.conn)) := by
    apply (append_rotate _ _ _).subperm.trans
    rw [← List.append_assoc]
    exact (List.subperm_append_right _).2 hIdle
  have hBefore :
      ((given ++ world.db.idle) ++
          rest.map Holding.conn).Subperm world.conns := by
    apply (append_rotate _ _ _).symm.subperm.trans
    exact (List.subperm_append_left _).2 hOther
  rw [conns, hFree]
  exact hAfter.trans
    ((List.subperm_append_left fresh).2 hBefore)

/-
  The world stays sound when the pools hand out connections
  and take others back, and what they hand out can be used:
  wherever a connection comes from, it is in order.
-/
theorem Sound.supplied
    (hSound : world.Sound)
    (hSupplied : world.db.Supplied after given taken)
    (hHeld :
      (given.map Holding.free ++ rest).Subperm world.held)
    (hAnswered :
      ∀ conn ∈ given, conn.unanswered = false)
    (waiters : List Waiter) :
    let next : World σ :=
      ⟨after, taken.map Holding.free ++ rest, waiters⟩
    next.Sound ∧ world.Follows next ∧
      ∀ conn ∈ taken, conn.unanswered = false := by
  rcases conns_of_supplied hSupplied hHeld waiters with
    ⟨fresh, hFresh, hNew, hIdle, hConns⟩
  have hOpened := hSupplied.opened
  have hOpen :
      ∀ id, after.mayBeOpen id = world.db.mayBeOpen id :=
    fun id => (hSupplied.quiet id).mayBeOpen
  have hGiven :
      ∀ conn ∈ given,
        Holding.free conn ∈ world.held := by
    intro conn hConn
    apply hHeld.subset
    rw [List.mem_append]
    exact .inl (List.mem_map_of_mem hConn)
  have hFit :
      ∀ conn ∈ taken ++ after.idle,
        conn.unanswered = false ∧
          Engagement.free.Fits conn
            (after.mayBeOpen conn.id) := by
    intro conn hConn
    rw [hOpen]
    have hSource := hIdle.subset hConn
    rw [List.mem_append, List.mem_append] at hSource
    rcases hSource with hOf | hOf | hOf
    · rcases hNew conn hOf with ⟨hLow, -, hConn⟩
      have hUnasked := hSound.unasked conn.id hLow
      rw [hUnasked, hConn]
      exact ⟨rfl, rfl, fun _ _ => rfl⟩
    · exact ⟨hAnswered conn hOf,
        hSound.held _ (hGiven conn hOf)⟩
    · exact hSound.idle conn hOf
  refine ⟨⟨?_, ?_, ?_, ?_, ?_⟩,
    ⟨hOpened, ?_⟩, ?_⟩
  · apply nodup_of_subperm
      (subperm_map hConns Connection.id)
    rw [List.map_append, List.nodup_append]
    refine ⟨hFresh, hSound.distinct, ?_⟩
    simp only [List.mem_map]
    rintro _ ⟨new, hNewMem, rfl⟩ _ ⟨old, hOld, rfl⟩
    have hLow := (hNew new hNewMem).1
    have hKnown := hSound.known old hOld
    simp only [Connection.id] at hKnown ⊢
    omega
  · intro conn hConn
    have hSource := hConns.subset hConn
    rw [List.mem_append] at hSource
    cases hSource with
    | inl hOf => exact (hNew conn hOf).2.1
    | inr hOf =>
        exact Nat.le_trans (hSound.known conn hOf) hOpened
  · intro id hId
    rw [hOpen]
    exact hSound.unasked id (Nat.lt_of_le_of_lt hOpened hId)
  · intro conn hConn
    exact hFit conn (List.mem_append_right _ hConn)
  · intro holding hHolding
    rw [List.mem_append] at hHolding
    cases hHolding with
    | inl hTaken =>
        rw [List.mem_map] at hTaken
        rcases hTaken with ⟨conn, hConn, rfl⟩
        exact (hFit conn (List.mem_append_left _ hConn)).2
    | inr hRest =>
        unfold Holding.Fits
        rw [hOpen]
        apply hSound.held
        exact hHeld.subset (List.mem_append_right _ hRest)
  · intro conn hConn hRelied
    have hSource := hConns.subset hConn
    rw [List.mem_append] at hSource
    cases hSource with
    | inl hOf => exact .inl (hNew conn hOf).1
    | inr hOf => exact .inr ⟨conn, hOf, rfl, hRelied⟩
  · intro conn hConn
    exact (hFit conn (List.mem_append_left _ hConn)).1

end Supplied

------------------------------------------------------------
-- Connections That Are Used
------------------------------------------------------------

section Replaced

variable {before after : World σ}
variable {old new : Holding} {others : List Holding}

/-
  The connections of others are not the one that is used.
-/
private theorem Sound.id_ne
    (hSound : before.Sound)
    (hBefore :
      before.conns.Perm
        (old.conn ::
          (before.db.idle ++ others.map Holding.conn)))
    {conn : Connection}
    (hConn :
      conn ∈ before.db.idle ++ others.map Holding.conn) :
    conn.id ≠ old.conn.id := by
  have hIds :=
    (hBefore.map Connection.id).nodup_iff.1 hSound.distinct
  rw [List.map_cons, List.nodup_cons] at hIds
  intro hSame
  apply hIds.1
  rw [← hSame]
  exact List.mem_map_of_mem hConn

/-
  The world stays sound when one connection is used and fits
  what it is engaged in afterwards, and nothing happens on
  the others.
-/
theorem Sound.replaced
    (hSound : before.Sound)
    (hOld : before.held.Perm (old :: others))
    (hNew : after.held.Perm (new :: others))
    (hSame : new.conn.id = old.conn.id)
    (hApart : Database.Apart old.conn.id before.db after.db)
    (hFits : new.Fits after.db)
    (hRelied : new.conn.Relied → old.conn.Relied) :
    after.Sound ∧ before.Follows after := by
  let rest := before.db.idle ++ others.map Holding.conn
  have hIdle : after.db.idle = before.db.idle := by
    rw [Database.idle, hApart.pools]
    rfl
  have hBefore : before.conns.Perm (old.conn :: rest) :=
    ((hOld.map Holding.conn).append_left _).trans
      List.perm_middle
  have hAfter : after.conns.Perm (new.conn :: rest) := by
    rw [conns, hIdle]
    exact ((hNew.map Holding.conn).append_left _).trans
      List.perm_middle
  have hOldMem : old.conn ∈ before.conns :=
    hBefore.symm.subset List.mem_cons_self
  have hRest : rest ⊆ before.conns := by
    intro conn hConn
    exact hBefore.symm.subset (List.mem_cons_of_mem _ hConn)
  have hOpen :
      ∀ conn ∈ rest,
        after.db.mayBeOpen conn.id =
          before.db.mayBeOpen conn.id := by
    intro conn hConn
    have hNe := hSound.id_ne hBefore hConn
    exact (hApart.others conn.id hNe).mayBeOpen
  refine ⟨⟨?_, ?_, ?_, ?_, ?_⟩, ⟨?_, ?_⟩⟩
  · apply (hAfter.map Connection.id).nodup_iff.2
    rw [List.map_cons, hSame]
    exact (hBefore.map Connection.id).nodup_iff.1
      hSound.distinct
  · intro conn hConn
    rw [hApart.opened]
    cases hAfter.subset hConn with
    | head =>
        rw [hSame]
        exact hSound.known old.conn hOldMem
    | tail _ hOther =>
        exact hSound.known conn (hRest hOther)
  · intro id hId
    rw [hApart.opened] at hId
    have hKnown := hSound.known old.conn hOldMem
    have hNe : id ≠ old.conn.id := by
      omega
    rw [(hApart.others id hNe).mayBeOpen]
    exact hSound.unasked id hId
  · intro conn hConn
    rw [hIdle] at hConn
    rw [hOpen conn (List.mem_append_left _ hConn)]
    exact hSound.idle conn hConn
  · intro holding hHolding
    cases hNew.subset hHolding with
    | head => exact hFits
    | tail _ hOther =>
        have hConn : holding.conn ∈ rest :=
          List.mem_append_right _
            (List.mem_map_of_mem hOther)
        unfold Holding.Fits
        rw [hOpen holding.conn hConn]
        apply hSound.held
        exact hOld.symm.subset
          (List.mem_cons_of_mem _ hOther)
  · exact Nat.le_of_eq hApart.opened.symm
  · intro conn hConn hUsed
    right
    cases hAfter.subset hConn with
    | head =>
        exact ⟨old.conn, hOldMem, hSame.symm,
          hRelied hUsed⟩
    | tail _ hOther =>
        exact ⟨conn, hRest hOther, rfl, hUsed⟩

end Replaced

/-
  The world stays sound when a client does something with a
  connection.
-/
theorem Sound.handled
    {world : World σ}
    (hSound : world.Sound)
    {place : Nat}
    {holding : Holding}
    (hHeld : world.held[place]? = some holding)
    {handling : Handling}
    (hOrdinary : handling.IsOrdinary) :
    let run :=
      ((handling.carryOut holding.engagement).run
        holding.conn).run world.db
    let next : World σ :=
      { world with
        db := run.2
        held :=
          world.held.set place ⟨run.1.2, run.1.1⟩ }
    next.Sound ∧ world.Follows next := by
  have hFits : holding.Fits world.db :=
    hSound.held holding (List.mem_of_getElem? hHeld)
  have hCareful :
      Use.Careful
        (handling.carryOut holding.engagement :
          Use σ Engagement) :=
    handling.carryOut_careful holding.engagement
  rcases hCareful.confined holding.conn world.db with
    ⟨hLink, hApart⟩
  rcases
    (Handling.carryOut_yields holding.conn world.db
      hOrdinary hFits).and
      (hCareful.cautious holding.conn world.db) with
    ⟨calls, hHeard, -, hUsed, hCautious⟩
  rcases List.getElem?_eq_some_iff.1 hHeld with
    ⟨hPlace, rfl⟩
  refine hSound.replaced
    (List.getElem_cons_eraseIdx_perm hPlace).symm
    (List.set_perm_cons_eraseIdx hPlace _)
    (congrArg Link.id hLink) hApart ?_ ?_
  · unfold Holding.Fits
    rw [Connection.id, hLink, hHeard.mayBeOpen]
    exact hUsed
  · intro hRelied
    exact (hCautious hRelied).1

------------------------------------------------------------
-- Steps
------------------------------------------------------------

/-
  A connection in order: it is relied on and outside of a
  transaction, has nothing pending, and its session has no
  transaction open.
-/
structure Clean
    (world : World σ)
    (conn : Connection) : Prop where
  relied : conn.Relied
  outside : conn.inTransaction = false
  settled : conn.pending = []
  closed : world.db.mayBeOpen conn.id = false

/-
  A world as it is after a step: it is sound and follows the
  one before, and what was handed out is in order.
-/
structure Stepped
    (world : World σ)
    (step : Option Connection × World σ) : Prop where
  sound : step.2.Sound
  follows : world.Follows step.2
  clean : ∀ conn, step.1 = some conn → step.2.Clean conn
  held :
    ∀ conn, step.1 = some conn → conn ∈ step.2.conns

/- Nothing is handed out. -/
theorem Stepped.of_none
    {world next : World σ}
    (hNext : next.Sound ∧ world.Follows next) :
    world.Stepped (none, next) :=
  ⟨hNext.1, hNext.2, by simp, by simp⟩

/- A deed that does nothing keeps the world sound. -/
theorem Sound.stepped_refl
    {world : World σ}
    (hSound : world.Sound) : world.Stepped (none, world) :=
  .of_none ⟨hSound, .refl world⟩

section Steps

variable {world : World σ} (hSound : world.Sound)
include hSound

/- A client takes a connection that the pools hand out. -/
theorem Sound.receive
    {after : Database σ}
    {result : Except Error Connection}
    (hSupplied : world.db.Supplied after [] (handed result))
    (waiters : List Waiter) :
    world.Stepped
      (receive ⟨after, world.held, waiters⟩
        result) := by
  rcases hSound.supplied hSupplied (.refl _) (by simp)
      waiters with
    ⟨hNext, hFollows, hAnswered⟩
  cases result with
  | error e => exact .of_none ⟨hNext, hFollows⟩
  | ok conn =>
      have hUsable : conn.isUsable = true := by
        apply hSupplied.usable (by simp)
        simp
      have hReady :
          conn.healthy = true ∧
            conn.inTransaction = false := by
        simpa [Connection.isUsable] using hUsable
      have hConn : conn ∈ handed (.ok conn) := by
        simp
      have hRelied : conn.Relied :=
        ⟨hReady.1, hAnswered conn hConn⟩
      have hFits := hNext.held (Holding.free conn) (by simp)
      refine ⟨hNext, hFollows, ?_, ?_⟩
      · rintro _ ⟨⟩
        exact ⟨hRelied, hReady.2, hFits.1,
          hFits.2 hRelied hReady.2⟩
      · rintro _ ⟨⟩
        apply List.mem_append_right
        simp [World.receive]

/- A client lets go of a connection. -/
theorem Sound.letGo
    (place : Nat)
    {release : Connection → Act σ Unit}
    (hRelease :
      ∀ conn db,
        Act.Supplies (release conn) db (Act.returned conn)
          fun _ => []) :
    (world.letGo place release).Sound ∧
      world.Follows (world.letGo place release) := by
  unfold World.letGo
  split
  case h_1 conn hHeld =>
    rcases List.getElem?_eq_some_iff.1 hHeld with
      ⟨hPlace, hGet⟩
    have hSplit :=
      List.getElem_cons_eraseIdx_perm hPlace
    rw [hGet] at hSplit
    have hAfter := hRelease conn world.db
    cases hUnanswered : conn.unanswered with
    | true =>
        simp only [Act.returned, hUnanswered] at hAfter
        rcases hSound.supplied hAfter
            (List.eraseIdx_sublist _ place).subperm
            (by simp) world.waiters with
          ⟨hNext, hFollows, -⟩
        exact ⟨hNext, hFollows⟩
    | false =>
        simp only [Act.returned, hUnanswered] at hAfter
        rcases hSound.supplied hAfter hSplit.subperm
            (by simpa using hUnanswered) world.waiters with
          ⟨hNext, hFollows, -⟩
        exact ⟨hNext, hFollows⟩
  case h_2 => exact ⟨hSound, .refl world⟩

/- Something happens to the database only. -/
theorem Sound.aside
    {act : Act σ Unit}
    (hAct : Act.Aside act) :
    world.Stepped
      (none,
        { world with db := (act.run world.db).2 }) := by
  rcases hSound.supplied (hAct world.db []) (.refl _)
      (by simp) world.waiters with
    ⟨hNext, hFollows, -⟩
  exact .of_none ⟨hNext, hFollows⟩

/- What each deed makes of a sound world. -/
theorem Sound.step
    {deed : Deed}
    (hOrdinary : deed.IsOrdinary) :
    world.Stepped (step deed world) := by
  cases deed with
  | checkout demand =>
      apply hSound.receive
      cases demand with
      | target place =>
          exact Act.checkoutAt_supplies place world.db
      | role wanted =>
          exact Act.checkout_supplies world.db wanted
      | routed intent inTransaction =>
          exact Act.checkoutRouted_supplies world.db intent
            inTransaction
  | ask role =>
      have hStart := Waiter.start_supplies world.db role
      unfold Act.Supplies at hStart
      simp only [World.step]
      split
      case h_1 result after hRun =>
        rw [hRun] at hStart
        exact hSound.receive hStart world.waiters
      case h_2 waiter after hRun =>
        rw [hRun] at hStart
        rcases hSound.supplied hStart (.refl _) (by simp)
            (waiter :: world.waiters) with
          ⟨hNext, hFollows, -⟩
        exact .of_none ⟨hNext, hFollows⟩
  | await place =>
      simp only [World.step]
      split
      case h_1 waiter hWaiter =>
        exact hSound.receive
          (waiter.finish_supplies world.db) _
      case h_2 => exact hSound.stepped_refl
  | handle place handling =>
      simp only [World.step]
      split
      case h_1 holding hHeld =>
        exact .of_none (hSound.handled hHeld hOrdinary)
      case h_2 => exact hSound.stepped_refl
  | checkin place =>
      exact .of_none
        (hSound.letGo place Act.checkin_supplies)
  | drop place =>
      exact .of_none
        (hSound.letGo place Act.release_supplies)
  | suspect target =>
      exact hSound.aside (Act.markReplicaDown_aside target)
  | close => exact hSound.aside Act.close_aside

end Steps

------------------------------------------------------------
-- Runs
------------------------------------------------------------

/- A run keeps the world sound, which follows all before. -/
theorem Sound.play
    {world : World σ}
    (hSound : world.Sound)
    {deeds : List Deed}
    (hOrdinary : ∀ deed ∈ deeds, deed.IsOrdinary) :
    (play deeds world).Sound ∧
      ∀ earlier ∈ trace deeds world,
        earlier.Sound ∧
          earlier.Follows (play deeds world) := by
  induction deeds generalizing world with
  | nil =>
      refine ⟨hSound, ?_⟩
      intro earlier hEarlier
      rw [trace, List.mem_singleton] at hEarlier
      subst hEarlier
      exact ⟨hSound, .refl _⟩
  | cons deed rest ih =>
      have hDeed := hOrdinary deed List.mem_cons_self
      have hStep := hSound.step hDeed
      have hRest :
          ∀ later ∈ rest, later.IsOrdinary := by
        intro later hLater
        exact hOrdinary later
          (List.mem_cons_of_mem _ hLater)
      rcases ih hStep.sound hRest with ⟨hLast, hTrace⟩
      refine ⟨hLast, ?_⟩
      intro earlier hEarlier
      rw [trace, List.mem_cons] at hEarlier
      cases hEarlier with
      | inl hFirst =>
          have hMem :
              (World.step deed world).2 ∈
                trace rest (World.step deed world).2 := by
            cases rest <;> simp [trace]
          rw [hFirst]
          exact ⟨hSound,
            hStep.follows.trans (hTrace _ hMem).2⟩
      | inr hLater => exact hTrace earlier hLater

/- In a sound world a connection is at one place only. -/
theorem Sound.eq_of_id_eq
    {world : World σ}
    (hSound : world.Sound)
    {conn other : Connection}
    (hConn : conn ∈ world.conns)
    (hOther : other ∈ world.conns)
    (hId : conn.id = other.id) : conn = other :=
  List.inj_on_of_nodup_map hSound.distinct hConn hOther hId

/-
  A checkout never hands out a connection in disorder.  In
  every run of any number of clients from a new database,
  with every call free to be answered, to fail or never to
  end, a connection that is handed out is healthy, outside
  of a transaction and has nothing pending; its session has
  no transaction open; and it was never marked unhealthy.
-/
theorem handed_clean
    (config : Config)
    (backend : Backend σ)
    (memory : σ)
    {deeds : List Deed}
    {deed : Deed}
    {conn : Connection}
    (hOrdinary :
      ∀ done ∈ deed :: deeds, done.IsOrdinary)
    (hHanded :
      (step deed
        (play deeds (.new config backend memory))).1 =
          some conn) :
    let start : World σ := .new config backend memory
    let last := (step deed (play deeds start)).2
    conn.healthy = true ∧ conn.inTransaction = false ∧
      conn.pending = [] ∧
      last.db.mayBeOpen conn.link.id = false ∧
      ∀ world ∈ trace deeds start,
        ∀ other ∈ world.conns,
          other.link.id = conn.link.id →
            other.healthy = true := by
  intro start last
  rw [List.forall_mem_cons] at hOrdinary
  rcases hOrdinary with ⟨hDeed, hDeeds⟩
  have hStart : start.Sound :=
    new_sound config backend memory
  rcases hStart.play hDeeds with ⟨hBefore, hTrace⟩
  have hStep := hBefore.step hDeed
  have hClean := hStep.clean conn hHanded
  refine ⟨hClean.relied.healthy, hClean.outside,
    hClean.settled, hClean.closed, ?_⟩
  intro world hWorld other hOther hId
  rcases hTrace world hWorld with ⟨hSound, hFollows⟩
  have hLater := hFollows.trans hStep.follows
  rcases hLater.relied conn (hStep.held conn hHanded)
      hClean.relied with
    hNew | ⟨earlier, hEarlier, hSame, hRelied⟩
  · have hKnown := hSound.known other hOther
    simp only [Connection.id] at hKnown hNew
    omega
  · have hEq : other = earlier :=
      hSound.eq_of_id_eq hOther hEarlier
        (hId.trans hSame.symm)
    rw [hEq]
    exact hRelied.healthy

section Sample

/- A client whose commit fails lets go of the connection. -/
def sampleDeeds : List Deed :=
  [.checkout (.role .primary), .handle 0 .begin,
    .handle 0 (.run (.batch "a")),
    .handle 0 (.finish .commit), .drop 0]

def sampleStart : World Nat :=
  .new (.new .sqlite "p") (.failing [2]) 0

/- The next client gets another connection. -/
def sampleConnection : Connection :=
  .new ⟨2, "p"⟩ .primary

/-
  A client takes a connection again that another one has let
  go of after a statement.
-/
theorem handed_clean_sample :
    let last :=
      (step (.checkout (.role .replica))
        (play sampleDeeds sampleStart)).2
    last.db.mayBeOpen 1 = true ∧
      last.db.mayBeOpen sampleConnection.link.id = false ∧
      ∀ world ∈ trace sampleDeeds sampleStart,
        ∀ other ∈ world.conns,
          other.link.id = sampleConnection.link.id →
            other.healthy = true := by
  intro last
  have hHanded :
      (step (.checkout (.role .replica))
        (play sampleDeeds sampleStart)).1 =
          some sampleConnection := by
    decide +kernel
  have hOpen : last.db.mayBeOpen 1 = true := by
    decide +kernel
  have hOrdinary :
      ∀ deed ∈
        Deed.checkout (.role .replica) :: sampleDeeds,
        deed.IsOrdinary := by
    simp [sampleDeeds, Deed.IsOrdinary, Handling.IsOrdinary,
      Session.Statement.call]
    decide
  have hClean :=
    handed_clean (.new .sqlite "p")
      (.failing [2]) 0 hOrdinary hHanded
  exact ⟨hOpen, hClean.2.2.2.1, hClean.2.2.2.2⟩

end Sample

end World

end SqlAccess
