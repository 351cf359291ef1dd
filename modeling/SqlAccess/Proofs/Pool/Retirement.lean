import SqlAccess.Proofs.Pool.Company
import SqlAccess.Proofs.Pool.Engagement
import SqlAccess.Proofs.Pool.Readiness

/-
  This file says when a connection is out of use for ever.
  A connection that has just been handed out is the only one
  of its number, whatever is done with it.  When it is let
  go of, there is no transaction open in its session, or
  nobody will have it again.

  Key definitions include:
    * `Crowd.Retires`

  Key theorems include:
    * `Crowd.Discarded.retires`
    * `Crowd.handed_discarded`
    * `Crowd.release_retires`
-/

namespace SqlAccess

variable {σ : Type}

namespace Crowd

variable {crowd : Crowd σ} {id limit : Nat}

------------------------------------------------------------
-- Connections That Nobody Will Have
------------------------------------------------------------

/- Whatever happens next, no client has a connection. -/
def Retires (id : Nat) (crowd : Crowd σ) : Prop :=
  ∀ turns, ∀ holder ∈ (crowd.pass turns).holders,
    holder.conn.id ≠ id

/- A connection stays discarded. -/
theorem Discarded.pass
    (hDiscarded : Discarded id crowd)
    (turns : List Turn) :
    Discarded id (crowd.pass turns) := by
  refine @pass_keeps _ (Discarded id) ?_ ?_ turns _
    hDiscarded
  · intro _ _ hKept hStep
    exact hKept.step hStep
  · intro _ _ hKept
    exact ⟨hKept.known, hKept.idle, hKept.held⟩

/- A connection that is discarded retires for good. -/
theorem Discarded.retires
    (hDiscarded : Discarded id crowd) : Retires id crowd :=
  fun turns => (hDiscarded.pass turns).held

/- The pools stay as they are when a connection is used. -/
theorem Discarded.used
    (hDiscarded : Discarded id crowd)
    {other : Nat}
    {db : Database σ}
    (hApart : Database.Apart other crowd.db db) :
    Discarded id { crowd with db := db } := by
  refine ⟨?_, ?_, hDiscarded.held⟩
  · exact Nat.le_trans hDiscarded.known
      (Nat.le_of_eq hApart.opened.symm)
  · intro conn hIdle
    rw [Database.idle_congr hApart.pools] at hIdle
    exact hDiscarded.idle conn hIdle

------------------------------------------------------------
-- Handing Out
------------------------------------------------------------

/-
  Nobody but the one who gets it has a connection that is
  handed out, and it is not idle.
-/
theorem handed_discarded
    (hLawful : crowd.Lawful limit)
    {db : Database σ}
    {conn : Connection}
    (hSupplied : crowd.db.Supplied db [] [conn]) :
    Discarded conn.id { crowd with db := db } := by
  have hKnown :
      ∀ other ∈ crowd.ids,
        other ≤ crowd.db.opened := by
    intro other hOther
    rw [← ids_eq] at hOther
    exact hLawful.balanced.id_le hOther
  have hDistinct := hLawful.balanced.inOrder.distinct
  rw [ids, List.nodup_append] at hDistinct
  rcases hSupplied.origin with
    ⟨fresh, hFresh, hOpened, hOrigin⟩
  rw [List.nil_append] at hOrigin
  have hNew :
      ∀ other ∈ fresh,
        crowd.db.opened < other.id ∧
          other.id ≤ db.opened :=
    fun other hOther =>
      ⟨(hOpened other hOther).1,
        (hOpened other hOther).2.1⟩
  have hIdle :
      ∀ other ∈ crowd.db.idle, other.id ∈ crowd.ids :=
    fun other hOther =>
      List.mem_append_left _ (List.mem_map_of_mem hOther)
  have hNodup :
      ((fresh ++ crowd.db.idle).map
        Connection.id).Nodup := by
    rw [List.map_append, List.nodup_append]
    refine ⟨hFresh, hDistinct.1, ?_⟩
    simp only [List.mem_map]
    rintro _ ⟨new, hMem, rfl⟩ _ ⟨old, hOld, rfl⟩
    have hLow := (hNew new hMem).1
    have hHigh := hKnown _ (hIdle old hOld)
    omega
  have hSource :
      conn ∈ fresh ∨ conn ∈ crowd.db.idle :=
    List.mem_append.1 (hOrigin.subset List.mem_cons_self)
  refine ⟨?_, ?_, ?_⟩
  · rcases hSource with hMem | hMem
    · exact (hNew conn hMem).2
    · exact Nat.le_trans (hKnown _ (hIdle conn hMem))
        hSupplied.opened
  · intro other hOther hSame
    rcases hOrigin with ⟨listed, hPerm, hSublist⟩
    have hOnce :=
      (hPerm.map Connection.id).nodup_iff.1
        ((hSublist.map Connection.id).nodup hNodup)
    rw [List.singleton_append, List.map_cons,
      List.nodup_cons] at hOnce
    exact absurd (hSame ▸ List.mem_map_of_mem hOther)
      hOnce.1
  · intro holder hHolder hSame
    have hHeld : holder.conn.id ∈ crowd.ids :=
      List.mem_append_right _ (List.mem_map_of_mem hHolder)
    rcases hSource with hMem | hMem
    · have hLow := (hNew conn hMem).1
      have hHigh := hKnown _ hHeld
      omega
    · exact hDistinct.2.2 conn.id
        (List.mem_map_of_mem hMem)
        holder.conn.id (List.mem_map_of_mem hHolder)
          hSame.symm

------------------------------------------------------------
-- Letting Go
------------------------------------------------------------

/-
  A connection that was used is let go of.  If it is relied
  on and outside of a transaction, its session is, too; if
  not, it is never handed out again.
-/
theorem release_retires
    {conn : Connection}
    (hDiscarded : Discarded conn.id crowd)
    (hFits :
      Engagement.free.Fits conn
        (crowd.db.mayBeOpen conn.id)) :
    let after := ((Act.release conn).run crowd.db).2
    after.mayBeOpen conn.id = false ∨
      Retires conn.id { crowd with db := after } := by
  by_cases hOutside :
      conn.Relied ∧ conn.inTransaction = false
  · left
    rw [(Act.release_heard conn.id conn crowd.db).mayBeOpen]
    exact hFits.2 hOutside.1 hOutside.2
  · right
    apply Discarded.retires
    refine hDiscarded.exchanged
      (Act.release_supplies conn crowd.db) ?_
        hDiscarded.held
    intro given hGiven _
    unfold Act.returned at hGiven
    split at hGiven
    · cases hGiven
    · next hAnswered =>
        rw [List.mem_singleton.1 hGiven, Bool.eq_false_iff]
        intro hUsable
        rw [Connection.isUsable, Bool.and_eq_true,
          Bool.not_eq_true'] at hUsable
        exact hOutside
          ⟨⟨hUsable.1, Bool.eq_false_iff.2 hAnswered⟩,
            hUsable.2⟩

end Crowd

end SqlAccess
