import SqlAccess.Proofs.Transaction.Progress
import SqlAccess.Proofs.Transaction.Retention

/-
  This file says what a database system makes of a timeline:
  the work that is durable in the end is what was done in
  scopes that were not undone later.

  Key definitions include:
    * `Session.Fits`
    * `Session.Replays`
    * `Session.rootCommitted`

  Key theorems include:
    * `Session.Step.replays`
    * `Session.Run.replays`
    * `Session.Closing.durable`
    * `Session.Course.durable`
-/

namespace SqlAccess

------------------------------------------------------------
-- Losing Work
------------------------------------------------------------

namespace Log

/-
  If a savepoint is lost among others, what survives is what
  survives below it.
-/
theorem surviving_undo
    {name : String}
    {lost : String → Bool}
    (above : Log)
    {below : Log}
    (hBelow : name ∉ savepoints below) :
    surviving (fun other => name = other || lost other)
        (above ++ .savepoint name :: below) =
      surviving lost below := by
  have hName :
      (savepoints (.savepoint name :: below)).any
          (fun other => name = other || lost other) =
            true := by
    simp
  rw [surviving_append_of_lost above hName, surviving]
  apply surviving_congr
  intro other hOther
  have hNe : name ≠ other := by
    rintro rfl
    exact hBelow hOther
  simp [hNe]

/-
  A savepoint can be forgotten with those above it if none
  of them is lost.
-/
theorem surviving_release
    {name : String}
    {lost : String → Bool}
    {above : Log}
    (below : Log)
    (hAbove :
      ∀ other ∈ savepoints above, lost other = false)
    (hName : lost name = false) :
    surviving lost (ofWorks (works above) ++ below) =
      surviving lost
        (above ++ .savepoint name :: below) := by
  have hWorks :
      surviving lost (ofWorks (works above)) =
        works above := by
    rw [surviving_eq_works (by simp), works_ofWorks]
  cases hBelow : (savepoints below).any lost with
  | true =>
      rw [surviving_append_of_lost _ hBelow,
        surviving_append_of_lost]
      · rfl
      · simp [hBelow]
  | false =>
      rw [surviving_append_of_kept _ hBelow,
        surviving_append_of_kept, hWorks,
        surviving_eq_works hAbove]
      · rfl
      · simp [hName, hBelow]

end Log

------------------------------------------------------------
-- Answers of the Server
------------------------------------------------------------

namespace Server

section Savepoints

variable {name : String} (hName : ';' ∉ name.toList)
variable (number : Nat) (durable : List Work)
include hName

/- A savepoint is put on top of the log. -/
theorem hear_savepoint (log : Log) :
    hear ⟨durable, some log⟩
        (.called number (.batch (Scope.savepointSql name))
          .done) =
      ⟨durable, some (.savepoint name :: log)⟩ := by
  simp [hear, answer, Call.commands?_batch,
    Command.ofText?_savepointSql hName, obey]

variable {above : Log} (below : Log)
variable (hAbove : name ∉ Log.savepoints above)
include hAbove

/-
  A savepoint that is released leaves its work to what is
  below.
-/
theorem hear_release :
    hear ⟨durable,
      some (above ++ .savepoint name :: below)⟩
        (.called number (.batch (Scope.releaseSql name))
          .done) =
      ⟨durable,
        some
          (Log.ofWorks (Log.works above) ++ below)⟩ := by
  simp [hear, answer, Call.commands?_batch,
    Command.ofText?_releaseSql hName, obey, atSavepoint,
    Log.release_split below hAbove]

/- A scope that is undone takes its work with it. -/
theorem hear_undo :
    hear ⟨durable,
      some (above ++ .savepoint name :: below)⟩
        (.called number (.batch (Scope.undoSql name))
          .done) =
      ⟨durable, some below⟩ := by
  have hCommands :
      (Call.batch (Scope.undoSql name)).commands? =
        some [.rollbackTo name, .release name] :=
    Command.ofText?_undoSql hName
  have hRollback :=
    Log.rollbackTo_split below hAbove
  simp [hear, answer, hCommands, obey, atSavepoint,
    hRollback]

end Savepoints

/- A statement leaves its work on top of the log. -/
theorem hear_ordinary
    {call : Call}
    (hCall : call.isOrdinary = true)
    (number : Nat)
    (durable : List Work)
    (log : Log) :
    hear ⟨durable, some log⟩
        (.called number call .done) =
      ⟨durable,
        some (.work ⟨number, call⟩ :: log)⟩ := by
  simp only [Call.isOrdinary, Call.isControl,
    Bool.and_eq_true, Bool.not_eq_true',
    Option.isSome_eq_false_iff, Option.isNone_iff_eq_none]
    at hCall
  simp [hear, answer, hCall, carryOut]

/- A call that fails changes nothing. -/
theorem hear_failed
    {fate : Fate}
    (hFate : fate ≠ .done)
    (server : Server)
    (number : Nat)
    (call : Call) :
    hear server (.called number call fate) = server := by
  cases fate with
  | done => exact absurd rfl hFate
  | _ => rfl

/- To stop what runs changes nothing. -/
theorem hear_cancel
    (server : Server)
    (number : Nat)
    (fate : Fate) :
    hear server (.called number .cancel fate) = server := by
  cases fate <;> rfl

/- A replay goes on from part to part. -/
@[simp] theorem replay_append
    (server : Server)
    (items later : List Session.Item) :
    server.replay (items ++ later) =
      (server.replay items).replay later :=
  List.foldl_append

end Server

namespace Session

------------------------------------------------------------
-- Standings and Logs
------------------------------------------------------------

/-
  The log of the server has the savepoints of a standing, in
  the same order, and maybe some more that were forgotten.
-/
structure Fits
    (standing : Standing)
    (log : Log) :
    Prop where
  order :
    (standing.pending ++ standing.scopes).Sublist
      (Log.savepoints log)
  named :
    ∀ name ∈ Log.savepoints log,
      Named standing.used name
  distinct : (Log.savepoints log).Nodup

/- A transaction begins with an empty log. -/
theorem Fits.fresh : Fits .fresh [] :=
  ⟨.slnil, by simp, .nil⟩

section Fits

variable {standing : Standing} {log : Log}

/- A standing that fits a log is sound. -/
theorem Fits.sound
    (hFits : Fits standing log) : standing.Sound :=
  ⟨fun name hName =>
      hFits.named name (hFits.order.subset hName),
    hFits.order.nodup hFits.distinct⟩

/-
  What follows a name in a list follows it in a part of it.
-/
private theorem sublist_of_split
    {name : String}
    {names above below : List String}
    (hDistinct : (above ++ name :: below).Nodup)
    (hOrder :
      (name :: names).Sublist (above ++ name :: below)) :
    names.Sublist below := by
  induction above with
  | nil => exact List.cons_sublist_cons.mp hOrder
  | cons other above ih =>
      rw [List.cons_append] at hDistinct hOrder
      rcases List.nodup_cons.mp hDistinct with
        ⟨hOther, hRest⟩
      cases hOrder with
      | cons _ hLater => exact ih hRest hLater
      | cons_cons _ hLater => simp at hOther

/-
  The latest savepoint of a standing splits the log.  Those
  above it are not in the rest of the standing.
-/
theorem Fits.split
    {name : String}
    {names : List String}
    (hFits : Fits standing log)
    (hNames :
      standing.pending ++ standing.scopes = name :: names) :
    ∃ above below : Log,
      log = above ++ .savepoint name :: below ∧
        name ∉ Log.savepoints above ∧
        name ∉ Log.savepoints below ∧
        names.Sublist (Log.savepoints below) ∧
        ∀ other ∈ Log.savepoints above,
          other ∉ names := by
  have hOrder := hFits.order
  have hDistinct := hFits.distinct
  rw [hNames] at hOrder
  rcases Log.exists_split (hOrder.subset (.head _)) with
    ⟨above, below, rfl, hAbove⟩
  simp only [Log.savepoints_append, Log.savepoints]
    at hOrder hDistinct
  have hRest := sublist_of_split hDistinct hOrder
  rcases List.nodup_append.mp hDistinct with
    ⟨-, hBelow, hApart⟩
  refine ⟨above, below, rfl, hAbove,
    (List.nodup_cons.mp hBelow).1, hRest, ?_⟩
  intro other hOther hMem
  exact hApart other hOther other
    (.tail _ (hRest.subset hMem)) rfl

/-
  A standing fits a part of the log that still has its
  names.
-/
theorem Fits.of_sublist
    {last : Standing}
    {rest : Log}
    (hFits : Fits standing log)
    (hUsed : standing.used ≤ last.used)
    (hOrder :
      (last.pending ++ last.scopes).Sublist
        (Log.savepoints rest))
    (hRest :
      (Log.savepoints rest).Sublist (Log.savepoints log)) :
    Fits last rest := by
  refine ⟨hOrder, ?_, hRest.nodup hFits.distinct⟩
  intro name hName
  exact (hFits.named name (hRest.subset hName)).mono hUsed

end Fits

------------------------------------------------------------
-- Replays
------------------------------------------------------------

/-
  A statement about the transaction is no work of its own.
-/
theorem work?_of_isControl
    {call : Call}
    (hCall : call.isControl = true)
    (number : Nat)
    (fate : Fate) :
    (Item.called number call fate).work? = none := by
  cases fate <;> simp [Item.work?, Call.isOrdinary, hCall]

/- Nothing is retained of a timeline without work. -/
theorem retained_eq_nil
    {items : List Item}
    (hItems : ∀ item ∈ items, item.work? = none)
    (kept : String → List Item → Bool)
    (scopes : List String) :
    retained kept scopes items = [] := by
  induction items generalizing scopes with
  | nil => rfl
  | cons item items ih =>
      have hLater :=
        ih (fun later hMem => hItems later (.tail _ hMem))
          (item.enclose scopes)
      simp [retained, hItems item (.head _), hLater]

/-
  Nothing is retained of a statement about the transaction.
-/
theorem retained_control
    {call : Call}
    {ends : List Item}
    (hCall : call.isControl = true)
    (hEnds : ∀ item ∈ ends, item.work? = none)
    (number : Nat)
    (fate : Fate)
    (kept : String → List Item → Bool)
    (scopes : List String) :
    retained kept scopes
        (.called number call fate :: ends) =
      [] := by
  apply retained_eq_nil
  intro item hItem
  rcases List.mem_cons.mp hItem with rfl | hEnd
  · exact work?_of_isControl hCall number fate
  · exact hEnds item hEnd

theorem work?_of_cancel (number : Nat) (fate : Fate) :
    (Item.called number .cancel fate).work? = none := by
  cases fate <;> rfl

/-
  What a server with a log makes of a part of a timeline:
  its new log fits, and what survives in it later is what
  does in the old log and what is retained of the timeline.
-/
def Replays
    (first last : Standing)
    (log : Log)
    (items : List Item) : Prop :=
  ∃ final : Log,
    (∀ durable,
      Server.replay ⟨durable, some log⟩ items =
        ⟨durable, some final⟩) ∧
    Fits last final ∧
    ∀ lost : String → Bool,
      (∀ name, Gone last name → lost name = false) →
        Log.surviving lost final =
          Log.surviving
              (fun name =>
                (marks name items).undone ||
                  lost name) log ++
            retained
              (fun name rest =>
                !((marks name rest).undone || lost name))
              first.scopes items

section Replays

variable {allowed : Call → Prop} {first last : Standing}
variable {items : List Item} {log : Log}

/- The server may take no notice of a step. -/
theorem replays_of_unheard
    (hFits : Fits last log)
    (hHear :
      ∀ server, Server.replay server items = server)
    (hMarks : ∀ name, (marks name items).undone = false)
    (hWork : ∀ item ∈ items, item.work? = none) :
    Replays first last log items := by
  refine ⟨log, fun _ => hHear _, hFits, ?_⟩
  intro lost hGone
  simp [hMarks, retained_eq_nil hWork]

/- The latest savepoint of a standing is undone. -/
theorem replays_undo
    {name : String}
    {names : List String}
    {number : Nat}
    {ends : List Item}
    (hFits : Fits first log)
    (hNames :
      first.pending ++ first.scopes = name :: names)
    (hLast : last.pending ++ last.scopes = names)
    (hUsed : first.used = last.used)
    (hMarks :
      ∀ other,
        (marks other
          (.called number (.batch (Scope.undoSql name))
            .done ::
            ends)).undone = (name = other : Bool))
    (hHear : ∀ server, Server.replay server ends = server)
    (hWork : ∀ item ∈ ends, item.work? = none) :
    Replays first last log
      (.called number (.batch (Scope.undoSql name)) .done ::
        ends) := by
  have hMem : name ∈ first.pending ++ first.scopes := by
    simp [hNames]
  rcases hFits.split hNames with
    ⟨above, below, rfl, hAbove, hBelow, hOrder, -⟩
  refine ⟨below, ?_, ?_, ?_⟩
  · intro durable
    have hText := hFits.sound.semicolon_notMem hMem
    rw [Server.replay, List.foldl_cons,
      Server.hear_undo hText number durable below hAbove]
    exact hHear _
  · apply hFits.of_sublist (Nat.le_of_eq hUsed)
    · rw [hLast]
      exact hOrder
    · rw [Log.savepoints_append]
      exact (List.sublist_cons_self _ _).trans
        (List.sublist_append_right _ _)
  · intro lost hGone
    have hControl := hFits.sound.undo_isControl hMem
    simp only [retained_control hControl hWork, hMarks,
      List.append_nil]
    exact (Log.surviving_undo above hBelow).symm

/-
  A statement of the client is carried out.  Savepoints that
  are no scopes any more are not undone, so its work is
  retained exactly while none of the scopes is lost.
-/
theorem replays_ordinary
    {call : Call}
    {number : Nat}
    (hFits : Fits first log)
    (hPending : first.pending = [])
    (hCall : call.isOrdinary = true) :
    Replays first first log
      [.called number call .done] := by
  have hOrdinary := marks_ordinary hCall
  refine ⟨.work ⟨number, call⟩ :: log, ?_, ?_, ?_⟩
  · intro durable
    exact Server.hear_ordinary hCall number durable log
  · exact ⟨hFits.order, hFits.named, hFits.distinct⟩
  · intro lost hGone
    have hAny :
        (Log.savepoints log).any lost =
          !first.scopes.all fun name => !lost name := by
      rw [Bool.eq_iff_iff]
      simp only [List.any_eq_true, Bool.not_eq_true',
        List.all_eq_false, Bool.not_eq_false]
      constructor
      · rintro ⟨name, hMem, hLost⟩
        by_cases hScope : name ∈ first.scopes
        · exact ⟨name, hScope, hLost⟩
        · have hKept : lost name = false := by
            apply hGone
            refine ⟨hFits.named name hMem, ?_⟩
            simpa [hPending] using hScope
          simp [hKept] at hLost
      · rintro ⟨name, hScope, hLost⟩
        refine ⟨name, hFits.order.subset ?_, hLost⟩
        exact List.mem_append_right _ hScope
    simp only [hOrdinary, Marks.none, Log.surviving, hAny,
      retained, Item.work?, hCall, if_true, marks_nil,
      Option.toList, Bool.false_or]
    cases first.scopes.all fun name => !lost name <;> simp

/- A savepoint is set. -/
theorem replays_began
    {scopes : List String}
    {used number savepoint : Nat}
    {failed : Bool}
    (hFits : Fits ⟨scopes, [], used, failed⟩ log)
    (hFresh : used < savepoint) :
    Replays ⟨scopes, [], used, failed⟩
      ⟨savepointName savepoint :: scopes, [], savepoint,
        failed⟩
      log
      [.called number
          (.batch
            (Scope.savepointSql (savepointName savepoint)))
          .done,
        .begun (savepointName savepoint)] := by
  have hText := semicolon_notMem_savepointName savepoint
  refine ⟨.savepoint (savepointName savepoint) :: log, ?_,
    ⟨hFits.order.cons_cons _, ?_, ?_⟩, ?_⟩
  · intro durable
    exact Server.hear_savepoint hText number durable log
  · intro name hName
    rcases List.mem_cons.mp hName with rfl | hOld
    · exact ⟨_, Nat.le_refl _, rfl⟩
    · exact (hFits.named name hOld).mono
        (Nat.le_of_lt hFresh)
  · refine List.nodup_cons.mpr ⟨?_, hFits.distinct⟩
    intro hMem
    exact (hFits.named _ hMem).ne_fresh hFresh rfl
  · intro lost hGone
    have hControl :=
      (@Risky.savepoint used scopes savepoint
        hFresh).isControl
        fun name hName => hFits.sound.semicolon_notMem hName
    have hEnds :
        ∀ item ∈ [Item.begun (savepointName savepoint)],
          item.work? = none := by
      simp [Item.work?]
    simp only [retained_control hControl hEnds,
      marks_savepoint hText, Marks.none, Bool.false_or,
      List.append_nil]
    rfl

/-
  The latest savepoint of a standing is released.  Neither
  it nor those above it are scopes then, so that none of the
  savepoints that go is undone any more.
-/
theorem replays_released
    {name : String}
    {scopes : List String}
    {used number : Nat}
    {failed : Bool}
    (hFits :
      Fits ⟨name :: scopes, [], used, failed⟩ log) :
    Replays ⟨name :: scopes, [], used, failed⟩
      ⟨scopes, [], used, failed⟩ log
      [.called number (.batch (Scope.releaseSql name))
        .done, .ended name .commit true] := by
  have hSound := hFits.sound
  have hText := hSound.semicolon_notMem (.head _)
  have hScopes :
      ∀ other ∈ name :: scopes, ';' ∉ other.toList :=
    fun _ hOther => hSound.semicolon_notMem hOther
  have hControl :=
    (@Risky.release used name scopes).isControl hScopes
  rcases hFits.split rfl with
    ⟨above, below, rfl, hAbove, hBelow, hOrder, hApart⟩
  have hNamed :
      ∀ other ∈ Log.savepoints above ++
          name :: Log.savepoints below,
        Named used other := by
    intro other hOther
    apply hFits.named other
    rwa [Log.savepoints_append]
  refine ⟨Log.ofWorks (Log.works above) ++ below, ?_,
    ?_, ?_⟩
  · intro durable
    exact Server.hear_release hText number durable below
      hAbove
  · refine hFits.of_sublist (Nat.le_refl _) ?_ ?_
    · simpa using hOrder
    · simp only [Log.savepoints_append,
        Log.savepoints_ofWorks, List.nil_append]
      exact (List.sublist_cons_self _ _).trans
        (List.sublist_append_right _ _)
  · intro lost hGone
    have hName : lost name = false := by
      apply hGone
      refine ⟨hNamed name (by simp), ?_⟩
      exact (List.nodup_cons.mp hSound.distinct).1
    have hOthers :
        ∀ other ∈ Log.savepoints above,
          lost other = false := by
      intro other hOther
      apply hGone
      exact ⟨hNamed other (List.mem_append_left _ hOther),
        hApart other hOther⟩
    have hEnds :
        ∀ item ∈ [Item.ended name .commit true],
          item.work? = none := by
      simp [Item.work?]
    simp only [retained_control hControl hEnds,
      marks_release hText, Bool.false_or, List.append_nil]
    exact Log.surviving_release below hOthers hName

/- A step is replayed as its standing says. -/
theorem Step.replays
    (hOrdinary :
      ∀ call, allowed call → call.isOrdinary = true)
    (hStep : Step allowed first items last)
    (hFits : Fits first log) :
    Replays first last log items := by
  have hSound := hFits.sound
  have hFailed :
      ∀ {number call fate}, fate ≠ Fate.done →
        ∀ {last}, Fits last log →
          Replays first last log
            [.called number call fate] := by
    intro number call fate hFate last hLast
    apply replays_of_unheard hLast
    · intro server
      exact Server.hear_failed hFate server number call
    · intro name
      rw [marks_failed hFate]
      rfl
    · intro item hItem
      rcases List.mem_singleton.mp hItem with rfl
      cases fate with
      | done => exact absurd rfl hFate
      | _ => rfl
  cases hStep with
  | @flushed _ name =>
      refine replays_undo hFits rfl rfl rfl ?_ ?_ ?_
      · intro other
        rw [marks_undo (hSound.semicolon_notMem (.head _))]
      · exact fun server => rfl
      · simp
  | lost hFate =>
      apply hFailed hFate
      refine hFits.of_sublist (Nat.le_refl _) ?_ (.refl _)
      exact (List.sublist_append_right _ _).trans
        hFits.order
  | @ran _ _ _ _ _ fate hAllowed =>
      by_cases hFate : fate = .done
      · subst hFate
        exact replays_ordinary hFits
          rfl (hOrdinary _ hAllowed)
      · exact hFailed hFate hFits
  | cancelled =>
      apply replays_of_unheard hFits
      · intro server
        exact Server.hear_cancel _ _ _
      · intro name
        rw [marks_cancel]
        rfl
      · intro item hItem
        rcases List.mem_singleton.mp hItem with rfl
        exact work?_of_cancel _ _
  | refused hRisky hFate =>
      exact hFailed hFate
        ⟨hFits.order, hFits.named, hFits.distinct⟩
  | began hFresh => exact replays_began hFits hFresh
  | released => exact replays_released hFits
  | @undone name =>
      have hText := hSound.semicolon_notMem (.head _)
      refine replays_undo hFits rfl rfl rfl ?_ ?_ ?_
      · intro other
        rw [marks_rollback hText]
      · exact fun server => rfl
      · simp [Item.work?]
  | broken hEnding =>
      apply replays_of_unheard
      · refine hFits.of_sublist (Nat.le_refl _) ?_
          (.refl _)
        exact (List.sublist_cons_self _ _).trans hFits.order
      · exact fun server => rfl
      · intro name
        rw [marks_broken]
      · simp [Item.work?]
  | dropped =>
      apply replays_of_unheard
      · refine hFits.of_sublist (Nat.le_refl _) ?_
          (.refl _)
        simpa using hFits.order
      · exact fun server => rfl
      · intro name
        rw [marks_dropped]
      · simp [Item.work?]

/- What is made of one part of a timeline after another. -/
theorem Replays.trans
    {middle : Standing}
    {later : List Item}
    (hItems : Replays first middle log items)
    (hLater :
      ∀ log, Fits middle log →
        Replays middle last log later)
    (hGone :
      ∀ name, Gone middle name →
        marks name later = .none ∧ Gone last name)
    (hScopes :
      enclosing first.scopes items = middle.scopes) :
    Replays first last log (items ++ later) := by
  rcases hItems with ⟨half, hHalf, hFits, hSurviving⟩
  rcases hLater half hFits with
    ⟨final, hFinal, hFitsLast, hSurvivingLast⟩
  refine ⟨final, ?_, hFitsLast, ?_⟩
  · intro durable
    rw [Server.replay_append, hHalf, hFinal]
  · intro lost hLost
    have hKept :
        ∀ name, Gone middle name →
          ((marks name later).undone || lost name) =
            false := by
      intro name hName
      rcases hGone name hName with ⟨hMarks, hLast⟩
      rw [hMarks, hLost name hLast]
      rfl
    rw [hSurvivingLast lost hLost, hSurviving _ hKept,
      retained_append, hScopes, List.append_assoc]
    simp only [marks_append, Marks.or, Bool.or_assoc]

/- A run is replayed as its standing says. -/
theorem Run.replays
    (hOrdinary :
      ∀ call, allowed call → call.isOrdinary = true)
    (hRun : Run allowed first items last)
    (hFits : Fits first log) :
    Replays first last log items := by
  induction hRun generalizing log with
  | nil =>
      apply replays_of_unheard hFits
      · exact fun server => rfl
      · exact fun name => rfl
      · simp
  | cons hStep hRun ih =>
      have hSound := hStep.sound hFits.sound
      apply (hStep.replays hOrdinary hFits).trans
      · exact fun log hFits => ih hFits
      · exact fun name hName =>
          hRun.gone hOrdinary hSound hName
      · exact hStep.enclosing

end Replays

------------------------------------------------------------
-- Durable Work
------------------------------------------------------------

/-
  Whether an item is the commit of the whole transaction.
-/
def Item.commitsRoot : Item → Bool
  | .closed .commit true => true
  | _ => false

/- Whether the whole transaction was committed. -/
def rootCommitted (items : List Item) : Bool :=
  items.any Item.commitsRoot

section Durable

variable {allowed : Call → Prop} {first last : Standing}
variable {items : List Item}

/- A transaction that is still running is not committed. -/
theorem Run.not_rootCommitted
    (hRun : Run allowed first items last) :
    rootCommitted items = false := by
  induction hRun with
  | nil => rfl
  | cons hStep hRun ih =>
      rw [rootCommitted, List.any_append]
      rw [rootCommitted] at ih
      rw [ih, Bool.or_false]
      cases hStep <;> rfl

/- The end of a transaction is no work of its own. -/
theorem Closing.work?
    (hClosing : Closing first items) :
    ∀ item ∈ items, item.work? = none := by
  have hCommit :
      (Call.batch "COMMIT").isControl = true := by
    simp [Call.isControl]
  have hRollback :
      (Call.batch "ROLLBACK").isControl = true := by
    simp [Call.isControl]
  have hClosed :
      ∀ ending ok, (Item.closed ending ok).work? = none :=
    fun _ _ => rfl
  cases hClosing with
  | committed =>
      simp [work?_of_isControl hCommit, hClosed]
  | rolledBack hEnding =>
      simp [work?_of_isControl hRollback, hClosed]
  | refused hEnding hFate hCancels =>
      intro item hItem
      rcases List.mem_cons.mp hItem with rfl | hRest
      · exact work?_of_isControl hRollback _ _
      · rcases List.mem_append.mp hRest with
          hCancel | hLast
        · rcases hCancels item hCancel with ⟨_, _, rfl⟩
          exact work?_of_cancel _ _
        · rw [List.mem_singleton.mp hLast]
          exact hClosed _ _
  | broken => simp [hClosed]
  | left => simp [hClosed]

/- Only one way of ending is the commit. -/
theorem Closing.of_rootCommitted
    (hClosing : Closing first items)
    (hCommitted : rootCommitted items = true) :
    first.scopes = [] ∧ first.pending = [] ∧
      ∃ number,
        items =
          [.called number (.batch "COMMIT") .done,
            .closed .commit true] := by
  cases hClosing with
  | committed => exact ⟨rfl, rfl, _, rfl⟩
  | @rolledBack _ _ _ _ ending hEnding =>
      cases ending with
      | commit => exact absurd rfl hEnding
      | _ =>
          simp [rootCommitted, Item.commitsRoot]
            at hCommitted
  | @refused _ _ _ _ _ ending _ _ hEnding hFate hCancels =>
      rcases List.any_eq_true.mp hCommitted with
        ⟨item, hItem, hCommit⟩
      rcases List.mem_cons.mp hItem with rfl | hRest
      · cases hCommit
      · rcases List.mem_append.mp hRest with
          hCancel | hLast
        · rcases hCancels item hCancel with ⟨_, _, rfl⟩
          cases hCommit
        · rw [List.mem_singleton.mp hLast] at hCommit
          cases ending with
          | commit => exact absurd rfl hEnding
          | _ => cases hCommit
  | broken => cases hCommitted
  | left => cases hCommitted

/- Cancels change nothing. -/
theorem replay_cancels
    {cancels : List Item}
    (hCancels :
      ∀ item ∈ cancels, ∃ number fate,
        item = .called number .cancel fate)
    (server : Server) :
    server.replay cancels = server := by
  induction cancels with
  | nil => rfl
  | cons item cancels ih =>
      rcases hCancels item (.head _) with
        ⟨number, fate, rfl⟩
      rw [Server.replay, List.foldl_cons,
        Server.hear_cancel]
      exact ih fun item hItem =>
        hCancels item (.tail _ hItem)

/- An end that is no commit makes nothing durable. -/
theorem Closing.uncommitted
    (hClosing : Closing first items)
    (hCommitted : rootCommitted items = false)
    (server : Server) :
    (server.replay items).durable = server.durable := by
  cases hClosing with
  | committed => cases hCommitted
  | rolledBack hEnding =>
      simp [Server.replay, Server.hear, Server.answer,
        Server.obey]
  | refused hEnding hFate hCancels =>
      have hServer := replay_cancels hCancels server
      rw [Server.replay] at hServer
      rw [Server.replay, List.foldl_cons,
        Server.hear_failed hFate, List.foldl_append,
        hServer]
      rfl
  | broken => rfl
  | left => rfl

/-
  The end of a transaction makes its work durable or not.
-/
theorem Closing.durable
    (hClosing : Closing first items)
    (log : Log) :
    (Server.replay ⟨[], some log⟩ items).durable =
      if rootCommitted items then
        Log.works log
      else
        [] := by
  cases hCommitted : rootCommitted items with
  | true =>
      rcases hClosing.of_rootCommitted hCommitted with
        ⟨-, -, number, rfl⟩
      simp [Server.replay, Server.hear, Server.answer,
        Server.obey, Server.visible]
  | false => exact hClosing.uncommitted hCommitted _

/-
  What is durable after a course is the work of scopes that
  were not undone, if the whole is committed.
-/
theorem Course.durable
    (hOrdinary :
      ∀ call, allowed call → call.isOrdinary = true)
    (hCourse : Course allowed .fresh items) :
    (Server.begun.replay items).durable =
      if rootCommitted items then
        retained
          (fun name rest => !(marks name rest).undone)
          [] items
      else [] := by
  cases hCourse with
  | running hRun =>
      rcases hRun.replays hOrdinary Fits.fresh with
        ⟨final, hReplay, -⟩
      rw [Server.begun, hReplay, hRun.not_rootCommitted]
      rfl
  | @ended body last closing hRun hClosing =>
      rcases hRun.replays hOrdinary Fits.fresh with
        ⟨final, hReplay, -, hSurviving⟩
      have hWorks :
          Log.works final =
            retained
              (fun name rest => !(marks name rest).undone)
              [] body := by
        have hNone := hSurviving (fun _ => false) (by simp)
        rw [Log.surviving_eq_works (by simp)] at hNone
        simpa [Standing.fresh] using hNone
      have hCommitted :
          rootCommitted (body ++ closing) =
            rootCommitted closing := by
        have hBody := hRun.not_rootCommitted
        rw [rootCommitted] at hBody ⊢
        rw [List.any_append, hBody, Bool.false_or]
        rfl
      rw [Server.replay_append, Server.begun, hReplay,
        hClosing.durable, hCommitted, retained_append,
        retained_eq_nil hClosing.work?, List.append_nil,
        hWorks]
      simp only [marks_append, hClosing.marks,
        Marks.or_none]

end Durable

end Session

end SqlAccess
