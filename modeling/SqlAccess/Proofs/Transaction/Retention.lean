import SqlAccess.Proofs.Transaction.Verdict

/-
  This file defines the work of a timeline that is retained:
  that of the statements all of whose enclosing scopes are
  kept.

  Key definitions include:
    * `Session.enclosing`
    * `Session.retained`

  Key theorems include:
    * `Session.retained_append`
    * `Session.retained_congr`
    * `Session.Run.enclosing`
-/

namespace SqlAccess

namespace Session

------------------------------------------------------------
-- Retained Work
------------------------------------------------------------

/- The nested scopes that are open after an item. -/
def Item.enclose
    (scopes : List String) :
    Item → List String
  | .begun name => name :: scopes
  | .ended name _ _ => scopes.erase name
  | _ => scopes

/- The nested scopes that are open after a timeline. -/
def enclosing
    (scopes : List String)
    (items : List Item) : List String :=
  items.foldl Item.enclose scopes

/- The work of an ordinary statement that succeeds. -/
def Item.work? : Item → Option Work
  | .called number call .done =>
      if call.isOrdinary then
        some ⟨number, call⟩
      else
        none
  | _ => none

/-
  The work of a timeline, in order, as far as all scopes
  that enclose it are kept.  Whether a scope is kept is
  decided by its name and the rest of the timeline.
-/
def retained
    (kept : String → List Item → Bool) :
    List String → List Item → List Work
  | _, [] => []
  | scopes, item :: rest =>
      let later := retained kept (item.enclose scopes) rest
      if scopes.all (kept · rest) then
        item.work?.toList ++ later
      else
        later

/-
  The scopes around a place are those that are open after
  all before it.
-/
@[simp] theorem enclosing_append
    (scopes : List String)
    (items later : List Item) :
    enclosing scopes (items ++ later) =
      enclosing (enclosing scopes items) later :=
  List.foldl_append

/-
  The work of two parts is retained by what comes after
  each.
-/
theorem retained_append
    (kept : String → List Item → Bool)
    (scopes : List String)
    (items later : List Item) :
    retained kept scopes (items ++ later) =
      retained (fun name rest => kept name (rest ++ later))
          scopes items ++
        retained kept (enclosing scopes items) later := by
  induction items generalizing scopes with
  | nil => rfl
  | cons item items ih =>
      simp only [List.cons_append, retained, ih, enclosing,
        List.foldl_cons]
      split
      · rw [List.append_assoc]
      · rfl

/- Only the scopes around ordinary statements count. -/
theorem retained_congr
    {kept other : String → List Item → Bool}
    {scopes : List String}
    {items : List Item}
    (hSame :
      ∀ before item rest,
        items = before ++ item :: rest →
        item.work?.isSome = true →
          ∀ name ∈ enclosing scopes before,
            kept name rest = other name rest) :
    retained kept scopes items =
      retained other scopes items := by
  induction items generalizing scopes with
  | nil => rfl
  | cons item items ih =>
      have hLater :
          retained kept (item.enclose scopes) items =
            retained other (item.enclose scopes) items := by
        apply ih
        intro before later rest hItems
        exact hSame (item :: before) later rest
          (by rw [hItems, List.cons_append])
      cases hWork : item.work? with
      | none => simp [retained, hLater, hWork]
      | some work =>
          have hHere :
              scopes.all (kept · items) =
                scopes.all (other · items) := by
            have hNames :=
              hSame [] item items rfl (by simp [hWork])
            rw [Bool.eq_iff_iff, List.all_eq_true,
              List.all_eq_true]
            constructor
            · intro hKept name hName
              rw [← hNames name hName]
              exact hKept name hName
            · intro hOther name hName
              rw [hNames name hName]
              exact hOther name hName
          simp only [retained, hHere, hLater]

section Steps

variable {allowed : Call → Prop} {first last : Standing}
variable {items : List Item}

/-
  After a step, the open scopes are those of its standing.
-/
theorem Step.enclosing
    (hStep : Step allowed first items last) :
    enclosing first.scopes items = last.scopes := by
  cases hStep <;>
    simp [Session.enclosing, Item.enclose]

/-
  After a run, the open scopes are those of its standing.
-/
theorem Run.enclosing
    (hRun : Run allowed first items last) :
    enclosing first.scopes items = last.scopes := by
  induction hRun with
  | nil => rfl
  | cons hStep hRun ih =>
      rw [enclosing_append, hStep.enclosing, ih]

end Steps

end Session

end SqlAccess
