import SqlAccess.Proofs.Pool.Seeking

/-
  This file shows that a checkout that is taken apart comes
  to the end of the whole one if nobody comes in between:
  the user waits for one thing after the other, for a place,
  for a connection to open and for the primary.

  Key definitions include:
    * `Waiter.Reaches`
    * `Act.Attains`
    * `Act.Opens`

  Key theorems include:
    * `Waiter.persist_attains`
    * `Waiter.resume_attains`
    * `World.Demand.begin_attains`
-/

namespace SqlAccess

variable {σ : Type}

------------------------------------------------------------
-- Waiting to the End
------------------------------------------------------------

/-
  A user who waits comes to the end of a checkout if what is
  waited for comes to its end, one thing after the other.
-/
inductive Waiter.Reaches :
    Except Waiter (Except Error Connection) →
      Database σ →
      Except Error Connection × Database σ → Prop
  | done {result db} : Reaches (.ok result) db (result, db)
  | wait {waiter db last}
      (inTime : Bool)
      (hNext :
        let run := (waiter.proceed inTime).run db
        Reaches run.1 run.2 last) :
      Reaches (.error waiter) db last

namespace Act

/-
  A part of a checkout leads to the end of the whole one.
-/
def Attains
    (part :
      Act σ (Except Waiter (Except Error Connection)))
    (whole : Act σ (Except Error Connection))
    (db : Database σ) : Prop :=
  let run := part.run db
  Waiter.Reaches run.1 run.2 (whole.run db)

/- Both go on after the same beginning. -/
theorem Attains.bind
    {α : Type}
    {act : Act σ α}
    {part :
      α →
        Act σ (Except Waiter (Except Error Connection))}
    {whole : α → Act σ (Except Error Connection)}
    {db : Database σ}
    (hNext :
      let run := act.run db
      Attains (part run.1) (whole run.1) run.2) :
    Attains (act >>= part) (act >>= whole) db :=
  hNext

/- Nothing but the opening of a connection is waited for. -/
def Opens (act : Act σ Progress) : Prop :=
  ∀ db, (act.run db).1 ≠ .paused .forPlace

namespace Opens

theorem pure
    {progress : Progress}
    (hProgress : progress ≠ .paused .forPlace) :
    Opens (return progress : Act σ Progress) :=
  fun _ => hProgress

/- What comes before an opening does not matter for it. -/
theorem bind
    {α : Type}
    {act : Act σ α}
    {next : α → Act σ Progress}
    (hNext : ∀ a, Opens (next a)) :
    Opens (act >>= next) :=
  fun _ => hNext _ _

end Opens

/- An opening does not wait for a place. -/
theorem openNew_opens (target : Target) :
    Opens (openNew target : Act σ Progress) := by
  apply Opens.bind
  intro db
  cases db.pool? target with
  | none => exact .pure nofun
  | some pool =>
      apply Opens.bind
      intro reply
      cases reply with
      | done link => exact .bind fun _ => .pure nofun
      | failed e => exact .bind fun _ => .pure nofun
      | silent => exact .pure nofun

/- With a place, a user does not wait for one. -/
theorem seat_opens
    (target : Target)
    {whenFull : Act σ Progress}
    (hFull : Opens whenFull) :
    Opens (seat target whenFull) := by
  apply Opens.bind
  intro reserved
  cases reserved with
  | ok _ =>
      apply Opens.bind
      intro found
      cases found with
      | some conn => exact .pure nofun
      | none => exact .pure nofun
  | error refusal =>
      cases refusal with
      | closed => exact .pure nofun
      | full => exact hFull

/- Who is woken does not wait for a place again. -/
theorem wake_opens (target : Target) :
    Opens (wake target : Act σ Progress) :=
  .bind fun _ =>
    seat_opens target (.bind fun _ => .pure nofun)

end Act

------------------------------------------------------------
-- Checkouts to the End
------------------------------------------------------------

namespace Waiter

/-
  The end of a checkout, with the primary after a replica.
-/
def conclude
    (target : Target)
    (mayFallBack : Bool)
    (result : Except Error Connection) :
    Act σ (Except Error Connection) :=
  if mayFallBack then Act.fallBack target result
  else return result

section Places

variable {target : Target} {mayFallBack : Bool}
variable
  (hResume :
    ∀ result (db : Database σ),
      Act.Attains
        (resume target mayFallBack (.finished result))
        (conclude target mayFallBack result) db)

include hResume

/-
  Where a checkout that has ended is gone on with to the
  end, so is one that waits for a connection to open.
-/
theorem settle_attains
    {progress : Progress}
    (hProgress : progress ≠ .paused .forPlace)
    (db : Database σ) :
    Act.Attains (resume target mayFallBack progress)
      (Act.settle target progress >>=
        conclude target mayFallBack) db := by
  cases progress with
  | finished result => exact hResume result db
  | paused pause =>
      cases pause with
      | forPlace => exact absurd rfl hProgress
      | forConnection =>
          refine .wait false ?_
          exact hResume _ _

/- So is one that waits for anything. -/
theorem persist_attains
    (progress : Progress)
    (db : Database σ) :
    Act.Attains (resume target mayFallBack progress)
      (Act.persist target progress >>=
        conclude target mayFallBack) db := by
  have hServed :
      ∀ progress ≠ .paused .forPlace,
        ∀ db : Database σ,
        Act.Attains (resume target mayFallBack progress)
          (Act.openIfNeeded target progress >>=
            Act.settle target >>=
            conclude target mayFallBack) db := by
    intro progress hProgress db
    cases progress with
    | finished result => exact hResume result db
    | paused pause =>
        cases pause with
        | forPlace => exact absurd rfl hProgress
        | forConnection =>
            refine .wait true ?_
            exact settle_attains hResume
              (Act.openNew_opens target db) _
  cases progress with
  | finished result => exact hResume result db
  | paused pause =>
      cases pause with
      | forPlace =>
          refine .wait true ?_
          exact hServed _ (Act.wake_opens target db) _
      | forConnection =>
          exact hServed (.paused .forConnection) nofun db

end Places

/- Nothing takes the place of the primary. -/
theorem standing_attains
    (progress : Progress)
    (db : Database σ) :
    Act.Attains
      (return standing .primary false progress)
      (Act.persist .primary progress) db := by
  have hPersist :
      Act.Attains (resume .primary false progress)
        (Act.persist .primary progress) db := by
    have hResume :
        ∀ result (db : Database σ),
          Act.Attains
            (resume .primary false (.finished result))
            (conclude .primary false result) db :=
      fun _ _ => .done
    have hAttains := persist_attains hResume progress db
    have hConclude :
        (conclude .primary false :
          _ → Act σ (Except Error Connection)) = pure :=
      rfl
    rw [hConclude, bind_pure] at hAttains
    exact hAttains
  cases progress with
  | finished result => exact hPersist
  | paused pause => exact hPersist

/-
  A checkout that has ended goes on with the primary if that
  is to take the place of a replica.
-/
theorem resume_attains
    (target : Target)
    (mayFallBack : Bool)
    (result : Except Error Connection)
    (db : Database σ) :
    Act.Attains
      (resume target mayFallBack (.finished result))
      (conclude target mayFallBack result) db := by
  unfold resume conclude Act.fallBack
  cases mayFallBack with
  | false => exact .done
  | true =>
      simp only [Bool.true_and, if_true]
      cases Act.fallsBack target result with
      | false => exact .done
      | true =>
          simp only [if_true, Act.checkoutAt_eq]
          apply Act.Attains.bind
          apply Act.Attains.bind
          exact standing_attains _ _

end Waiter

/- To ask and to wait to the end is a whole checkout. -/
theorem World.Demand.begin_attains
    (demand : World.Demand)
    (db : Database σ) :
    Act.Attains (Waiter.begin demand) demand.serve db := by
  rw [demand.serve_eq]
  apply Act.Attains.bind
  rcases demand.choose.run db with
    ⟨⟨target, mayFallBack⟩, after⟩
  simp only [Act.checkoutAt_eq, bind_assoc]
  apply Act.Attains.bind
  exact Waiter.persist_attains
    (Waiter.resume_attains target mayFallBack) _ _

end SqlAccess
