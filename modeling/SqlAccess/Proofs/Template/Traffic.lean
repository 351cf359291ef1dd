import Mathlib.Logic.Function.Basic
import SqlAccess.Proofs.Template.Sharing

/-
  This file is about clients that use a store of compiled
  templates at the same time.  A client that does not find a
  template compiles it while the others go on, and stores it
  in a step of its own.

  Key definitions include:
    * `Template.Traffic`
    * `Template.Traffic.Step`
    * `Template.Traffic.Run`
    * `Template.Traffic.Completes`
    * `Template.Traffic.Transparent`

  Key theorems include:
    * `Template.Traffic.Step.sound`
    * `Template.Traffic.Step.keeps`
    * `Template.Traffic.Run.shared`
    * `Template.Traffic.run_transparent`
-/

namespace SqlAccess

namespace Template

------------------------------------------------------------
-- Clients
------------------------------------------------------------

/-
  What a client is about: nothing, a text that it did not
  find, or a text that it compiled.
-/
inductive Stage
  | idle
  | missed (text : String)
  | made (text : String) (compiled : Instance)

/- What a client is seen to do. -/
inductive Event
  | looked (text : String) (shared : Option Instance)
  | missed (text : String)
  | made (text : String) (compiled : Instance)
  | obtained (text : String)
    (result : Except Error Instance)
  | resized (capacity : Nat)
  | cleared

/- A store and its clients. -/
structure Traffic where
  cache : Cache
  stage : Nat → Stage

namespace Traffic

/- An empty store, and clients that do nothing yet. -/
def start (capacity : Nat) : Traffic :=
  ⟨.empty capacity, fun _ => .idle⟩

/- A client at another stage, with another store. -/
def move
    (traffic : Traffic)
    (client : Nat)
    (stage : Stage)
    (cache : Cache) : Traffic :=
  ⟨cache, Function.update traffic.stage client stage⟩

/- A client who moves is at its new stage. -/
theorem stage_move_self
    (traffic : Traffic)
    (client : Nat)
    (stage : Stage)
    (cache : Cache) :
    (traffic.move client stage cache).stage client =
      stage :=
  Function.update_self _ _ _

/- Other clients stay where they are. -/
theorem stage_move_of_ne
    (traffic : Traffic)
    {client other : Nat}
    (hOther : other ≠ client)
    (stage : Stage)
    (cache : Cache) :
    (traffic.move client stage cache).stage other =
      traffic.stage other :=
  Function.update_of_ne hOther _ _

/-
  One step of one client.  A template is obtained in up to
  three of them: by a hit, or by a miss and a compilation,
  and then by sharing what was made.
-/
inductive Step (traffic : Traffic) (client : Nat) :
    Event → Traffic → Prop
  | look {text}
      (hIdle : traffic.stage client = .idle) :
      Step traffic client
        (.looked text (traffic.cache.get text).1)
        (traffic.move client .idle
          (traffic.cache.get text).2)
  | hit {text shared}
      (hIdle : traffic.stage client = .idle)
      (hHit : (traffic.cache.get text).1 = some shared) :
      Step traffic client (.obtained text (.ok shared))
        (traffic.move client .idle
          (traffic.cache.get text).2)
  | miss {text}
      (hIdle : traffic.stage client = .idle)
      (hMiss : (traffic.cache.get text).1 = none) :
      Step traffic client (.missed text)
        (traffic.move client (.missed text)
          (traffic.cache.get text).2)
  | make {text compiled}
      (hMissed : traffic.stage client = .missed text)
      (hMade :
        (traffic.cache.compileInstance text).1 =
          .ok compiled) :
      Step traffic client (.made text compiled)
        (traffic.move client (.made text compiled)
          (traffic.cache.compileInstance text).2)
  | fail {text e}
      (hMissed : traffic.stage client = .missed text)
      (hFailed :
        (traffic.cache.compileInstance text).1 = .error e) :
      Step traffic client (.obtained text (.error e))
        (traffic.move client .idle
          (traffic.cache.compileInstance text).2)
  | share {text compiled}
      (hMade : traffic.stage client = .made text compiled) :
      Step traffic client
        (.obtained text
          (.ok (traffic.cache.share text compiled).1))
        (traffic.move client .idle
          (traffic.cache.share text compiled).2)
  | resize {capacity}
      (hIdle : traffic.stage client = .idle) :
      Step traffic client (.resized capacity)
        (traffic.move client .idle
          (traffic.cache.resize capacity))
  | clear
      (hIdle : traffic.stage client = .idle) :
      Step traffic client .cleared
        (traffic.move client .idle traffic.cache.clear)

/- A step with what was before and after it. -/
structure Moment where
  before : Traffic
  client : Nat
  event : Event
  after : Traffic

/- The instance that is made in a step. -/
def Moment.made? (moment : Moment) : Option Instance :=
  match moment.event with
  | .made _ compiled => some compiled
  | _ => none

/- Steps of any clients in any order. -/
inductive Run : Traffic → List Moment → Traffic → Prop
  | nil {traffic} : Run traffic [] traffic
  | cons {traffic client event later rest last}
      (hStep : Step traffic client event later)
      (hRest : Run later rest last) :
      Run traffic
        (⟨traffic, client, event, later⟩ :: rest) last

/- Whether a step takes the entry of a text away. -/
def Moment.Removes
    (moment : Moment)
    (text : String) :
    Prop :=
  moment.before.cache.find? text ≠ none ∧
    moment.after.cache.find? text = none

------------------------------------------------------------
-- What Steps Preserve
------------------------------------------------------------

/-
  What holds of a store and its clients at any time: the
  store is sound, and a client that compiled a text has what
  it compiles to.
-/
structure Sound (traffic : Traffic) : Prop where
  cache : traffic.cache.Sound
  made :
    ∀ client text compiled,
      traffic.stage client = .made text compiled →
        compile text = .ok compiled.template

section Steps

variable {traffic later : Traffic}
variable {client : Nat} {event : Event}

/- An empty store without clients is sound. -/
theorem Sound.start (capacity : Nat) :
    (Traffic.start capacity).Sound := by
  refine ⟨.empty capacity, ?_⟩
  intro client text compiled hStage
  cases hStage

/- A client may go to any stage that has what it says. -/
theorem Sound.move
    (hSound : traffic.Sound)
    {stage : Stage}
    {cache : Cache}
    (hCache : cache.Sound)
    (hStage :
      ∀ text compiled, stage = .made text compiled →
        compile text = .ok compiled.template) :
    (traffic.move client stage cache).Sound := by
  refine ⟨hCache, ?_⟩
  intro other text compiled hOther
  by_cases hSame : other = client
  · subst hSame
    rw [stage_move_self] at hOther
    exact hStage text compiled hOther
  · rw [stage_move_of_ne traffic hSame] at hOther
    exact hSound.made other text compiled hOther

/- A step keeps the traffic sound. -/
theorem Step.sound
    (hStep : Step traffic client event later)
    (hSound : traffic.Sound) : later.Sound := by
  have hCache := hSound.cache
  cases hStep with
  | @look text hIdle =>
      exact hSound.move (hCache.touch text) (by simp)
  | @hit text shared hIdle hHit =>
      exact hSound.move (hCache.touch text) (by simp)
  | @miss text hIdle hMiss =>
      exact hSound.move (hCache.touch text) (by simp)
  | @make text compiled hMissed hMade =>
      refine hSound.move (hCache.compileInstance _) ?_
      intro other same hSame
      cases hSame
      rw [← traffic.cache.compileInstance_template, hMade]
      rfl
  | @fail text e hMissed hFailed =>
      exact hSound.move (hCache.compileInstance _) (by simp)
  | share hMade =>
      have hTemplate := hSound.made _ _ _ hMade
      exact hSound.move (hCache.share hTemplate) (by simp)
  | @resize capacity hIdle =>
      exact hSound.move (hCache.resize capacity) (by simp)
  | clear hIdle => exact hSound.move (.clear _) (by simp)

/- What is obtained is what the text compiles to. -/
theorem Step.faithful
    {text : String}
    {result : Except Error Instance}
    (hStep :
      Step traffic client (.obtained text result) later)
    (hSound : traffic.Sound) :
    result.map Instance.template = compile text := by
  have hCache := hSound.cache
  cases hStep with
  | hit hIdle hHit =>
      rcases Option.map_eq_some_iff.1 hHit with
        ⟨entry, hFind, rfl⟩
      have hMem := List.mem_of_find?_eq_some hFind
      have hTemplate := hCache.faithful entry hMem
      rw [Cache.text_of_find? hFind] at hTemplate
      exact hTemplate.symm
  | fail hMissed hFailed =>
      rw [← traffic.cache.compileInstance_template,
        hFailed]
  | share hMade =>
      have hTemplate := hSound.made _ _ _ hMade
      exact (Cache.template_share hCache hTemplate).symm

/- No step puts another instance in the place of one. -/
theorem Step.keeps
    (hStep : Step traffic client event later)
    (hSound : traffic.Sound) :
    traffic.cache.Keeps later.cache := by
  have hCache := hSound.cache
  have hUse (text : String) :
      traffic.cache.Keeps (traffic.cache.touch text) :=
    (Cache.inherits_touch _ text).keeps hCache
  cases hStep with
  | @look text hIdle => exact hUse text
  | @hit text shared hIdle hHit => exact hUse text
  | @miss text hIdle hMiss => exact hUse text
  | @make text compiled hMissed hMade =>
      exact Cache.keeps_compileInstance hCache text
  | @fail text e hMissed hFailed =>
      exact Cache.keeps_compileInstance hCache text
  | @share text compiled hMade =>
      exact Cache.keeps_share hCache text compiled
  | @resize capacity hIdle =>
      exact Cache.keeps_resize hCache capacity
  | clear hIdle => exact Cache.keeps_clear _

/- A step is one of its client only. -/
theorem Step.frame
    (hStep : Step traffic client event later)
    {other : Nat}
    (hOther : other ≠ client) :
    later.stage other = traffic.stage other := by
  cases hStep <;> exact stage_move_of_ne traffic hOther _ _

/- Instances are counted. -/
theorem Step.instances_le
    (hStep : Step traffic client event later) :
    traffic.cache.instances ≤ later.cache.instances := by
  cases hStep with
  | @make text compiled hMissed hMade =>
      exact traffic.cache.instances_compileInstance_le text
  | @fail text e hMissed hFailed =>
      exact traffic.cache.instances_compileInstance_le text
  | @share text compiled hMade =>
      exact Nat.le_of_eq
        (Cache.instances_share compiled).symm
  | _ => exact Nat.le_refl _

/- An instance has the number of those before it. -/
theorem Step.serial
    {text : String}
    {compiled : Instance}
    (hStep :
      Step traffic client (.made text compiled) later) :
    compiled.serial = traffic.cache.instances ∧
      traffic.cache.instances < later.cache.instances := by
  cases hStep with
  | make hMissed hMade =>
      exact Cache.serial_compileInstance hMade

/- In a store with room there is what was obtained. -/
theorem Step.stored
    {text : String}
    {shared : Instance}
    (hStep :
      Step traffic client (.obtained text (.ok shared))
        later)
    (hSound : traffic.Sound)
    (hCapacity : 0 < traffic.cache.capacity) :
    ∃ entry,
      later.cache.find? text = some entry ∧
        entry.stored = shared := by
  have hCache := hSound.cache
  cases hStep with
  | hit hIdle hHit =>
      rcases Option.map_eq_some_iff.1 hHit with
        ⟨entry, hFind, rfl⟩
      exact ⟨_, Cache.find?_touch_of_some hCache hFind,
        rfl⟩
  | @share text compiled hMade =>
      exact Cache.find?_share hCache hCapacity text compiled

/- What is in the store is what is obtained. -/
theorem Step.obtains
    {text : String}
    {shared : Instance}
    {entry : Entry}
    (hStep :
      Step traffic client (.obtained text (.ok shared))
        later)
    (hFind : traffic.cache.find? text = some entry) :
    shared = entry.stored := by
  cases hStep with
  | hit hIdle hHit =>
      rw [Cache.get, hFind] at hHit
      cases hHit
      rfl
  | share hMade => rw [Cache.share_of_some hFind]

end Steps

------------------------------------------------------------
-- Runs
------------------------------------------------------------

namespace Run

variable {first last : Traffic} {run : List Moment}

/- A run goes through its parts one after the other. -/
theorem append_iff {front back : List Moment} :
    Run first (front ++ back) last ↔
      ∃ middle,
        Run first front middle ∧
          Run middle back last := by
  constructor
  · intro hRun
    induction front generalizing first with
    | nil => exact ⟨first, .nil, hRun⟩
    | cons moment front ih =>
        cases hRun with
        | cons hStep hRest =>
            rcases ih hRest with ⟨middle, hFront, hBack⟩
            exact ⟨middle, .cons hStep hFront, hBack⟩
  · rintro ⟨middle, hFront, hBack⟩
    induction hFront with
    | nil => exact hBack
    | cons hStep hRest ih => exact .cons hStep (ih hBack)

/- A run keeps the traffic sound. -/
theorem sound
    (hRun : Run first run last)
    (hSound : first.Sound) : last.Sound := by
  induction hRun with
  | nil => exact hSound
  | cons hStep hRest ih => exact ih (hStep.sound hSound)

/- Every step of a run is one, from a sound store. -/
theorem step_of_mem
    (hRun : Run first run last)
    (hSound : first.Sound)
    {moment : Moment}
    (hMem : moment ∈ run) :
    Step moment.before moment.client moment.event
        moment.after ∧
      moment.before.Sound := by
  induction hRun with
  | nil => exact absurd hMem List.not_mem_nil
  | cons hStep hRest ih =>
      rcases List.mem_cons.1 hMem with rfl | hMem
      · exact ⟨hStep, hSound⟩
      · exact ih (hStep.sound hSound) hMem

/-
  What is not removed stays the same instance, because only
  a removal takes away what was there.
-/
theorem keeps
    (hRun : Run first run last)
    (hSound : first.Sound)
    {text : String}
    (hStays : ∀ moment ∈ run, ¬ moment.Removes text)
    {old : Entry}
    (hOld : first.cache.find? text = some old) :
    ∃ entry,
      last.cache.find? text = some entry ∧
        entry.stored = old.stored := by
  induction hRun generalizing old with
  | nil => exact ⟨old, hOld, rfl⟩
  | @cons traffic client event later rest last hStep hRest
      ih =>
      cases hFind : later.cache.find? text with
      | none =>
          have hThere :
              traffic.cache.find? text ≠ none := by
            rw [hOld]
            exact Option.some_ne_none _
          exact absurd ⟨hThere, hFind⟩
            (hStays _ List.mem_cons_self)
      | some next =>
          have hSame :=
            hStep.keeps hSound text old next hOld hFind
          have hRest :=
            ih (hStep.sound hSound)
              (fun moment hMem =>
                hStays moment (List.mem_cons_of_mem _ hMem))
              hFind
          rcases hRest with ⟨entry, hEntry, hStored⟩
          exact ⟨entry, hEntry, hStored.trans hSame⟩

/-
  Two clients that obtain a text share its instance, if the
  first one found room and the entry was not removed since.
-/
theorem shared
    {front middle back : List Moment}
    {one two : Moment}
    (hRun :
      Run first
        (front ++ one :: (middle ++ two :: back)) last)
    (hSound : first.Sound)
    {text : String}
    {earlier later : Instance}
    (hOne : one.event = .obtained text (.ok earlier))
    (hTwo : two.event = .obtained text (.ok later))
    (hCapacity : 0 < one.before.cache.capacity)
    (hStays :
      ∀ moment ∈ middle, ¬ moment.Removes text) :
    earlier = later := by
  rcases append_iff.1 hRun with ⟨start, hFront, hRun⟩
  have hStart := hFront.sound hSound
  cases hRun with
  | cons hStep hRest =>
      rcases append_iff.1 hRest with
        ⟨end_, hMiddle, hBack⟩
      cases hBack with
      | cons hLast hBack =>
          subst hOne hTwo
          rcases hStep.stored hStart hCapacity with
            ⟨entry, hEntry, rfl⟩
          rcases hMiddle.keeps (hStep.sound hStart) hStays
            hEntry with ⟨other, hOther, hSame⟩
          rw [← hSame]
          exact (hLast.obtains hOther).symm

/- The instances that a run makes have growing numbers. -/
theorem serials (hRun : Run first run last) :
    (∀ compiled ∈ run.filterMap Moment.made?,
        first.cache.instances ≤ compiled.serial) ∧
      (run.filterMap Moment.made?).Pairwise fun one two =>
        one.serial < two.serial := by
  induction hRun with
  | nil => exact ⟨by simp, .nil⟩
  | @cons traffic client event later rest last hStep hRest
      ih =>
      rcases ih with ⟨hLater, hPairwise⟩
      have hCount := hStep.instances_le
      have hRest :
          ∀ compiled ∈ rest.filterMap Moment.made?,
            traffic.cache.instances ≤ compiled.serial :=
        fun compiled hMem =>
          Nat.le_trans hCount (hLater compiled hMem)
      cases event with
      | made text compiled =>
          have hSerial := hStep.serial
          have hHere :
              Moment.made?
                  ⟨traffic, client, .made text compiled,
                    later⟩ = some compiled :=
            rfl
          rw [List.filterMap_cons_some hHere]
          refine ⟨?_, .cons ?_ hPairwise⟩
          · intro other hMem
            rcases List.mem_cons.1 hMem with rfl | hMem
            · exact Nat.le_of_eq hSerial.1.symm
            · exact hRest other hMem
          · intro other hMem
            have hOther := hLater other hMem
            omega
      | _ =>
          rw [List.filterMap_cons_none rfl]
          exact ⟨hRest, hPairwise⟩

end Run

------------------------------------------------------------
-- Calls That Go On
------------------------------------------------------------

/-
  Whether a client that goes on by itself obtains a text in
  at most so many steps, with what it obtains and the state
  after that.
-/
inductive Completes (client : Nat) (text : String) :
    Nat → Traffic → Except Error Instance →
      Traffic → Prop
  | done {steps traffic result last}
      (hStep :
        Step traffic client (.obtained text result) last) :
      Completes client text (steps + 1) traffic result last
  | later {steps traffic event next result last}
      (hStep : Step traffic client event next)
      (hRest :
        Completes client text steps next result last) :
      Completes client text (steps + 1) traffic result last

section Calls

variable {traffic : Traffic} {client : Nat} {text : String}

/- A client that compiled a text shares it. -/
theorem completes_of_made
    {compiled : Instance}
    (hMade : traffic.stage client = .made text compiled) :
    Completes client text 1 traffic
      (.ok (traffic.cache.share text compiled).1)
      (traffic.move client .idle
        (traffic.cache.share text compiled).2) :=
  .done (.share hMade)

/- A client that did not find a text compiles it. -/
theorem exists_completes_of_missed
    (hMissed : traffic.stage client = .missed text) :
    ∃ result last,
      Completes client text 2 traffic result last := by
  cases hResult :
      (traffic.cache.compileInstance text).1 with
  | error e =>
      exact ⟨_, _, .done (.fail hMissed hResult)⟩
  | ok compiled =>
      have hStep := Step.make hMissed hResult
      have hStage :=
        stage_move_self traffic client (.made text compiled)
          (traffic.cache.compileInstance text).2
      exact ⟨_, _,
        .later hStep (completes_of_made hStage)⟩

/- A client that begins alone does what obtaining is. -/
theorem exists_completes_of_idle
    (hIdle : traffic.stage client = .idle)
    (text : String) :
    ∃ last,
      Completes client text 3 traffic
          (traffic.cache.obtain text).1 last ∧
        last.cache = (traffic.cache.obtain text).2 := by
  cases hFind : traffic.cache.find? text with
  | some entry =>
      have hHit :
          (traffic.cache.get text).1 =
            some entry.stored := by
        rw [Cache.get, hFind]
        rfl
      rw [Cache.obtain_of_some hFind]
      exact ⟨_, .done (.hit hIdle hHit), rfl⟩
  | none =>
      have hMiss : (traffic.cache.get text).1 = none := by
        rw [Cache.get, hFind]
        rfl
      have hStep := Step.miss hIdle hMiss
      have hMissed :=
        stage_move_self traffic client (.missed text)
          (traffic.cache.touch text)
      cases hResult :
          ((traffic.cache.touch text).compileInstance
            text).1
        with
      | error e =>
          rw [Cache.obtain_of_error hFind hResult]
          exact
            ⟨_,
              .later hStep (.done (.fail hMissed hResult)),
                rfl⟩
      | ok compiled =>
          have hMake := Step.make hMissed hResult
          have hMade :=
            stage_move_self
              (traffic.move client (.missed text)
                (traffic.cache.touch text))
              client (.made text compiled)
              ((traffic.cache.touch text).compileInstance
                text).2
          rw [Cache.obtain_of_ok hFind hResult]
          exact
            ⟨_, .later hStep
              (.later hMake (completes_of_made hMade)),
                rfl⟩

end Calls

------------------------------------------------------------
-- Any Order of Steps
------------------------------------------------------------

/-
  What holds after steps of any clients in any order.  There
  are no more entries than there may be, and what is stored
  or obtained is what its text compiles to.

  A client that begins is given a text as if it were alone,
  in up to three steps of its own, and one that has begun
  needs no other client to go on; the others do not touch
  what it is about.

  Compilations make different instances.  Two clients that
  obtain the same text share one, if there was room and the
  entry was not removed in between.
-/
structure Transparent
    (run : List Moment)
    (last : Traffic) : Prop where
  fits : last.cache.size ≤ last.cache.capacity
  stored :
    ∀ entry ∈ last.cache.entries,
      compile entry.text = .ok entry.stored.template
  obtained :
    ∀ moment ∈ run, ∀ text result,
      moment.event = .obtained text result →
        result.map Instance.template = compile text
  begins :
    ∀ client text, last.stage client = .idle →
      ∃ final,
        Completes client text 3 last
            (last.cache.obtain text).1 final ∧
          final.cache = (last.cache.obtain text).2
  goesOn :
    ∀ client text,
      (last.stage client = .missed text ∨
        ∃ compiled,
          last.stage client = .made text compiled) →
      ∃ result final,
        Completes client text 2 last result final
  undisturbed :
    ∀ moment ∈ run, ∀ client,
      client ≠ moment.client →
      moment.after.stage client = moment.before.stage client
  different :
    (run.filterMap Moment.made?).Pairwise fun one two =>
      one.serial < two.serial
  shared :
    ∀ front one middle two back text earlier later,
      run = front ++ one :: (middle ++ two :: back) →
      one.event = .obtained text (.ok earlier) →
      two.event = .obtained text (.ok later) →
      0 < one.before.cache.capacity →
      (∀ moment ∈ middle, ¬ moment.Removes text) →
      earlier = later

/- Clients of an empty store may take steps in any order. -/
theorem run_transparent
    {capacity : Nat}
    {run : List Moment}
    {last : Traffic}
    (hRun : Run (.start capacity) run last) :
    Transparent run last := by
  have hStart := Sound.start capacity
  have hLast := hRun.sound hStart
  refine
    { fits := hLast.cache.fits
      stored := hLast.cache.faithful
      different := hRun.serials.2
      obtained := ?_
      begins := ?_
      goesOn := ?_
      undisturbed := ?_
      shared := ?_ }
  · intro moment hMem text result hEvent
    rcases hRun.step_of_mem hStart hMem with
      ⟨hStep, hSound⟩
    rw [hEvent] at hStep
    exact hStep.faithful hSound
  · intro client text hIdle
    exact exists_completes_of_idle hIdle text
  · intro client text hStage
    rcases hStage with hMissed | ⟨compiled, hMade⟩
    · exact exists_completes_of_missed hMissed
    · exact ⟨_, _, .done (.share hMade)⟩
  · intro moment hMem client hOther
    exact (hRun.step_of_mem hStart hMem).1.frame hOther
  · intro front one middle two back text earlier later
      hParts hOne hTwo hCapacity hStays
    subst hParts
    exact hRun.shared hStart hOne hTwo hCapacity hStays

/- Two clients that miss the same text, step by step. -/
theorem run_transparent_race :
    ∃ run last,
      Run (.start 1) run last ∧
        run.map Moment.client = [0, 1, 0, 1, 0, 1] ∧
        Transparent run last := by
  have hCompile :
      compile "" = .ok ⟨"", Forest.ofTokens []⟩ := by
    decide +kernel
  have hMade (cache : Cache) :
      (cache.compileInstance "").1 =
        .ok ⟨⟨"", Forest.ofTokens []⟩,
          cache.instances⟩ :=
    congrArg Prod.fst (cache.compileInstance_of_ok hCompile)
  have hRun :=
    Run.cons (@Step.miss (.start 1) 0 "" rfl rfl)
      (.cons (@Step.miss _ 1 "" rfl rfl)
        (.cons (@Step.make _ 0 "" _ rfl (hMade _))
          (.cons (@Step.make _ 1 "" _ rfl (hMade _))
            (.cons (@Step.share _ 0 "" _ rfl)
              (.cons (@Step.share _ 1 "" _ rfl) .nil)))))
  exact ⟨_, _, hRun, rfl, run_transparent hRun⟩

end Traffic

end Template

end SqlAccess
