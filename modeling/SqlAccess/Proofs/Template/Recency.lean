import SqlAccess.Proofs.Template.Order

/-
  This file compares a store of compiled templates with a
  list that is kept in the order of use.  Whatever is asked
  of them, both give the same answers and hold equally many
  templates.

  Key definitions include:
    * `Template.Recency`
    * `Template.Request`
    * `Template.Service`
    * `Template.Cache.Refines`

  Key theorems include:
    * `Template.Cache.Refines.obtain`
    * `Template.Cache.Refines.serve`
    * `Template.Cache.serves_as_recency`
-/

namespace SqlAccess

namespace Template

------------------------------------------------------------
-- Lists in the Order of Use
------------------------------------------------------------

/-
  A list of templates in which the one that was used last is
  in front, with the number of those it may hold and of
  those that were compiled so far.
-/
structure Recency where
  capacity : Nat
  recent : List (String × Instance)
  instances : Nat

namespace Recency

/- A list without templates. -/
def empty (capacity : Nat) : Recency :=
  ⟨capacity, [], 0⟩

/- The number of templates in the list. -/
def size (list : Recency) : Nat :=
  list.recent.length

/- Move the template of a text to the front. -/
def promote
    (list : Recency)
    (text : String)
    (stored : Instance) : Recency :=
  { list with
    recent :=
      (text, stored) ::
        list.recent.eraseP fun pair => pair.1 = text }

/- Look a text up; what is found moves to the front. -/
def get
    (list : Recency)
    (text : String) : Option Instance × Recency :=
  match list.recent.lookup text with
  | some stored => (some stored, list.promote text stored)
  | none => (none, list)

/-
  Look a text up.  Where it is not found and compiles, its
  template is put in front, and the list is cut to what it
  may hold.
-/
def obtain
    (list : Recency)
    (text : String) : Except Error Instance × Recency :=
  match list.recent.lookup text with
  | some stored => (.ok stored, list.promote text stored)
  | none =>
      match compile text with
      | .ok template =>
          let compiled := ⟨template, list.instances⟩
          let all := (text, compiled) :: list.recent
          (.ok compiled,
            { list with
              recent := all.take list.capacity
              instances := list.instances + 1 })
      | .error e => (.error e, list)

/- Cut the list to how many templates it may hold now. -/
def resize
    (list : Recency)
    (capacity : Nat) : Recency :=
  { list with
    capacity := capacity
    recent := list.recent.take capacity }

/- Forget all templates. -/
def clear (list : Recency) : Recency :=
  { list with recent := [] }

end Recency

------------------------------------------------------------
-- Requests
------------------------------------------------------------

/- What can be asked of a store of templates. -/
inductive Request
  | get (text : String)
  | obtain (text : String)
  | resize (capacity : Nat)
  | clear

/- What is answered. -/
inductive Answer
  | found (shared : Option Instance)
  | obtained (result : Except Error Instance)
  | done

/- The operations of a store whose states are of a type. -/
structure Service (Store : Type) where
  size : Store → Nat
  get : Store → String → Option Instance × Store
  obtain :
      Store → String → Except Error Instance × Store
  resize : Store → Nat → Store
  clear : Store → Store

namespace Service

variable {Store : Type}

/- Serve one request. -/
def serve
    (service : Service Store)
    (store : Store) : Request → Answer × Store
  | .get text =>
      let (shared, used) := service.get store text
      (.found shared, used)
  | .obtain text =>
      let (result, used) := service.obtain store text
      (.obtained result, used)
  | .resize capacity =>
      (.done, service.resize store capacity)
  | .clear => (.done, service.clear store)

/- The state after some requests. -/
def run
    (service : Service Store)
    (store : Store)
    (requests : List Request) : Store :=
  requests.foldl
    (fun store request => (service.serve store request).2)
    store

/-
  The answers to some requests, each with the size of the
  store after it.
-/
def answers
    (service : Service Store)
    (store : Store) : List Request → List (Answer × Nat)
  | [] => []
  | request :: rest =>
      let served := service.serve store request
      (served.1, service.size served.2) ::
        service.answers served.2 rest

end Service

/- The operations of a list in the order of use. -/
def Recency.service : Service Recency where
  size := Recency.size
  get := Recency.get
  obtain := Recency.obtain
  resize := Recency.resize
  clear := Recency.clear

/- The operations of a store. -/
def Cache.service : Service Cache where
  size := Cache.size
  get := Cache.get
  obtain := Cache.obtain
  resize := Cache.resize
  clear := Cache.clear

------------------------------------------------------------
-- Pairs
------------------------------------------------------------

/- An entry as it stands in a list in the order of use. -/
def Entry.pair (entry : Entry) : String × Instance :=
  (entry.text, entry.stored)

/- Looking a text up among pairs is finding its entry. -/
theorem lookup_map_pair
    (entries : List Entry)
    (text : String) :
    (entries.map Entry.pair).lookup text =
      (entries.find? fun entry => entry.text = text).map
        Entry.stored := by
  induction entries with
  | nil => rfl
  | cons first rest ih =>
      rw [List.map_cons, Entry.pair, List.lookup_cons,
        List.find?_cons]
      by_cases hText : first.text = text
      · simp [hText]
      · have hOther : (text == first.text) = false := by
          simpa using Ne.symm hText
        simp [hText, hOther, ih]

/-
  Taking an entry out by its text is taking its pair out.
-/
theorem eraseP_map_pair
    (entries : List Entry)
    (text : String) :
    (entries.map Entry.pair).eraseP
        (fun pair => pair.1 = text) =
      (entries.eraseP fun entry => entry.text = text).map
        Entry.pair :=
  List.eraseP_map

namespace Cache

------------------------------------------------------------
-- Refinement
------------------------------------------------------------

/-
  Whether a store and a list are alike: the list has the
  entries of the store in the order of use, and no more than
  there may be.
-/
structure Refines
    (cache : Cache)
    (list : Recency) : Prop where
  order :
    ∃ ordered,
      cache.OrderedAs ordered ∧
        ordered.map Entry.pair = list.recent
  capacity : cache.capacity = list.capacity
  instances : cache.instances = list.instances
  fits : cache.size ≤ cache.capacity

namespace Refines

/- An empty store is an empty list. -/
theorem empty (capacity : Nat) :
    (Cache.empty capacity).Refines (.empty capacity) where
  order := ⟨[], .of_nil rfl, rfl⟩
  capacity := rfl
  instances := rfl
  fits := Nat.zero_le _

variable {cache : Cache} {list : Recency}

/- A store and its list are of one size. -/
theorem size_eq (hRefines : cache.Refines list) :
    cache.size = list.size := by
  rcases hRefines.order with
    ⟨ordered, hOrdered, hRecent⟩
  rw [← hOrdered.length_eq, Recency.size, ← hRecent,
    List.length_map]

/- A store and its list find the same. -/
theorem lookup_eq
    (hRefines : cache.Refines list)
    (text : String) :
    list.recent.lookup text =
      (cache.find? text).map Entry.stored := by
  rcases hRefines.order with
    ⟨ordered, hOrdered, hRecent⟩
  rw [← hRecent, lookup_map_pair, hOrdered.find?_eq]

/- A use of a text that is there moves it to the front. -/
theorem touch_of_some
    (hRefines : cache.Refines list)
    {text : String}
    {entry : Entry}
    (hSome : cache.find? text = some entry) :
    (cache.touch text).Refines
      (list.promote text entry.stored) := by
  rcases hRefines.order with
    ⟨ordered, hOrdered, hRecent⟩
  have hText := text_of_find? hSome
  refine
    ⟨⟨_, hOrdered.touch_of_some hSome, ?_⟩,
      hRefines.capacity, hRefines.instances, ?_⟩
  · rw [Recency.promote, ← hRecent, eraseP_map_pair,
      List.map_cons, ← hText]
    rfl
  · rw [size_touch]
    exact hRefines.fits

/- A use of a text that is not there changes nothing. -/
theorem touch_of_none
    (hRefines : cache.Refines list)
    {text : String}
    (hNone : cache.find? text = none) :
    (cache.touch text).Refines list := by
  rcases hRefines.order with
    ⟨ordered, hOrdered, hRecent⟩
  refine
    ⟨⟨_, hOrdered.touch_of_none hNone, hRecent⟩,
      hRefines.capacity, hRefines.instances, ?_⟩
  rw [size_touch]
  exact hRefines.fits

/- A lookup answers as the list does. -/
theorem get
    (hRefines : cache.Refines list)
    (text : String) :
    (cache.get text).1 = (list.get text).1 ∧
      (cache.get text).2.Refines (list.get text).2 := by
  have hLookup := hRefines.lookup_eq text
  unfold Cache.get Recency.get
  cases hFind : cache.find? text with
  | some entry =>
      rw [hFind] at hLookup
      rw [hLookup]
      exact ⟨rfl, hRefines.touch_of_some hFind⟩
  | none =>
      rw [hFind] at hLookup
      rw [hLookup]
      exact ⟨rfl, hRefines.touch_of_none hFind⟩

/- An instance that was made is only counted. -/
theorem grow (hRefines : cache.Refines list) :
    { cache with instances := cache.instances + 1 }.Refines
      { list with instances := list.instances + 1 } := by
  rcases hRefines.order with
    ⟨ordered, hOrdered, hRecent⟩
  exact
    ⟨⟨ordered, hOrdered.of_eq rfl rfl, hRecent⟩,
      hRefines.capacity,
        congrArg (· + 1) hRefines.instances,
      hRefines.fits⟩

/- An instance that is stored is put in front. -/
theorem share_of_none
    (hRefines : cache.Refines list)
    {text : String}
    (hNone : cache.find? text = none)
    (compiled : Instance) :
    (cache.share text compiled).2.Refines
      { list with
        recent :=
          ((text, compiled) :: list.recent).take
            list.capacity } := by
  rcases hRefines.order with
    ⟨ordered, hOrdered, hRecent⟩
  have hShared :=
    hOrdered.share_of_none hRefines.fits hNone compiled
  refine ⟨⟨_, hShared, ?_⟩, ?_, ?_, ?_⟩
  · rw [List.map_take, List.map_cons, hRecent,
      hRefines.capacity]
    rfl
  · rw [capacity_share, hRefines.capacity]
  · rw [instances_share, hRefines.instances]
  · rw [capacity_share]
    exact size_share_le hOrdered hRefines.fits compiled

/-
  A text is obtained from both with one result.  A miss
  stores nothing before the instance is shared, so that
  sharing misses too.
-/
theorem obtain
    (hRefines : cache.Refines list)
    (text : String) :
    (cache.obtain text).1 = (list.obtain text).1 ∧
      (cache.obtain text).2.Refines
        (list.obtain text).2 := by
  have hLookup := hRefines.lookup_eq text
  cases hFind : cache.find? text with
  | some entry =>
      rw [hFind] at hLookup
      have hFront :
          list.obtain text =
            (.ok entry.stored,
              list.promote text entry.stored) := by
        simp only [Recency.obtain, hLookup, Option.map_some]
      rw [obtain_of_some hFind, hFront]
      exact ⟨rfl, hRefines.touch_of_some hFind⟩
  | none =>
      rw [hFind] at hLookup
      have hUsed := hRefines.touch_of_none hFind
      cases hCompile : compile text with
      | error e =>
          have hFailed :=
            (cache.touch text).compileInstance_of_error
              hCompile
          have hSame :
              list.obtain text = (.error e, list) := by
            simp only [Recency.obtain, hLookup, hCompile,
              Option.map_none]
          have hFirst := congrArg Prod.fst hFailed
          rw [obtain_of_error hFind hFirst, hFailed, hSame]
          exact ⟨rfl, hUsed⟩
      | ok template =>
          have hMade :=
            compileInstance_of_ok (cache.touch text)
              hCompile
          have hStill :
              { cache.touch text with
                instances :=
                  (cache.touch text).instances + 1 }.find?
                  text = none := by
            unfold find? at hFind ⊢
            rw [entries_touch_of_none hFind]
            exact hFind
          have hSerial :
              Instance.mk template
                  (cache.touch text).instances =
                ⟨template, list.instances⟩ :=
            congrArg (Instance.mk template) hUsed.instances
          have hFirst := congrArg Prod.fst hMade
          rw [obtain_of_ok hFind hFirst, hMade, hSerial]
          simp only [Recency.obtain, hLookup, hCompile,
            Option.map_none]
          refine ⟨?_, hUsed.grow.share_of_none hStill _⟩
          rw [Cache.share_of_none hStill]

/- A new capacity drops the same entries from both. -/
theorem resize
    (hRefines : cache.Refines list)
    (capacity : Nat) :
    (cache.resize capacity).Refines
      (list.resize capacity) := by
  rcases hRefines.order with
    ⟨ordered, hOrdered, hRecent⟩
  have hChanged :
      { cache with
        capacity := capacity }.OrderedAs ordered :=
    hOrdered.of_eq rfl rfl
  refine
    ⟨⟨_, hChanged.evict, ?_⟩, rfl, hRefines.instances,
      hChanged.length_evict_le⟩
  rw [List.map_take, hRecent]
  rfl

/- A store and its list are cleared together. -/
theorem clear (hRefines : cache.Refines list) :
    cache.clear.Refines list.clear :=
  ⟨⟨[], .of_nil rfl, rfl⟩, hRefines.capacity,
    hRefines.instances, Nat.zero_le _⟩

/- One request is served alike. -/
theorem serve
    (hRefines : cache.Refines list)
    (request : Request) :
    (service.serve cache request).1 =
        (Recency.service.serve list request).1 ∧
      (service.serve cache request).2.Refines
        (Recency.service.serve list request).2 := by
  cases request with
  | get text =>
      have hGet := hRefines.get text
      exact ⟨congrArg Answer.found hGet.1, hGet.2⟩
  | obtain text =>
      have hObtain := hRefines.obtain text
      exact ⟨congrArg Answer.obtained hObtain.1,
        hObtain.2⟩
  | resize capacity =>
      exact ⟨rfl, hRefines.resize capacity⟩
  | clear => exact ⟨rfl, hRefines.clear⟩

/- So are all requests. -/
theorem answers_eq
    (hRefines : cache.Refines list)
    (requests : List Request) :
    service.answers cache requests =
      Recency.service.answers list requests := by
  induction requests generalizing cache list with
  | nil => rfl
  | cons request rest ih =>
      have hServe := hRefines.serve request
      have hSize :
          service.size (service.serve cache request).2 =
            Recency.service.size
              (Recency.service.serve list request).2 :=
        hServe.2.size_eq
      rw [Service.answers, Service.answers, hServe.1, hSize,
        ih hServe.2]

/-
  A store and its list stay together through all requests.
-/
theorem run
    (hRefines : cache.Refines list)
    (requests : List Request) :
    (service.run cache requests).Refines
      (Recency.service.run list requests) := by
  induction requests generalizing cache list with
  | nil => exact hRefines
  | cons request rest ih =>
      exact ih (hRefines.serve request).2

end Refines

/-
  Whatever is asked of a store, it answers and holds as many
  templates as a list in the order of use, and never more
  than it may hold.
-/
theorem serves_as_recency
    (capacity : Nat)
    (requests : List Request) :
    service.answers (Cache.empty capacity) requests =
        Recency.service.answers (Recency.empty capacity)
          requests ∧
      (service.run (Cache.empty capacity) requests).size ≤
        (service.run (Cache.empty capacity)
          requests).capacity := by
  have hEmpty := Refines.empty capacity
  have hFits := (hEmpty.run requests).fits
  exact ⟨hEmpty.answers_eq requests, hFits⟩

/- What was used longest ago makes room. -/
example :
    (service.run (Cache.empty 2)
        [.obtain "a", .obtain "b", .get "a",
          .obtain "c"]).entries.map Entry.text =
      ["c", "a"] := by
  with_unfolding_all rfl

end Cache

end Template

end SqlAccess
