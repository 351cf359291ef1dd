import SqlAccess.Template.Basic

/-
  This file defines a bounded store of compiled templates.
  Every use of a template is stamped with a growing number,
  and where there is no room the one with the least stamp
  goes.

  A template that is compiled is one instance, and everyone
  who is given it shares it.  Looking up, compiling and
  storing are steps of their own, so that another user may
  come in between.

  Key definitions include:
    * `Template.Instance`
    * `Template.Cache`
    * `Template.Cache.get`
    * `Template.Cache.share`
    * `Template.Cache.obtain`
    * `Template.Cache.resize`
    * `Template.Cache.clear`
-/

namespace SqlAccess

namespace Template

/- One compilation of a template, told apart by a number. -/
structure Instance where
  template : Template
  serial : Nat
deriving DecidableEq, Repr

/- A stored template and the stamp of its last use. -/
structure Entry where
  text : String
  stored : Instance
  stamp : Nat
deriving DecidableEq, Repr

/-
  A store: the number of templates that it may hold, the
  last stamp, the stored templates, and the number of
  instances made so far.  Stamps are counted without a
  bound.  A counter of 64 bits does the same, as every use
  takes only one stamp and no run lasts for so many uses.
-/
structure Cache where
  capacity : Nat
  generation : Nat
  entries : List Entry
  instances : Nat
deriving Repr

namespace Cache

/- A store without templates. -/
def empty (capacity : Nat) : Cache :=
  ⟨capacity, 0, [], 0⟩

/- The number of stored templates. -/
def size (cache : Cache) : Nat :=
  cache.entries.length

------------------------------------------------------------
-- Eviction
------------------------------------------------------------

/- The least stamp of some entries, or zero. -/
def leastStamp (entries : List Entry) : Nat :=
  ((entries.map Entry.stamp).min?).getD 0

/- Entries without the one with the least stamp. -/
def evictOldest (entries : List Entry) : List Entry :=
  entries.eraseP fun entry => entry.stamp =
    leastStamp entries

/-
  Evict until there are no more entries than there may be.
-/
def evict (cache : Cache) : Cache :=
  let excess := cache.entries.length - cache.capacity
  { cache with
    entries := Nat.repeat evictOldest excess cache.entries }

------------------------------------------------------------
-- Steps
------------------------------------------------------------

/- The entry of a text. -/
def find?
    (cache : Cache)
    (text : String) : Option Entry :=
  cache.entries.find? fun entry => entry.text = text

/- Stamp the entry of a text as used last. -/
def touch
    (cache : Cache)
    (text : String) : Cache :=
  let stamp := cache.generation + 1
  { cache with
    generation := stamp
    entries := cache.entries.map fun entry =>
      if entry.text = text then
        { entry with stamp := stamp }
      else entry }

/- Look a text up; what is found counts as used. -/
def get
    (cache : Cache)
    (text : String) : Option Instance × Cache :=
  ((cache.find? text).map Entry.stored, cache.touch text)

/- Compile a text into a new instance. -/
def compileInstance
    (cache : Cache)
    (text : String) : Except Error Instance × Cache :=
  match compile text with
  | .ok template =>
      (.ok ⟨template, cache.instances⟩,
        { cache with instances := cache.instances + 1 })
  | .error e => (.error e, cache)

/-
  Store an instance unless one of the same text is there
  already; give back the one that is shared from now on.
-/
def share
    (cache : Cache)
    (text : String)
    (compiled : Instance) : Instance × Cache :=
  let used := cache.touch text
  match cache.find? text with
  | some entry => (entry.stored, used)
  | none =>
      let entry := ⟨text, compiled, used.generation⟩
      if cache.capacity = 0 then (compiled, used)
      else
        (compiled,
          { used with
            entries := entry :: used.entries }.evict)

/- Look a text up, and compile and store it if need be. -/
def obtain
    (cache : Cache)
    (text : String) : Except Error Instance × Cache :=
  match cache.get text with
  | (some shared, used) => (.ok shared, used)
  | (none, used) =>
      match used.compileInstance text with
      | (.ok compiled, grown) =>
          let (shared, stored) :=
            grown.share text compiled
          (.ok shared, stored)
      | (.error e, grown) => (.error e, grown)

/- Change how many templates may be held. -/
def resize
    (cache : Cache)
    (capacity : Nat) : Cache :=
  { cache with capacity := capacity }.evict

/- Forget all templates. -/
def clear (cache : Cache) : Cache :=
  { cache with entries := [] }

end Cache

end Template

end SqlAccess
