import SqlAccess.Proofs.Template.Order

/-
  This file shows what every store of compiled templates
  has: its entries are in the order of their use, there are
  no more than there may be, and each is what its text
  compiles to.  No operation puts another instance in the
  place of one.

  Key definitions include:
    * `Template.Cache.Sound`
    * `Template.Cache.Inherits`
    * `Template.Cache.Keeps`

  Key theorems include:
    * `Template.Cache.Sound.share`
    * `Template.Cache.keeps_share`
    * `Template.Cache.find?_share`
-/

namespace SqlAccess

namespace Template

namespace Cache

------------------------------------------------------------
-- Sound Stores
------------------------------------------------------------

/-
  What holds of every store: it has an order of use, there
  are no more entries than there may be, and what is stored
  is what the text compiles to.
-/
structure Sound (cache : Cache) : Prop where
  ordered : ∃ ordered, cache.OrderedAs ordered
  fits : cache.size ≤ cache.capacity
  faithful :
    ∀ entry ∈ cache.entries,
      compile entry.text = .ok entry.stored.template

/- Whether a store has nothing that another did not have. -/
def Inherits (later earlier : Cache) : Prop :=
  ∀ entry ∈ later.entries, ∃ old ∈ earlier.entries,
    old.text = entry.text ∧ old.stored = entry.stored

/- Whether what is in both of two stores is the same. -/
def Keeps (earlier later : Cache) : Prop :=
  ∀ text old entry,
    earlier.find? text = some old →
      later.find? text = some entry →
        entry.stored = old.stored

section Inheritance

variable {cache later : Cache} {text : String}

/- A text is found if there is an entry for it. -/
theorem OrderedAs.find?_eq_some_iff
    {ordered : List Entry}
    (hOrdered : cache.OrderedAs ordered)
    {entry : Entry} :
    cache.find? text = some entry ↔
      entry ∈ cache.entries ∧ entry.text = text := by
  refine find?_text_eq_some_iff ?_
  exact (hOrdered.perm.map Entry.text).nodup_iff.2
    hOrdered.texts

/- What was there before and was taken over is the same. -/
theorem Inherits.keeps
    (hInherits : later.Inherits cache)
    (hSound : cache.Sound) :
    cache.Keeps later := by
  intro text old entry hOld hEntry
  rcases hSound.ordered with ⟨ordered, hOrdered⟩
  have hMem := List.mem_of_find?_eq_some hEntry
  rcases hInherits entry hMem with
    ⟨other, hOther, hText, hStored⟩
  have hFound : cache.find? text = some other :=
    hOrdered.find?_eq_some_iff.2
      ⟨hOther, hText.trans (text_of_find? hEntry)⟩
  rw [hOld] at hFound
  cases hFound
  exact hStored.symm

/-
  What a sound store leaves to another one is what its text
  compiles to.
-/
theorem Inherits.faithful
    (hInherits : later.Inherits cache)
    (hSound : cache.Sound) :
    ∀ entry ∈ later.entries,
      compile entry.text = .ok entry.stored.template := by
  intro entry hMem
  rcases hInherits entry hMem with
    ⟨old, hOld, hText, hStored⟩
  rw [← hText, ← hStored]
  exact hSound.faithful old hOld

/- A use adds nothing. -/
theorem inherits_touch
    (cache : Cache)
    (text : String) :
    (cache.touch text).Inherits cache := by
  intro entry hMem
  rcases List.mem_map.1 hMem with ⟨old, hOld, rfl⟩
  refine ⟨old, hOld, ?_⟩
  by_cases hText : old.text = text
  · rw [if_pos hText]
    exact ⟨rfl, rfl⟩
  · rw [if_neg hText]
    exact ⟨rfl, rfl⟩

/- An eviction adds nothing. -/
theorem mem_of_mem_evict
    {ordered : List Entry}
    (hOrdered : cache.OrderedAs ordered)
    {entry : Entry}
    (hMem : entry ∈ cache.evict.entries) :
    entry ∈ cache.entries := by
  have hKept := hOrdered.evict.perm.mem_iff.1 hMem
  exact hOrdered.perm.mem_iff.2 (List.mem_of_mem_take hKept)

/- A shared store has one new entry at most. -/
theorem mem_share
    (hSound : cache.Sound)
    {made : Instance}
    {entry : Entry}
    (hMem : entry ∈ (cache.share text made).2.entries) :
    (∃ old ∈ cache.entries,
        old.text = entry.text ∧
          old.stored = entry.stored) ∨
      (cache.find? text = none ∧ entry.text = text ∧
        entry.stored = made) := by
  rcases hSound.ordered with ⟨ordered, hOrdered⟩
  cases hFind : cache.find? text with
  | some other =>
      rw [share_of_some hFind] at hMem
      exact .inl (inherits_touch cache text entry hMem)
  | none =>
      have hShared :=
        hOrdered.share_of_none hSound.fits hFind made
      have hTaken := hShared.perm.mem_iff.1 hMem
      have hAny := List.mem_of_mem_take hTaken
      rcases List.mem_cons.1 hAny with rfl | hOld
      · exact .inr ⟨rfl, rfl, rfl⟩
      · exact .inl
          ⟨entry, hOrdered.perm.mem_iff.2 hOld, rfl,
            rfl⟩

end Inheritance

------------------------------------------------------------
-- Steps of a Store
------------------------------------------------------------

section Steps

variable {cache : Cache}

/- An empty store is sound. -/
theorem Sound.empty (capacity : Nat) :
    (Cache.empty capacity).Sound :=
  ⟨⟨[], .of_nil rfl⟩, Nat.zero_le _,
    by simp [Cache.empty]⟩

/- A use leaves the entries in some order. -/
theorem OrderedAs.exists_touch
    {ordered : List Entry}
    (hOrdered : cache.OrderedAs ordered)
    (text : String) :
    ∃ used, (cache.touch text).OrderedAs used := by
  cases hFind : cache.find? text with
  | some entry =>
      exact ⟨_, hOrdered.touch_of_some hFind⟩
  | none => exact ⟨_, hOrdered.touch_of_none hFind⟩

/- A use leaves a store sound. -/
theorem Sound.touch
    (hSound : cache.Sound)
    (text : String) : (cache.touch text).Sound := by
  rcases hSound.ordered with ⟨ordered, hOrdered⟩
  refine
    ⟨hOrdered.exists_touch text, ?_,
      (inherits_touch cache text).faithful hSound⟩
  rw [size_touch]
  exact hSound.fits

/- More instances than are stored may have been made. -/
theorem Sound.grow (hSound : cache.Sound) (count : Nat) :
    { cache with instances := count }.Sound := by
  rcases hSound.ordered with ⟨ordered, hOrdered⟩
  exact
    ⟨⟨ordered, hOrdered.of_eq rfl rfl⟩, hSound.fits,
      hSound.faithful⟩

/-
  A store stays sound when an instance of a text is shared.
-/
theorem Sound.share
    (hSound : cache.Sound)
    {text : String}
    {made : Instance}
    (hMade : compile text = .ok made.template) :
    (cache.share text made).2.Sound := by
  rcases hSound.ordered with ⟨ordered, hOrdered⟩
  refine ⟨?_, ?_, ?_⟩
  · cases hFind : cache.find? text with
    | some entry =>
        rw [share_of_some hFind]
        exact hOrdered.exists_touch text
    | none =>
        exact
          ⟨_,
            hOrdered.share_of_none hSound.fits hFind made⟩
  · rw [capacity_share]
    exact size_share_le hOrdered hSound.fits made
  · intro entry hMem
    rcases mem_share hSound hMem with
      ⟨old, hOld, hText, hStored⟩ | ⟨-, rfl, rfl⟩
    · rw [← hText, ← hStored]
      exact hSound.faithful old hOld
    · exact hMade

/- What is given back is what the text compiles to. -/
theorem template_share
    (hSound : cache.Sound)
    {text : String}
    {made : Instance}
    (hMade : compile text = .ok made.template) :
    compile text =
      .ok (cache.share text made).1.template := by
  cases hFind : cache.find? text with
  | some entry =>
      rw [share_of_some hFind, ← text_of_find? hFind]
      exact hSound.faithful entry
        (List.mem_of_find?_eq_some hFind)
  | none =>
      rw [share_of_none hFind]
      exact hMade

/- A store stays sound with another capacity. -/
theorem Sound.resize
    (hSound : cache.Sound)
    (capacity : Nat) : (cache.resize capacity).Sound := by
  rcases hSound.ordered with ⟨ordered, hOrdered⟩
  have hChanged :
      { cache with
        capacity := capacity }.OrderedAs ordered :=
    hOrdered.of_eq rfl rfl
  refine ⟨⟨_, hChanged.evict⟩,
    hChanged.length_evict_le, ?_⟩
  intro entry hMem
  exact hSound.faithful entry
    (mem_of_mem_evict hChanged hMem)

/- A store that is cleared is sound. -/
theorem Sound.clear (cache : Cache) : cache.clear.Sound :=
  ⟨⟨[], .of_nil rfl⟩, Nat.zero_le _,
    by simp [Cache.clear]⟩

/- A compilation leaves a store sound. -/
theorem Sound.compileInstance
    (hSound : cache.Sound)
    (text : String) :
    (cache.compileInstance text).2.Sound := by
  unfold Cache.compileInstance
  split
  · exact hSound.grow _
  · exact hSound

/- What is compiled is a new instance of the template. -/
theorem compileInstance_template
    (cache : Cache)
    (text : String) :
    (cache.compileInstance text).1.map Instance.template =
      compile text := by
  unfold Cache.compileInstance
  split
  · next template hCompile => exact hCompile.symm
  · next e hCompile => exact hCompile.symm

/- Instances are counted upwards. -/
theorem instances_compileInstance_le
    (cache : Cache)
    (text : String) :
    cache.instances ≤
      (cache.compileInstance text).2.instances := by
  unfold Cache.compileInstance
  split
  · exact Nat.le_succ _
  · exact Nat.le_refl _

/- A new instance has the next number. -/
theorem serial_compileInstance
    {text : String}
    {made : Instance}
    (hMade : (cache.compileInstance text).1 = .ok made) :
    made.serial = cache.instances ∧
      cache.instances <
        (cache.compileInstance text).2.instances := by
  unfold Cache.compileInstance at hMade ⊢
  split at hMade
  · cases hMade
    exact ⟨rfl, Nat.lt_succ_self _⟩
  · cases hMade

/- A compilation replaces no instance. -/
theorem keeps_compileInstance
    (hSound : cache.Sound)
    (text : String) :
    cache.Keeps (cache.compileInstance text).2 := by
  refine Inherits.keeps ?_ hSound
  intro entry hMem
  refine ⟨entry, ?_, rfl, rfl⟩
  unfold Cache.compileInstance at hMem
  split at hMem
  · exact hMem
  · exact hMem

/- To share something replaces no instance. -/
theorem keeps_share
    (hSound : cache.Sound)
    (text : String)
    (made : Instance) :
    cache.Keeps (cache.share text made).2 := by
  intro other old entry hOld hEntry
  rcases hSound.ordered with ⟨ordered, hOrdered⟩
  have hOther := text_of_find? hEntry
  have hMem := List.mem_of_find?_eq_some hEntry
  rcases mem_share hSound hMem with
    ⟨earlier, hMem, hText, hStored⟩ |
      ⟨hNone, hText, -⟩
  · have hFound : cache.find? other = some earlier :=
      hOrdered.find?_eq_some_iff.2
        ⟨hMem, hText.trans hOther⟩
    rw [hOld] at hFound
    cases hFound
    exact hStored.symm
  · rw [← hText, hOther, hOld] at hNone
    cases hNone

/- Another capacity replaces no instance. -/
theorem keeps_resize
    (hSound : cache.Sound)
    (capacity : Nat) :
    cache.Keeps (cache.resize capacity) := by
  rcases hSound.ordered with ⟨ordered, hOrdered⟩
  have hChanged :
      { cache with
        capacity := capacity }.OrderedAs ordered :=
    hOrdered.of_eq rfl rfl
  refine Inherits.keeps ?_ hSound
  intro entry hMem
  exact ⟨entry, mem_of_mem_evict hChanged hMem, rfl,
    rfl⟩

/- Where all is removed, nothing is replaced. -/
theorem keeps_clear (cache : Cache) :
    cache.Keeps cache.clear := by
  intro text old entry hOld hEntry
  cases hEntry

/- What is used keeps its instance. -/
theorem find?_touch_of_some
    (hSound : cache.Sound)
    {text : String}
    {entry : Entry}
    (hFind : cache.find? text = some entry) :
    (cache.touch text).find? text =
      some (cache.stamped entry) := by
  rcases hSound.ordered with ⟨ordered, hOrdered⟩
  have hUsed := hOrdered.touch_of_some hFind
  have hText := text_of_find? hFind
  rw [hUsed.find?_eq]
  exact List.find?_cons_of_pos (decide_eq_true hText)

/- What is given back is in a store with room. -/
theorem find?_share
    (hSound : cache.Sound)
    (hCapacity : 0 < cache.capacity)
    (text : String)
    (made : Instance) :
    ∃ entry,
      (cache.share text made).2.find? text = some entry ∧
        entry.stored = (cache.share text made).1 := by
  rcases hSound.ordered with ⟨ordered, hOrdered⟩
  cases hFind : cache.find? text with
  | some entry =>
      rw [share_of_some hFind]
      exact ⟨_, find?_touch_of_some hSound hFind, rfl⟩
  | none =>
      have hShared :=
        hOrdered.share_of_none hSound.fits hFind made
      rcases Nat.exists_eq_add_of_lt hCapacity with
        ⟨room, hRoom⟩
      rw [Nat.zero_add] at hRoom
      rw [hRoom, List.take_succ_cons] at hShared
      rw [share_of_none hFind, hShared.find?_eq]
      refine ⟨_, List.find?_cons_of_pos ?_, rfl⟩
      simp

end Steps

end Cache

end Template

end SqlAccess
