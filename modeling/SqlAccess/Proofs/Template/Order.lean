import Mathlib.Data.List.Nodup
import SqlAccess.Template.Cache

/-
  This file puts the entries of a store of templates in the
  order of their use.  The store keeps them in no order, and
  finds what was used longest ago by its stamp; stamps
  differ and grow, so that this is the end of the ordered
  entries, and evicting cuts them.

  Key definitions include:
    * `Template.Descending`
    * `Template.Cache.OrderedAs`

  Key theorems include:
    * `Template.Cache.evict_perm`
    * `Template.Cache.OrderedAs.evict`
    * `Template.Cache.OrderedAs.touch_of_some`
    * `Template.Cache.OrderedAs.share_of_none`
-/

namespace SqlAccess

namespace Template

------------------------------------------------------------
-- Entries
------------------------------------------------------------

/- Where texts differ, an entry is found by its text. -/
theorem find?_text_eq_some_iff
    {entries : List Entry}
    {text : String}
    {entry : Entry}
    (hTexts : (entries.map Entry.text).Nodup) :
    entries.find? (fun other => other.text = text) =
        some entry ↔
      entry ∈ entries ∧ entry.text = text := by
  induction entries with
  | nil => simp
  | cons first rest ih =>
      rw [List.map_cons, List.nodup_cons] at hTexts
      rcases hTexts with ⟨hFirst, hRest⟩
      by_cases hText : first.text = text
      · have hOther (hMem : entry ∈ rest) :
            entry.text ≠ text := by
          intro hSame
          refine hFirst ?_
          rw [hText, ← hSame]
          exact List.mem_map_of_mem hMem
        grind
      · rw [List.find?_cons_of_neg (by simpa using hText),
          ih hRest]
        grind

/- What is found and what is left make up the entries. -/
theorem perm_of_find?
    {entries : List Entry}
    {text : String}
    {entry : Entry}
    (hSome :
      entries.find? (fun other => other.text = text) =
        some entry) :
    entries.Perm
      (entry ::
        entries.eraseP fun other => other.text = text) := by
  rcases List.find?_eq_some_iff_append.1 hSome with
    ⟨hText, front, back, rfl, hFront⟩
  have hHere :
      (entry :: back).eraseP
          (fun other => other.text = text) = back :=
    List.eraseP_cons_of_pos hText
  rw [List.eraseP_append_right _ (by simpa using hFront),
    hHere]
  exact List.perm_middle

------------------------------------------------------------
-- Eviction
------------------------------------------------------------

/- Whether each entry was used after the ones behind it. -/
def Descending (ordered : List Entry) : Prop :=
  ordered.Pairwise fun newer older =>
    older.stamp < newer.stamp

namespace Cache

/- The least stamp is that of the entry at the end. -/
theorem leastStamp_eq
    {entries front : List Entry}
    {last : Entry}
    (hPerm : entries.Perm (front ++ [last]))
    (hStamps : Descending (front ++ [last])) :
    leastStamp entries = last.stamp := by
  have hNewer := (List.pairwise_append.1 hStamps).2.2
  have hLast :
      (entries.map Entry.stamp).min? = some last.stamp := by
    rw [List.min?_eq_some_iff]
    constructor
    · refine List.mem_map_of_mem (hPerm.mem_iff.2 ?_)
      simp
    · intro stamp hStamp
      rcases List.mem_map.1 hStamp with
        ⟨entry, hMem, rfl⟩
      rcases List.mem_append.1 (hPerm.mem_iff.1 hMem) with
        hFront | hEnd
      · have hLess := hNewer entry hFront last (by simp)
        omega
      · have hSame := List.mem_singleton.1 hEnd
        exact Nat.le_of_eq (congrArg Entry.stamp hSame.symm)
  rw [leastStamp, hLast]
  rfl

/-
  What is evicted is the entry at the end.  Stamps differ,
  so that only one entry can be meant.
-/
theorem evictOldest_perm
    {entries ordered : List Entry}
    (hPerm : entries.Perm ordered)
    (hStamps : Descending ordered) :
    (evictOldest entries).Perm ordered.dropLast := by
  rcases List.eq_nil_or_concat ordered with
    rfl | ⟨front, last, rfl⟩
  · rw [List.perm_nil.1 hPerm]
    exact .refl _
  · rw [List.concat_eq_append] at hPerm hStamps ⊢
    have hNewer := (List.pairwise_append.1 hStamps).2.2
    have hLeast := leastStamp_eq hPerm hStamps
    let isLast (entry : Entry) : Bool :=
      entry.stamp = last.stamp
    have hUnique :
        (front ++ [last]).Pairwise fun newer older =>
          isLast newer → isLast older → False := by
      refine hStamps.imp ?_
      intro newer older hLess hFirst hSecond
      simp only [isLast, decide_eq_true_eq]
        at hFirst hSecond
      omega
    have hErase :
        (front ++ [last]).eraseP isLast = front := by
      rw [List.eraseP_append_right]
      · simp [isLast]
      · intro entry hMem
        have hLess := hNewer entry hMem last (by simp)
        simp only [isLast, decide_eq_true_eq]
        omega
    rw [evictOldest, hLeast, List.dropLast_concat]
    have hErased := hPerm.symm.eraseP isLast hUnique
    rw [hErase] at hErased
    exact hErased.symm

/- Evicting leaves what is in front. -/
theorem evict_perm
    {cache : Cache}
    {ordered : List Entry}
    (hPerm : cache.entries.Perm ordered)
    (hStamps : Descending ordered) :
    cache.evict.entries.Perm
      (ordered.take cache.capacity) := by
  have hRepeat (excess : Nat) :
      (Nat.repeat evictOldest excess cache.entries).Perm
        (ordered.take (ordered.length - excess)) := by
    induction excess with
    | zero => simpa [Nat.repeat] using hPerm
    | succ excess ih =>
        have hOne :=
          evictOldest_perm ih
            (hStamps.sublist (List.take_sublist _ _))
        have hTake :
            (ordered.take
                (ordered.length - excess)).dropLast =
              ordered.take
                (ordered.length - (excess + 1)) := by
          rw [List.dropLast_eq_take, List.take_take,
            List.length_take]
          congr 1
          omega
        rw [hTake] at hOne
        exact hOne
  have hExcess :=
    hRepeat (cache.entries.length - cache.capacity)
  have hTake :
      ordered.take
          (ordered.length -
            (cache.entries.length - cache.capacity)) =
        ordered.take cache.capacity := by
    rw [List.take_eq_take_iff, hPerm.length_eq]
    omega
  rw [hTake] at hExcess
  exact hExcess

------------------------------------------------------------
-- Stores and Their Order
------------------------------------------------------------

/-
  Whether a list has the entries of a store in the order of
  use: the stamps descend and were given out, and no text
  stands there twice.
-/
structure OrderedAs
    (cache : Cache)
    (ordered : List Entry) : Prop where
  perm : cache.entries.Perm ordered
  stamps : Descending ordered
  texts : (ordered.map Entry.text).Nodup
  given : ∀ entry ∈ ordered,
    entry.stamp ≤ cache.generation

/- The entry of a text with the next stamp. -/
def stamped
    (cache : Cache)
    (entry : Entry) : Entry :=
  { entry with stamp := cache.generation + 1 }

/- What is found for a text is stored for it. -/
theorem text_of_find?
    {cache : Cache}
    {text : String}
    {entry : Entry}
    (hFind : cache.find? text = some entry) :
    entry.text = text := by
  simpa using List.find?_some hFind

/- A use stores and removes nothing. -/
theorem size_touch
    (cache : Cache)
    (text : String) :
    (cache.touch text).size = cache.size :=
  List.length_map _

/- What a use of a text makes of an entry. -/
def use
    (cache : Cache)
    (text : String)
    (entry : Entry) : Entry :=
  if entry.text = text then cache.stamped entry else entry

/- A use of a text that is not there changes no entry. -/
theorem map_use_of_ne
    (cache : Cache)
    {text : String}
    {entries : List Entry}
    (hTexts : ∀ entry ∈ entries, entry.text ≠ text) :
    entries.map (cache.use text) = entries := by
  refine (List.map_congr_left ?_).trans (List.map_id _)
  intro entry hMem
  exact if_neg (hTexts entry hMem)

/- A use of what is not there changes no entry. -/
theorem entries_touch_of_none
    {cache : Cache}
    {text : String}
    (hNone : cache.find? text = none) :
    (cache.touch text).entries = cache.entries := by
  refine cache.map_use_of_ne ?_
  simpa [find?] using hNone

namespace OrderedAs

/- No entries are in order. -/
theorem of_nil
    {cache : Cache}
    (hNil : cache.entries = []) : cache.OrderedAs [] := by
  refine ⟨?_, .nil, .nil, by simp⟩
  rw [hNil]

variable {cache : Cache} {ordered : List Entry}

/-
  The order is one of the entries and the last stamp only.
-/
theorem of_eq
    (hOrdered : cache.OrderedAs ordered)
    {other : Cache}
    (hEntries : other.entries = cache.entries)
    (hStamp : other.generation = cache.generation) :
    other.OrderedAs ordered where
  perm := hEntries ▸ hOrdered.perm
  stamps := hOrdered.stamps
  texts := hOrdered.texts
  given := hStamp ▸ hOrdered.given

/- A store finds what its ordered entries have. -/
theorem find?_eq
    (hOrdered : cache.OrderedAs ordered)
    (text : String) :
    cache.find? text =
      ordered.find? fun entry => entry.text = text := by
  have hTexts :
      (cache.entries.map Entry.text).Nodup :=
    (hOrdered.perm.map Entry.text).nodup_iff.2
      hOrdered.texts
  refine Option.ext ?_
  intro entry
  rw [find?, find?_text_eq_some_iff hTexts,
    find?_text_eq_some_iff hOrdered.texts,
    hOrdered.perm.mem_iff]

/- Evicting cuts the list. -/
theorem evict (hOrdered : cache.OrderedAs ordered) :
    cache.evict.OrderedAs
      (ordered.take cache.capacity) where
  perm := evict_perm hOrdered.perm hOrdered.stamps
  stamps := hOrdered.stamps.sublist (List.take_sublist _ _)
  texts :=
    hOrdered.texts.sublist ((List.take_sublist _ _).map _)
  given := fun entry hMem =>
    hOrdered.given entry (List.mem_of_mem_take hMem)

/- A use of what is not there keeps the order. -/
theorem touch_of_none
    (hOrdered : cache.OrderedAs ordered)
    {text : String}
    (hNone : cache.find? text = none) :
    (cache.touch text).OrderedAs ordered := by
  refine ⟨?_, hOrdered.stamps, hOrdered.texts, ?_⟩
  · rw [entries_touch_of_none hNone]
    exact hOrdered.perm
  · intro entry hMem
    exact Nat.le_succ_of_le (hOrdered.given entry hMem)

/-
  A use of what is there moves it to the front.  Texts
  differ, so that no other entry is stamped.
-/
theorem touch_of_some
    (hOrdered : cache.OrderedAs ordered)
    {text : String}
    {entry : Entry}
    (hSome : cache.find? text = some entry) :
    (cache.touch text).OrderedAs
      (cache.stamped entry ::
        ordered.eraseP fun other => other.text = text) := by
  have hText := text_of_find? hSome
  rw [hOrdered.find?_eq] at hSome
  have hMove := perm_of_find? hSome
  have hTexts :=
    (hMove.map Entry.text).nodup_iff.1 hOrdered.texts
  have hOthers :
      ∀ other ∈
          ordered.eraseP fun other => other.text = text,
        other.text ≠ text := by
    intro other hMem hOther
    have hBoth := hOther.trans hText.symm
    exact (List.nodup_cons.1 hTexts).1
      (List.mem_map.2 ⟨other, hMem, hBoth⟩)
  refine ⟨?_, ?_, hTexts, ?_⟩
  · have hMap :=
      (hOrdered.perm.trans hMove).map (cache.use text)
    rw [List.map_cons, cache.map_use_of_ne hOthers, use,
      if_pos hText] at hMap
    exact hMap
  · refine
      .cons ?_ (hOrdered.stamps.sublist List.eraseP_sublist)
    intro other hMem
    have hGiven :=
      hOrdered.given other (List.mem_of_mem_eraseP hMem)
    exact Nat.lt_succ_of_le hGiven
  · intro other hMem
    rcases List.mem_cons.1 hMem with rfl | hMem
    · exact Nat.le_refl _
    · have hGiven :=
        hOrdered.given other (List.mem_of_mem_eraseP hMem)
      exact Nat.le_succ_of_le hGiven

/- A new entry with the next stamp is in front. -/
theorem cons
    (hOrdered : cache.OrderedAs ordered)
    {text : String}
    (hNone : cache.find? text = none)
    (stored : Instance) :
    { cache.touch text with
      entries :=
        ⟨text, stored, cache.generation + 1⟩ ::
          (cache.touch text).entries }.OrderedAs
      (⟨text, stored, cache.generation + 1⟩ ::
        ordered) := by
  have hTouched := hOrdered.touch_of_none hNone
  refine ⟨hTouched.perm.cons _, ?_, ?_, ?_⟩
  · refine .cons ?_ hOrdered.stamps
    intro other hMem
    exact Nat.lt_succ_of_le (hOrdered.given other hMem)
  · rw [List.map_cons, List.nodup_cons]
    refine ⟨?_, hOrdered.texts⟩
    intro hMem
    rcases List.mem_map.1 hMem with ⟨other, hMem, hText⟩
    rw [hOrdered.find?_eq, List.find?_eq_none] at hNone
    exact hNone other hMem (by simpa using hText)
  · intro other hMem
    rcases List.mem_cons.1 hMem with rfl | hMem
    · exact Nat.le_refl _
    · exact Nat.le_succ_of_le (hOrdered.given other hMem)

/- There are as many ordered entries as stored ones. -/
theorem length_eq (hOrdered : cache.OrderedAs ordered) :
    ordered.length = cache.size :=
  hOrdered.perm.length_eq.symm

/- After an eviction, the store fits its capacity. -/
theorem length_evict_le
    (hOrdered : cache.OrderedAs ordered) :
    cache.evict.size ≤ cache.capacity := by
  rw [← hOrdered.evict.length_eq, List.length_take]
  exact Nat.min_le_left _ _

end OrderedAs

section Sharing

variable {cache : Cache} {ordered : List Entry}
variable {text : String}

/- A text that is there is shared as it is stored. -/
theorem share_of_some
    {entry : Entry}
    (hSome : cache.find? text = some entry)
    (compiled : Instance) :
    cache.share text compiled =
      (entry.stored, cache.touch text) := by
  simp only [share, hSome]

/- An instance that is not there yet is given back. -/
theorem share_of_none
    (hNone : cache.find? text = none)
    (compiled : Instance) :
    (cache.share text compiled).1 = compiled := by
  simp only [share, hNone]
  split
  · rfl
  · rfl

/- It is put in front, and the list is cut. -/
theorem OrderedAs.share_of_none
    (hOrdered : cache.OrderedAs ordered)
    (hFits : cache.size ≤ cache.capacity)
    (hNone : cache.find? text = none)
    (compiled : Instance) :
    (cache.share text compiled).2.OrderedAs
      ((⟨text, compiled, cache.generation + 1⟩ ::
        ordered).take cache.capacity) := by
  by_cases hCapacity : cache.capacity = 0
  · have hLength := hOrdered.length_eq
    have hNil : ordered = [] := by
      refine List.eq_nil_of_length_eq_zero ?_
      omega
    subst hNil
    simp only [share, hNone, if_pos hCapacity]
    rw [hCapacity]
    exact hOrdered.touch_of_none hNone
  · simp only [share, hNone, if_neg hCapacity]
    exact (hOrdered.cons hNone compiled).evict

/- Sharing keeps to what may be held. -/
theorem size_share_le
    (hOrdered : cache.OrderedAs ordered)
    (hFits : cache.size ≤ cache.capacity)
    (compiled : Instance) :
    (cache.share text compiled).2.size ≤
      cache.capacity := by
  cases hFind : cache.find? text with
  | some entry =>
      rw [share_of_some hFind, size_touch]
      exact hFits
  | none =>
      have hShared :=
        hOrdered.share_of_none hFits hFind compiled
      rw [← hShared.length_eq, List.length_take]
      exact Nat.min_le_left _ _

/- To share something leaves the capacity. -/
theorem capacity_share (compiled : Instance) :
    (cache.share text compiled).2.capacity =
      cache.capacity := by
  unfold share
  grind [touch, Cache.evict]

/- To share something makes no instance. -/
theorem instances_share (compiled : Instance) :
    (cache.share text compiled).2.instances =
      cache.instances := by
  unfold share
  grind [touch, Cache.evict]

/- A text that does not compile makes no instance. -/
theorem compileInstance_of_error
    (cache : Cache)
    {e : Error}
    (hCompile : compile text = .error e) :
    cache.compileInstance text = (.error e, cache) := by
  simp only [compileInstance, hCompile]

/- A text that compiles makes the next instance. -/
theorem compileInstance_of_ok
    (cache : Cache)
    {template : Template}
    (hCompile : compile text = .ok template) :
    cache.compileInstance text =
      (.ok ⟨template, cache.instances⟩,
        { cache with
          instances := cache.instances + 1 }) := by
  simp only [compileInstance, hCompile]

/- Obtaining is a hit, a failure, or sharing what is new. -/
theorem obtain_of_some
    {entry : Entry}
    (hSome : cache.find? text = some entry) :
    cache.obtain text =
      (.ok entry.stored, cache.touch text) := by
  simp only [obtain, get, hSome, Option.map_some]

/- A text that does not compile is not stored. -/
theorem obtain_of_error
    {e : Error}
    (hNone : cache.find? text = none)
    (hFailed :
      ((cache.touch text).compileInstance text).1 =
        .error e) :
    cache.obtain text =
      (.error e,
        ((cache.touch text).compileInstance text).2) := by
  simp only [obtain, get, hNone, Option.map_none]
  rcases hResult :
      (cache.touch text).compileInstance text with
    ⟨result, grown⟩
  rw [hResult] at hFailed
  subst hFailed
  rfl

/- A text that is not there is compiled and then shared. -/
theorem obtain_of_ok
    {made : Instance}
    (hNone : cache.find? text = none)
    (hMade :
      ((cache.touch text).compileInstance text).1 =
        .ok made) :
    cache.obtain text =
      (let grown :=
        ((cache.touch text).compileInstance text).2
      (.ok (grown.share text made).1,
        (grown.share text made).2)) := by
  simp only [obtain, get, hNone, Option.map_none]
  rcases hResult :
      (cache.touch text).compileInstance text with
    ⟨result, grown⟩
  rw [hResult] at hMade
  subst hMade
  rfl

end Sharing

end Cache

end Template

end SqlAccess
