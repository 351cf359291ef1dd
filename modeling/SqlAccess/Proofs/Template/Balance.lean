import Mathlib.Data.List.Induction
import SqlAccess.Template.Forest

/-
  This file says when the delimiters of blocks are balanced,
  and which of them is to blame if they are not: the first
  closing one that has none to close, or else the innermost
  opening one that is not closed.  The scan finds it.

  Key definitions include:
    * `Delimiter`
    * `Delimiter.Balanced`
    * `Delimiter.Closes`
    * `Delimiter.IsClosed`
    * `Delimiter.Unmatched`
    * `Delimiter.Unclosed`
    * `Delimiter.Leaves`

  Key theorems include:
    * `Delimiter.exists_leaves_or`
    * `Delimiter.imbalance?_leaves`
    * `Delimiter.blame?_eq_none_iff`
    * `Delimiter.blame?_eq_unmatched_iff`
    * `Delimiter.blame?_eq_unclosed_iff`
    * `Delimiter.verdict_cases`
-/

namespace SqlAccess

------------------------------------------------------------
-- Delimiters
------------------------------------------------------------

/- A delimiter of a block, with its offset in bytes. -/
inductive Delimiter
  | opening (offset : Nat)
  | closing (offset : Nat)
deriving DecidableEq, Repr

namespace Delimiter

/- The token that a delimiter is. -/
def token : Delimiter → Token
  | opening offset => .opening offset
  | closing offset => .closing offset

/- The delimiter that a token is, if it is one. -/
def ofToken? : Token → Option Delimiter
  | .opening offset => some (opening offset)
  | .closing offset => some (closing offset)
  | _ => none

------------------------------------------------------------
-- Balance
------------------------------------------------------------

/-
  Delimiters in pairs: an opening one, what is in the block,
  and the closing one.
-/
inductive Balanced : List Delimiter → Prop
  | nil : Balanced []
  | pair {first last inner rest}
      (hInner : Balanced inner)
      (hRest : Balanced rest) :
      Balanced
        (opening first :: inner ++ closing last :: rest)

/-
  Whether a closing delimiter has one to close in what
  stands before it: an opening one, with whole blocks
  between them.
-/
def Closes (before : List Delimiter) : Prop :=
  ∃ outer first inner,
    before = outer ++ opening first :: inner ∧
      Balanced inner

/-
  Whether an opening delimiter is closed in what stands
  after it: by a closing one, with whole blocks between
  them.
-/
def IsClosed (after : List Delimiter) : Prop :=
  ∃ inner last outer,
    after = inner ++ closing last :: outer ∧
      Balanced inner

/- Whether every closing delimiter has one to close. -/
def AllClose (delimiters : List Delimiter) : Prop :=
  ∀ before last after,
    delimiters = before ++ closing last :: after →
      Closes before

/- Whether every opening delimiter is closed. -/
def AllClosed (delimiters : List Delimiter) : Prop :=
  ∀ before first after,
    delimiters = before ++ opening first :: after →
      IsClosed after

/-
  The first closing delimiter that has none to close stands
  at an offset.
-/
def Unmatched
    (delimiters : List Delimiter)
    (offset : Nat) : Prop :=
  ∃ before after,
    delimiters = before ++ closing offset :: after ∧
      AllClose before ∧
      ¬ Closes before

/-
  The innermost opening delimiter that is not closed stands
  at an offset, and no closing one has none to close.
-/
def Unclosed
    (delimiters : List Delimiter)
    (offset : Nat) : Prop :=
  AllClose delimiters ∧
    ∃ before after,
      delimiters = before ++ opening offset :: after ∧
        AllClosed after ∧
        ¬ IsClosed after

/- Balanced delimiters stay so one after the other. -/
theorem Balanced.append
    {front back : List Delimiter}
    (hFront : Balanced front)
    (hBack : Balanced back) :
    Balanced (front ++ back) := by
  induction hFront with
  | nil => exact hBack
  | @pair first last inner rest hInner hRest _ ih =>
      rw [List.append_assoc, List.cons_append]
      exact .pair hInner ih

------------------------------------------------------------
-- Open Blocks
------------------------------------------------------------

/-
  The blocks that delimiters leave open, given by where they
  start, the innermost one first: whole blocks stand in
  front of the first opening delimiter and behind each of
  them.
-/
inductive Leaves : List Delimiter → List Nat → Prop
  | none {delimiters}
      (hAll : Balanced delimiters) :
      Leaves delimiters []
  | some {before first inner opened}
      (hBefore : Leaves before opened)
      (hInner : Balanced inner) :
      Leaves (before ++ opening first :: inner)
        (first :: opened)

/- Whole blocks leave the same blocks open. -/
theorem Leaves.balanced
    {front back : List Delimiter}
    {opened : List Nat}
    (hFront : Leaves front opened)
    (hBack : Balanced back) :
    Leaves (front ++ back) opened := by
  cases hFront with
  | none hAll => exact .none (hAll.append hBack)
  | some hBefore hInner =>
      rw [List.append_assoc, List.cons_append]
      exact .some hBefore (hInner.append hBack)

/-
  What is left open behind other delimiters adds to them.
-/
theorem Leaves.append
    {front back : List Delimiter}
    {opened more : List Nat}
    (hFront : Leaves front opened)
    (hBack : Leaves back more) :
    Leaves (front ++ back) (more ++ opened) := by
  induction hBack with
  | none hAll => exact hFront.balanced hAll
  | some hBefore hInner ih =>
      rw [← List.append_assoc, List.cons_append]
      exact .some ih hInner

/-
  Delimiters leave blocks open, if none of them closes what
  is not there.
-/
theorem exists_leaves_or (delimiters : List Delimiter) :
    (∃ opened, Leaves delimiters opened) ∨
      ∃ before last after,
        delimiters = before ++ closing last :: after ∧
          Balanced before := by
  induction delimiters using List.reverseRecOn with
  | nil => exact .inl ⟨[], .none .nil⟩
  | append_singleton delimiters final ih =>
      rcases ih with
        ⟨opened, hLeaves⟩ |
          ⟨before, last, after, rfl, hBefore⟩
      · cases final with
        | opening first =>
            exact .inl
              ⟨first :: opened, .some hLeaves .nil⟩
        | closing last =>
            cases hLeaves with
            | none hAll =>
                exact .inr
                  ⟨delimiters, last, [], rfl, hAll⟩
            | @some before first inner opened hBefore
              hInner =>
                have hPair :
                    Balanced
                      (opening first :: inner ++
                        [closing last]) :=
                  .pair hInner .nil
                have hWhole := hBefore.balanced hPair
                rw [← List.append_assoc] at hWhole
                exact .inl ⟨opened, hWhole⟩
      · refine .inr
          ⟨before, last, after ++ [final], ?_, hBefore⟩
        simp

------------------------------------------------------------
-- Scanning
------------------------------------------------------------

section Scanning

variable {delimiters : List Delimiter}

/- Whole blocks leave the open ones as they are. -/
theorem imbalance?_balanced
    (hAll : Balanced delimiters)
    (opened : List Nat)
    (tokens : List Token) :
    Forest.imbalance? opened
        (delimiters.map token ++ tokens) =
      Forest.imbalance? opened tokens := by
  induction hAll generalizing opened tokens with
  | nil => rfl
  | @pair first last inner rest hInner hRest ihInner
    ihRest =>
      have hInside :=
        ihInner (first :: opened)
          (.closing last :: (rest.map token ++ tokens))
      simp only [List.map_append, List.map_cons, token,
        List.cons_append, List.append_assoc,
        Forest.imbalance?, hInside]
      exact ihRest opened tokens

/- The blocks that are left open are open from there on. -/
theorem imbalance?_leaves
    {more : List Nat}
    (hLeaves : Leaves delimiters more)
    (opened : List Nat)
    (tokens : List Token) :
    Forest.imbalance? opened
        (delimiters.map token ++ tokens) =
      Forest.imbalance? (more ++ opened) tokens := by
  induction hLeaves generalizing tokens with
  | none hAll =>
      exact imbalance?_balanced hAll opened tokens
  | @some before first inner further hBefore hInner ih =>
      have hFurther :=
        ih (.opening first :: (inner.map token ++ tokens))
      simp only [List.map_append, List.map_cons, token,
        List.append_assoc, List.cons_append, hFurther,
        Forest.imbalance?]
      exact imbalance?_balanced hInner _ tokens

/- Only delimiters matter for the balance of tokens. -/
theorem imbalance?_eq
    (opened : List Nat)
    (tokens : List Token) :
    Forest.imbalance? opened tokens =
      Forest.imbalance? opened
        ((tokens.filterMap ofToken?).map token) := by
  induction tokens generalizing opened with
  | nil => rfl
  | cons first rest ih =>
      cases first with
      | opening place => exact ih (place :: opened)
      | closing place =>
          cases opened with
          | nil => rfl
          | cons inner outer => exact ih outer
      | _ => exact ih opened

/-
  The first fault of delimiters with no blocks around them.
-/
def blame? (delimiters : List Delimiter) :
    Option SyntaxFault :=
  Forest.imbalance? [] (delimiters.map token)

/- The innermost block that is left open is to blame. -/
theorem blame?_of_leaves
    {opened : List Nat}
    (hLeaves : Leaves delimiters opened) :
    blame? delimiters = opened.head?.map .unclosed := by
  have hScan := imbalance?_leaves hLeaves [] []
  rw [List.append_nil, List.append_nil] at hScan
  exact hScan

/- Nobody is to blame where all is balanced. -/
theorem blame?_of_balanced
    (hAll : Balanced delimiters) :
    blame? delimiters = none :=
  blame?_of_leaves (.none hAll)

/- What closes nothing behind whole blocks is to blame. -/
theorem blame?_of_unmatched
    {before after : List Delimiter}
    {last : Nat}
    (hBefore : Balanced before)
    (hAll : delimiters = before ++ closing last :: after) :
    blame? delimiters = some (.unmatched last) := by
  have hScan :=
    imbalance?_balanced hBefore []
      (.closing last :: after.map token)
  rw [blame?, hAll, List.map_append, List.map_cons, token,
    hScan]
  rfl

/-
  Where nothing is unmatched, any first part of the
  delimiters leaves blocks open.
-/
theorem exists_leaves_of_blame?
    {front back : List Delimiter}
    (hBlame :
      ∀ place,
        blame? (front ++ back) ≠
          some (.unmatched place)) :
    ∃ opened, Leaves front opened := by
  rcases exists_leaves_or front with
    hLeaves | ⟨before, place, after, rfl, hBefore⟩
  · exact hLeaves
  · have hFault :
        blame? (before ++ closing place :: after ++ back) =
          some (.unmatched place) :=
      blame?_of_unmatched hBefore (List.append_assoc _ _ _)
    exact absurd hFault (hBlame place)

------------------------------------------------------------
-- Partners
------------------------------------------------------------

/-
  Where a delimiter is left open, all closing ones have
  partners.
-/
theorem closes_of_leaves
    {first : Nat}
    {opened : List Nat}
    (hLeaves : Leaves delimiters (first :: opened)) :
    Closes delimiters := by
  cases hLeaves with
  | some hBefore hInner => exact ⟨_, _, _, rfl, hInner⟩

/-
  Where nothing is unmatched, all that closes has a block.
-/
theorem allClose_of_blame?
    (hBlame :
      ∀ place,
        blame? delimiters ≠ some (.unmatched place)) :
    AllClose delimiters := by
  rintro before last after rfl
  rcases exists_leaves_of_blame? hBlame with
    ⟨opened, hLeaves⟩
  cases opened with
  | nil =>
      cases hLeaves with
      | none hBefore =>
          exact absurd (blame?_of_unmatched hBefore rfl)
            (hBlame last)
  | cons first opened => exact closes_of_leaves hLeaves

section Balance

variable (hAll : Balanced delimiters)
include hAll

/- No fault blames what is balanced. -/
theorem Balanced.blame?_ne (fault : SyntaxFault) :
    blame? delimiters ≠ some fault := by
  simp [blame?_of_balanced hAll]

/- Where all is balanced, all that closes has a partner. -/
theorem Balanced.allClose : AllClose delimiters :=
  allClose_of_blame? fun _ => hAll.blame?_ne _

/- Whole blocks have nothing to close behind them. -/
theorem Balanced.not_closes : ¬ Closes delimiters := by
  rintro ⟨outer, first, inner, rfl, hInner⟩
  rcases exists_leaves_of_blame? fun _ =>
    hAll.blame?_ne _ with
    ⟨opened, hLeaves⟩
  exact hAll.blame?_ne (.unclosed first)
    (blame?_of_leaves (.some hLeaves hInner))

/- Whole blocks close nothing in front of them. -/
theorem Balanced.not_isClosed : ¬ IsClosed delimiters := by
  rintro ⟨inner, last, outer, hSplit, hInner⟩
  exact hAll.blame?_ne (.unmatched last)
    (blame?_of_unmatched hInner hSplit)

/- Where all is balanced, all that opens has a partner. -/
theorem Balanced.allClosed : AllClosed delimiters := by
  rintro before first after rfl
  rcases exists_leaves_or after with
    ⟨inside, hAfter⟩ |
      ⟨inner, last, outer, hSplit, hInner⟩
  · rcases exists_leaves_of_blame? fun _ =>
      hAll.blame?_ne _
      with ⟨opened, hBefore⟩
    have hOpened :
        Leaves (before ++ [opening first])
          (first :: opened) :=
      .some hBefore .nil
    have hLeaves := hOpened.append hAfter
    rw [List.append_assoc, List.singleton_append] at hLeaves
    have hBlame := blame?_of_leaves hLeaves
    rw [blame?_of_balanced hAll] at hBlame
    cases inside <;> cases hBlame
  · exact ⟨inner, last, outer, hSplit, hInner⟩

end Balance

/-
  Delimiters are whole blocks, if all that closes has a
  block and no block is open at the end.
-/
theorem balanced_iff_not_closes :
    Balanced delimiters ↔
      AllClose delimiters ∧ ¬ Closes delimiters := by
  constructor
  · intro hAll
    exact ⟨hAll.allClose, hAll.not_closes⟩
  · rintro ⟨hClose, hNot⟩
    rcases exists_leaves_or delimiters with
      ⟨opened, hLeaves⟩ |
        ⟨before, last, after, hSplit, hBefore⟩
    · cases opened with
      | nil =>
          cases hLeaves with
          | none hAll => exact hAll
      | cons first opened =>
          exact absurd (closes_of_leaves hLeaves) hNot
    · exact absurd (hClose before last after hSplit)
        hBefore.not_closes

/- The same, seen from behind. -/
theorem balanced_iff_not_isClosed :
    Balanced delimiters ↔
      AllClosed delimiters ∧ ¬ IsClosed delimiters := by
  constructor
  · intro hAll
    exact ⟨hAll.allClosed, hAll.not_isClosed⟩
  · rintro ⟨hClosed, hNot⟩
    rcases exists_leaves_or delimiters with
      ⟨opened, hLeaves⟩ |
        ⟨before, last, after, hSplit, hBefore⟩
    · cases hLeaves with
      | none hAll => exact hAll
      | @some before first inner opened hBefore hInner =>
          exact absurd (hClosed before first inner rfl)
            hInner.not_isClosed
    · exact absurd
        ⟨before, last, after, hSplit, hBefore⟩ hNot

------------------------------------------------------------
-- Blame
------------------------------------------------------------

/- The scan finds nothing if and only if all is balanced. -/
theorem blame?_eq_none_iff :
    blame? delimiters = none ↔ Balanced delimiters := by
  constructor
  · intro hNone
    rcases exists_leaves_or delimiters with
      ⟨opened, hLeaves⟩ |
        ⟨before, last, after, hSplit, hBefore⟩
    · rw [blame?_of_leaves hLeaves] at hNone
      cases hLeaves with
      | none hAll => exact hAll
      | some hBefore hInner => cases hNone
    · rw [blame?_of_unmatched hBefore hSplit] at hNone
      cases hNone
  · exact blame?_of_balanced

/-
  The scan finds the first delimiter that closes nothing.
-/
theorem blame?_eq_unmatched_iff {offset : Nat} :
    blame? delimiters = some (.unmatched offset) ↔
      Unmatched delimiters offset := by
  constructor
  · intro hBlame
    rcases exists_leaves_or delimiters with
      ⟨opened, hLeaves⟩ |
        ⟨before, last, after, hSplit, hBefore⟩
    · rw [blame?_of_leaves hLeaves] at hBlame
      cases opened <;> cases hBlame
    · rw [blame?_of_unmatched hBefore hSplit] at hBlame
      cases hBlame
      exact ⟨before, after, hSplit,
        balanced_iff_not_closes.1 hBefore⟩
  · rintro ⟨before, after, hSplit, hBefore⟩
    exact blame?_of_unmatched
      (balanced_iff_not_closes.2 hBefore) hSplit

/- Or else it finds the innermost one that is not closed. -/
theorem blame?_eq_unclosed_iff {offset : Nat} :
    blame? delimiters = some (.unclosed offset) ↔
      Unclosed delimiters offset := by
  constructor
  · intro hBlame
    refine ⟨allClose_of_blame? (by simp [hBlame]), ?_⟩
    rcases exists_leaves_or delimiters with
      ⟨opened, hLeaves⟩ |
        ⟨before, last, after, hSplit, hBefore⟩
    · rw [blame?_of_leaves hLeaves] at hBlame
      cases hLeaves with
      | none hAll => cases hBlame
      | @some before first inner opened hBefore hInner =>
          cases hBlame
          exact ⟨before, inner, rfl,
            balanced_iff_not_isClosed.1 hInner⟩
    · rw [blame?_of_unmatched hBefore hSplit] at hBlame
      cases hBlame
  · rintro ⟨hClose, before, after, rfl, hAfter⟩
    have hInner := balanced_iff_not_isClosed.2 hAfter
    rcases exists_leaves_or before with
      ⟨opened, hBefore⟩ |
        ⟨front, last, back, rfl, hFront⟩
    · exact blame?_of_leaves (.some hBefore hInner)
    · have hCloses :=
        hClose front last (back ++ opening offset :: after)
          (List.append_assoc _ _ _)
      exact absurd hCloses hFront.not_closes

/- There is always one of these three verdicts. -/
theorem verdict_cases (delimiters : List Delimiter) :
    Balanced delimiters ∨
      (∃ offset, Unmatched delimiters offset) ∨
      ∃ offset, Unclosed delimiters offset := by
  rcases exists_leaves_or delimiters with
    ⟨opened, hLeaves⟩ |
      ⟨before, last, after, hSplit, hBefore⟩
  · have hBlame := blame?_of_leaves hLeaves
    cases opened with
    | nil => exact .inl (blame?_eq_none_iff.1 hBlame)
    | cons first opened =>
        exact .inr
          (.inr
            ⟨first, blame?_eq_unclosed_iff.1 hBlame⟩)
  · have hBlame := blame?_of_unmatched hBefore hSplit
    exact .inr
      (.inl ⟨last, blame?_eq_unmatched_iff.1 hBlame⟩)

/- One is unmatched, unless all that closes has a block. -/
theorem exists_unmatched_iff :
    (∃ offset, Unmatched delimiters offset) ↔
      ¬ AllClose delimiters := by
  constructor
  · rintro ⟨offset, before, after, hSplit, -, hNot⟩
      hClose
    exact hNot (hClose before offset after hSplit)
  · intro hNot
    rcases verdict_cases delimiters with
      hAll | hUnmatched | ⟨offset, hClose, -⟩
    · exact absurd hAll.allClose hNot
    · exact hUnmatched
    · exact absurd hClose hNot

/- Else one is unclosed, unless all is balanced. -/
theorem exists_unclosed_iff :
    (∃ offset, Unclosed delimiters offset) ↔
      AllClose delimiters ∧ ¬ Balanced delimiters := by
  constructor
  · rintro ⟨offset, hUnclosed⟩
    refine ⟨hUnclosed.1, fun hAll => ?_⟩
    exact hAll.blame?_ne _
      (blame?_eq_unclosed_iff.2 hUnclosed)
  · rintro ⟨hClose, hNot⟩
    rcases verdict_cases delimiters with
      hAll | hUnmatched | hUnclosed
    · exact absurd hAll hNot
    · exact absurd hClose
        (exists_unmatched_iff.1 hUnmatched)
    · exact hUnclosed

end Scanning

end Delimiter

end SqlAccess
