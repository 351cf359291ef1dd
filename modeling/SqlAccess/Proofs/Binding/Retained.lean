import SqlAccess.Proofs.Binding.Shape
import SqlAccess.Proofs.Template.Blame

/-
  This file says which lexemes of a template stay when the
  blocks with unbound names go, and shows that they spell
  the segments of the template: what is written for a
  template can be looked for in its lexemes.

  Key definitions include:
    * `Glyph`
    * `Segment.glyphs`
    * `Lexeme.glyphs`
    * `Lexeme.Tail`
    * `Lexeme.Tails.before`
    * `Lexeme.retained`

  Key theorems include:
    * `Lexeme.tails_reads`
    * `Lexeme.retained_sublist`
    * `Template.glyphs_retained`
-/

namespace SqlAccess

------------------------------------------------------------
-- Glyphs
------------------------------------------------------------

/-
  What a template and the statements made from it are
  spelled with: characters, and blanks that are filled in
  later.
-/
inductive Glyph
  | char (c : Char)
  | blank
deriving DecidableEq, Repr

namespace Segment

/- How a piece that stays is spelled. -/
def glyphs : Segment → List Glyph
  | literal text => text.toList.map .char
  | slot _ => [.blank]

end Segment

namespace Forest

variable (bound : String → Bool)

/- How the pieces of a forest that stay are spelled. -/
def glyphs (forest : Forest) : List Glyph :=
  (forest.segments bound).flatMap Segment.glyphs

/- Text that is merged with text is still spelled out. -/
theorem glyphs_consText
    (text : String)
    (forest : Forest) :
    (consText text forest).glyphs bound =
      text.toList.map .char ++ forest.glyphs bound := by
  cases forest with
  | literal more next =>
      simp [glyphs, consText, segments, Segment.glyphs]
  | done => rfl
  | slot placeholder next => rfl
  | block inner next =>
      simp [glyphs, consText, segments, Segment.glyphs]

theorem isBound_consText
    (text : String)
    (forest : Forest) :
    (consText text forest).isBound bound =
      forest.isBound bound := by
  cases forest <;> rfl

/- A block is written as what is in it, if it is bound. -/
theorem glyphs_block (inner next : Forest) :
    (block inner next).glyphs bound =
      (if inner.isBound bound then inner.glyphs bound
        else []) ++
        next.glyphs bound := by
  rw [glyphs, segments]
  split
  · exact List.flatMap_append
  · rfl

end Forest

namespace Lexeme

/- How a lexeme is spelled once the blocks are decided. -/
def glyphs : Lexeme → List Glyph
  | verbatim text => text.map .char
  | escape _ char => [.char char]
  | opening => []
  | closing => []
  | positional _ => [.blank]
  | named _ _ _ => [.blank]

/- Whether a lexeme begins or ends a block. -/
def isDelimiter : Lexeme → Bool
  | opening => true
  | closing => true
  | _ => false

------------------------------------------------------------
-- What Stays
------------------------------------------------------------

/-
  The lexemes that stay of the rest of a block, and whether
  all names that stand directly in that rest are bound.
-/
structure Tail where
  kept : List Lexeme
  isBound : Bool

/-
  The rest of the block that a place is in, and the rests of
  the blocks around it, from the inside out.
-/
structure Tails where
  inner : Tail
  outer : List Tail

namespace Tail

/- The end of a block. -/
def done : Tail :=
  ⟨[], true⟩

/- A lexeme in front of the rest of its block. -/
def cons
    (lexeme : Lexeme)
    (tail : Tail) : Tail :=
  ⟨lexeme :: tail.kept, tail.isBound⟩

/- A block in front of what follows it. -/
def block (inner next : Tail) : Tail :=
  ⟨(if inner.isBound then inner.kept else []) ++
    next.kept, next.isBound⟩

end Tail

/- What stays from a lexeme on. -/
def Tails.before
    (bound : String → Bool) : Lexeme → Tails → Tails
  | opening, ⟨inner, next :: outer⟩ =>
      ⟨inner.block next, outer⟩
  | opening, ⟨inner, []⟩ => ⟨inner, []⟩
  | closing, ⟨inner, outer⟩ =>
      ⟨.done, inner :: outer⟩
  | named sigil name suffix, ⟨inner, outer⟩ =>
      ⟨⟨named sigil name suffix :: inner.kept,
          bound (String.ofList name) && inner.isBound⟩,
        outer⟩
  | lexeme, ⟨inner, outer⟩ =>
      ⟨inner.cons lexeme, outer⟩

/- What stays of lexemes. -/
def tails
    (bound : String → Bool)
    (lexemes : List Lexeme) : Tails :=
  lexemes.foldr (Tails.before bound) ⟨.done, []⟩

/-
  The lexemes that stay: those outside of all blocks, and
  those of the blocks in which all names are bound, if the
  blocks around them stay.
-/
def retained
    (bound : String → Bool)
    (lexemes : List Lexeme) : List Lexeme :=
  (tails bound lexemes).inner.kept

section Retained

variable {bound : String → Bool}

/- Text stays in front of what stays. -/
theorem tails_verbatim_append
    (run : List (List Char))
    (rest : List Lexeme) :
    tails bound (run.map verbatim ++ rest) =
      ⟨⟨run.map verbatim ++
          (tails bound rest).inner.kept,
            (tails bound rest).inner.isBound⟩,
        (tails bound rest).outer⟩ := by
  induction run with
  | nil => rfl
  | cons text run ih =>
      rw [List.map_cons, List.cons_append, tails,
        List.foldr_cons, ← tails, ih]
      rfl

------------------------------------------------------------
-- Spelling
------------------------------------------------------------

/-
  Whether what stays of the rest of a block is what stays of
  a forest.
-/
structure Tail.Reads
    (bound : String → Bool)
    (forest : Forest)
    (tail : Tail) : Prop where
  glyphs :
    forest.glyphs bound = tail.kept.flatMap Lexeme.glyphs
  isBound : forest.isBound bound = tail.isBound

theorem Tail.Reads.done : Tail.done.Reads bound .done :=
  ⟨rfl, rfl⟩

/- Text in front of a part is read before it. -/
theorem Tail.Reads.consText
    {forest : Forest}
    {tail : Tail}
    {text : List Char}
    {lexemes : List Lexeme}
    (hTail : tail.Reads bound forest)
    (hText :
      lexemes.flatMap Lexeme.glyphs = text.map .char) :
    Tail.Reads bound
      (forest.consText (String.ofList text))
      ⟨lexemes ++ tail.kept, tail.isBound⟩ where
  glyphs := by
    rw [Forest.glyphs_consText, String.toList_ofList,
      hTail.glyphs, List.flatMap_append, hText]
  isBound := by
    rw [Forest.isBound_consText, hTail.isBound]

/-
  A block is read with what is in it, and with what comes
  after it.
-/
theorem Tail.Reads.block
    {innerForest nextForest : Forest}
    {inner next : Tail}
    (hInner : inner.Reads bound innerForest)
    (hNext : next.Reads bound nextForest) :
    (inner.block next).Reads bound
      (.block innerForest nextForest) where
  glyphs := by
    rw [Forest.glyphs_block, hInner.isBound, hInner.glyphs,
      hNext.glyphs, Tail.block, List.flatMap_append]
    cases inner.isBound <;> rfl
  isBound := hNext.isBound

/- The same for the blocks around it. -/
structure Tails.Reads
    (bound : String → Bool)
    (suffixes : Forest.Suffixes)
    (tails : Tails) : Prop where
  inner : tails.inner.Reads bound suffixes.inner
  outer :
    List.Forall₂ (Tail.Reads bound) suffixes.outer
      tails.outer

/-
  A lexeme is read as the token that it means, in front of
  each of the parts behind it.
-/
theorem Tails.Reads.single
    {offset index : Nat}
    {lexeme : Lexeme}
    {token : Token}
    {suffixes : Forest.Suffixes}
    {tails : Tails}
    (hToken : Token.Means offset index lexeme token)
    (hTails : tails.Reads bound suffixes) :
    (tails.before bound lexeme).Reads bound
      (suffixes.before token) := by
  rcases suffixes with ⟨forest, forests⟩
  rcases tails with ⟨inner, outer⟩
  rcases hTails with ⟨hInner, hOuter⟩
  cases hToken with
  | @escape mark c =>
      have hText :
          [Lexeme.escape mark c].flatMap Lexeme.glyphs =
            [c].map .char :=
        rfl
      exact ⟨hInner.consText hText, hOuter⟩
  | opening =>
      cases hOuter with
      | nil => exact ⟨hInner, .nil⟩
      | cons hNext hOuter =>
          exact ⟨hInner.block hNext, hOuter⟩
  | closing => exact ⟨.done, .cons hInner hOuter⟩
  | positional hTag =>
      refine ⟨⟨?_, hInner.isBound⟩, hOuter⟩
      exact congrArg (Glyph.blank :: ·) hInner.glyphs
  | @named sigil name suffix tag hTag =>
      refine ⟨⟨?_, ?_⟩, hOuter⟩
      · exact congrArg (Glyph.blank :: ·) hInner.glyphs
      · exact congrArg (bound (String.ofList name) && ·)
          hInner.isBound

theorem glyphs_verbatim (run : List (List Char)) :
    (run.map verbatim).flatMap glyphs =
      run.flatten.map .char := by
  induction run with
  | nil => rfl
  | cons text run ih =>
      rw [List.map_cons, List.flatMap_cons, ih,
        List.flatten_cons, List.map_append]
      rfl

/-
  What stays of lexemes is what stays of the forests of
  their tokens.
-/
theorem tails_reads
    {offset index : Nat}
    {lexemes : List Lexeme}
    {tokens : List Token}
    (hSpells : Token.Spells offset index lexemes tokens) :
    (tails bound lexemes).Reads bound
      (tokens.foldr Forest.Suffixes.before
        ⟨.done, []⟩) := by
  induction hSpells with
  | done => exact ⟨.done, .nil⟩
  | @text offset index run rest tokens hRun hEnd hRest ih =>
      rw [tails_verbatim_append, List.foldr_cons]
      exact ⟨ih.inner.consText (glyphs_verbatim run),
        ih.outer⟩
  | single hToken hRest ih => exact ih.single hToken

end Retained

------------------------------------------------------------
-- Order
------------------------------------------------------------

section Order

variable (bound : String → Bool)

/-
  The lexemes that stay, of all blocks that are not ended.
-/
def Tails.kept (tails : Tails) : List Lexeme :=
  tails.inner.kept ++ tails.outer.flatMap Tail.kept

/-
  A lexeme in front adds at most itself to what is kept, and
  a delimiter adds nothing.
-/
theorem Tails.kept_before
    (lexeme : Lexeme)
    (tails : Tails) :
    (tails.before bound lexeme).kept.Sublist
      ((if lexeme.isDelimiter then [] else [lexeme]) ++
        tails.kept) := by
  rcases tails with ⟨inner, outer⟩
  cases lexeme with
  | opening =>
      cases outer with
      | nil => exact .refl _
      | cons next outer =>
          simp only [before, kept, Tail.block]
          split
          · simp
          · simp
  | closing => exact .refl _
  | _ => exact .refl _

/-
  The lexemes that stay are in the order of the text, and no
  delimiter is among them.
-/
theorem retained_sublist (lexemes : List Lexeme) :
    (retained bound lexemes).Sublist
      (lexemes.filter (! ·.isDelimiter)) := by
  have hKept :
      (tails bound lexemes).kept.Sublist
        (lexemes.filter (! ·.isDelimiter)) := by
    induction lexemes with
    | nil => exact .slnil
    | cons lexeme rest ih =>
        have hBefore :=
          (tails bound rest).kept_before bound lexeme
        refine hBefore.trans ?_
        rw [List.filter_cons]
        cases lexeme.isDelimiter with
        | true => exact ih
        | false => exact ih.cons_cons lexeme
  exact (List.sublist_append_left _ _).trans hKept

end Order

end Lexeme

/-
  The lexemes that stay spell the pieces of the template
  that stay.
-/
theorem Template.glyphs_retained
    {source : String}
    {template : Template}
    (bound : String → Bool)
    (hTemplate : compile source = .ok template) :
    template.forest.glyphs bound =
      (Lexeme.retained bound
        (Lexeme.all source.toList)).flatMap
        Lexeme.glyphs := by
  rcases compile_eq_ok_iff.1 hTemplate with
    ⟨-, tokens, hTokens, -, hForest⟩
  have hSpells := Token.ofLexemes_eq_ok_iff.1 hTokens
  rw [← hForest]
  exact (Lexeme.tails_reads hSpells).inner.glyphs

end SqlAccess
