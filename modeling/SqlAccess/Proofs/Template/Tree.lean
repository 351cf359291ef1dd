import Mathlib.Data.List.Induction
import Mathlib.Data.List.Nodup
import SqlAccess.Proofs.Template.Blame

/-
  This file says what the tree of a template is: written in
  one line, it is the tokens of the text with text next to
  text merged, and none of its text is empty or next to
  other text.  Its positional placeholders are numbered, its
  names listed and its blocks counted in the order of the
  text.

  Key definitions include:
    * `Token.Merges`
    * `Forest.Suffixes.flatten`
    * `Forest.Canonical`
    * `Firsts`
    * `Forest.Faithful`

  Key theorems include:
    * `Token.Merges.cons_shown`
    * `Forest.merges_suffixes`
    * `Forest.canonical_ofTokens`
    * `Token.Spells.exists_indices`
    * `firsts_eraseDups`
    * `Forest.placeholders_ofTokens`
    * `Template.compile_faithful`
-/

namespace SqlAccess

------------------------------------------------------------
-- Merged Text
------------------------------------------------------------

namespace Token

/- The text that a token shows, if it is text. -/
def shown? : Token → Option (List Char)
  | text chars => some chars
  | escaped char => some [char]
  | _ => none

/- The placeholder that a token is, if it is one. -/
def placeholder? : Token → Option Placeholder
  | named name tag => some ⟨.named name, tag⟩
  | positional index tag =>
      some ⟨.positional index, tag⟩
  | _ => none

/- The piece of a tree that a token other than text is. -/
inductive IsPiece : Token → Forest.Piece → Prop
  | slot {token placeholder}
      (hSlot : token.placeholder? = some placeholder) :
      IsPiece token (.slot placeholder)
  | opening {offset} : IsPiece (opening offset) .opening
  | closing {offset} : IsPiece (closing offset) .closing

/-
  The pieces that tokens are: a longest run of text is one
  piece, and every other token is one.
-/
inductive Merges : List Token → List Forest.Piece → Prop
  | done : Merges [] []
  | text {run rest pieces} {contents : List (List Char)}
      (hRun : run ≠ [])
      (hShown : run.map shown? = contents.map some)
      (hEnd : ∀ token ∈ rest.head?, token.shown? = none)
      (hRest : Merges rest pieces) :
      Merges (run ++ rest)
        (.literal (String.ofList contents.flatten) ::
          pieces)
  | single {token piece rest pieces}
      (hPiece : IsPiece token piece)
      (hRest : Merges rest pieces) :
      Merges (token :: rest) (piece :: pieces)

end Token

namespace Forest

/- Whether a piece is text. -/
def Piece.IsLiteral (piece : Piece) : Prop :=
  ∃ text, piece = .literal text

/- Text in front of pieces.  Text next to text is merged. -/
def Piece.consText
    (text : String) :
    List Piece → List Piece
  | literal more :: rest => literal (text ++ more) :: rest
  | pieces => literal text :: pieces

/- Text is merged with text only. -/
theorem Piece.consText_of_head
    {text : String}
    {pieces : List Piece}
    (hHead :
      ∀ piece ∈ pieces.head?, ¬ piece.IsLiteral) :
    consText text pieces = .literal text :: pieces := by
  cases pieces with
  | nil => rfl
  | cons piece rest =>
      cases piece with
      | literal more =>
          exact absurd ⟨more, rfl⟩ (hHead _ rfl)
      | _ => rfl

/-
  Text in front of a forest is text in front of its pieces.
-/
theorem flatten_consText
    (text : String)
    (forest : Forest) :
    (forest.consText text).flatten =
      Piece.consText text forest.flatten := by
  cases forest <;> rfl

end Forest

namespace Token

/- A piece that is no text shows none. -/
theorem IsPiece.shown?_eq
    {token : Token}
    {piece : Forest.Piece}
    (hPiece : IsPiece token piece) :
    token.shown? = none := by
  cases hPiece with
  | slot hSlot =>
      cases token <;> simp_all [placeholder?, shown?]
  | opening => rfl
  | closing => rfl

/- What is read as a piece of its own is no text. -/
theorem IsPiece.not_isLiteral
    {token : Token}
    {piece : Forest.Piece}
    (hPiece : IsPiece token piece) :
    ¬ piece.IsLiteral := by
  rintro ⟨text, rfl⟩
  cases hPiece

section Merging

variable {tokens : List Token} {pieces : List Forest.Piece}

/-
  A text token in front is merged into what it stands at.
-/
theorem Merges.cons_shown
    {token : Token}
    {chars : List Char}
    (hToken : token.shown? = some chars)
    (hMerges : Merges tokens pieces) :
    Merges (token :: tokens)
      (Forest.Piece.consText (String.ofList chars)
        pieces) := by
  have hAlone
      (hEnd :
        ∀ other ∈ tokens.head?, other.shown? = none) :
      Merges (token :: tokens)
        (.literal (String.ofList chars) :: pieces) := by
    have hShown :
        [token].map shown? = [chars].map some := by
      simp [hToken]
    have hRun :=
      Merges.text (List.cons_ne_nil _ _) hShown hEnd hMerges
    simpa using hRun
  cases hMerges with
  | done => exact hAlone (by simp)
  | @text run rest pieces contents hRun hShown hEnd hRest =>
      have hLonger :
          (token :: run).map shown? =
            (chars :: contents).map some := by
        rw [List.map_cons, hToken, hShown, List.map_cons]
      have hMore :=
        Merges.text (List.cons_ne_nil token run)
          hLonger hEnd hRest
      rw [List.flatten_cons, String.ofList_append] at hMore
      exact hMore
  | @single other piece rest pieces hPiece hRest =>
      have hHead :
          ∀ first ∈ (piece :: pieces).head?,
            ¬ first.IsLiteral := by
        rintro _ ⟨⟩
        exact hPiece.not_isLiteral
      rw [Forest.Piece.consText_of_head hHead]
      refine hAlone ?_
      rintro _ ⟨⟩
      exact hPiece.shown?_eq

end Merging

end Token

------------------------------------------------------------
-- Faithful Trees
------------------------------------------------------------

namespace Forest

/-
  The pieces from a place of a text on: those of the forest
  that it is in, and for each block around it the end of
  that block and the pieces that follow.
-/
def Suffixes.flatten (suffixes : Suffixes) : List Piece :=
  suffixes.inner.flatten ++
    suffixes.outer.flatMap fun forest =>
      .closing :: forest.flatten

/- The forests that begin at the first of some tokens. -/
def suffixes (tokens : List Token) : Suffixes :=
  tokens.foldr Suffixes.before ⟨done, []⟩

/- What follows a block does not start with text. -/
theorem Suffixes.head_outer
    (outer : List Forest) :
    ∀ piece ∈ (outer.flatMap fun forest =>
        Piece.closing :: forest.flatten).head?,
      ¬ piece.IsLiteral := by
  cases outer with
  | nil => simp
  | cons forest outer =>
      rintro _ ⟨⟩ ⟨text, hText⟩
      cases hText

/-
  Text in front of pieces stays there when others come
  behind them.
-/
theorem Piece.consText_append
    {text : String}
    {front back : List Piece}
    (hBack : ∀ piece ∈ back.head?, ¬ piece.IsLiteral) :
    consText text front ++ back =
      consText text (front ++ back) := by
  cases front with
  | nil => exact (consText_of_head hBack).symm
  | cons piece front => cases piece <;> rfl

/-
  Text in front of the innermost part is text in front of
  all pieces.
-/
theorem Suffixes.flatten_consText
    (text : String)
    (inner : Forest)
    (outer : List Forest) :
    Suffixes.flatten ⟨inner.consText text, outer⟩ =
      Piece.consText text
        (Suffixes.flatten ⟨inner, outer⟩) := by
  rw [flatten, Forest.flatten_consText]
  exact Piece.consText_append (head_outer outer)

/-
  The pieces from a token on are the tokens from there on,
  merged; and there are as many forests around it as blocks
  that are open.
-/
theorem merges_suffixes
    {opened : List Nat}
    {tokens : List Token}
    (hScan : imbalance? opened tokens = none) :
    (suffixes tokens).outer.length = opened.length ∧
      Token.Merges tokens (suffixes tokens).flatten := by
  induction tokens generalizing opened with
  | nil =>
      cases opened with
      | nil => exact ⟨rfl, .done⟩
      | cons first opened => cases hScan
  | cons token rest ih =>
      rw [suffixes, List.foldr_cons, ← suffixes]
      cases token with
      | text chars =>
          rcases ih hScan with ⟨hLength, hMerges⟩
          have hShown :
              (Token.text chars).shown? = some chars :=
            rfl
          refine ⟨hLength, ?_⟩
          rw [Suffixes.before, Suffixes.flatten_consText]
          exact hMerges.cons_shown hShown
      | escaped char =>
          rcases ih hScan with ⟨hLength, hMerges⟩
          have hShown :
              (Token.escaped char).shown? = some [char] :=
            rfl
          refine ⟨hLength, ?_⟩
          rw [Suffixes.before, Suffixes.flatten_consText]
          exact hMerges.cons_shown hShown
      | named name tag =>
          rcases ih hScan with ⟨hLength, hMerges⟩
          exact ⟨hLength, .single (.slot rfl) hMerges⟩
      | positional index tag =>
          rcases ih hScan with ⟨hLength, hMerges⟩
          exact ⟨hLength, .single (.slot rfl) hMerges⟩
      | opening offset =>
          rcases @ih (offset :: opened) hScan with
            ⟨hLength, hMerges⟩
          generalize suffixes rest = after
            at hLength hMerges
          rcases after with ⟨inner, outer⟩
          cases outer with
          | nil => cases hLength
          | cons next outer =>
              refine ⟨Nat.succ.inj hLength, ?_⟩
              have hOpening :
                  Token.IsPiece (.opening offset)
                    .opening :=
                .opening
              have hPieces :=
                Token.Merges.single hOpening hMerges
              simpa [Suffixes.before, Suffixes.flatten,
                flatten] using hPieces
      | closing offset =>
          cases opened with
          | nil => cases hScan
          | cons first opened =>
              rcases @ih opened hScan with
                ⟨hLength, hMerges⟩
              exact ⟨congrArg (· + 1) hLength,
                .single .closing hMerges⟩

------------------------------------------------------------
-- Canonical Trees
------------------------------------------------------------

/-
  Whether no text in a forest is empty or next to other
  text, in the forest itself and in all of its blocks.
-/
inductive Canonical : Forest → Prop
  | done : Canonical done
  | literal {text next}
      (hText : text ≠ "")
      (hAlone : ∀ more rest, next ≠ literal more rest)
      (hNext : Canonical next) :
      Canonical (literal text next)
  | slot {placeholder next}
      (hNext : Canonical next) :
      Canonical (slot placeholder next)
  | block {inner next}
      (hInner : Canonical inner)
      (hNext : Canonical next) :
      Canonical (block inner next)

/- Text that is not empty keeps a forest canonical. -/
theorem canonical_consText
    {text : String}
    {forest : Forest}
    (hText : text ≠ "")
    (hForest : Canonical forest) :
    Canonical (forest.consText text) := by
  cases hForest with
  | done => exact .literal hText (by simp) .done
  | literal hMore hAlone hNext =>
      refine .literal ?_ hAlone hNext
      simp [String.append_eq_empty_iff, hText]
  | slot hNext =>
      exact .literal hText (by simp) (.slot hNext)
  | block hInner hNext =>
      exact .literal hText (by simp) (.block hInner hNext)

/- All forests from a place of a text on are canonical. -/
structure Suffixes.Canonical
    (suffixes : Suffixes) :
    Prop where
  inner : suffixes.inner.Canonical
  outer : ∀ forest ∈ suffixes.outer, forest.Canonical

/- A token in front keeps the parts canonical. -/
theorem Suffixes.Canonical.before
    {token : Token}
    {suffixes : Suffixes}
    (hShown :
      ∀ chars, token.shown? = some chars → chars ≠ [])
    (hSuffixes : suffixes.Canonical) :
    (Suffixes.before token suffixes).Canonical := by
  rcases suffixes with ⟨inner, outer⟩
  rcases hSuffixes with ⟨hInner, hOuter⟩
  cases token with
  | text chars =>
      have hText : String.ofList chars ≠ "" := by
        simpa using hShown chars rfl
      exact ⟨canonical_consText hText hInner, hOuter⟩
  | escaped char =>
      have hText : String.singleton char ≠ "" := by simp
      exact ⟨canonical_consText hText hInner, hOuter⟩
  | named name tag => exact ⟨.slot hInner, hOuter⟩
  | positional index tag => exact ⟨.slot hInner, hOuter⟩
  | closing offset =>
      exact ⟨.done,
        List.forall_mem_cons.2 ⟨hInner, hOuter⟩⟩
  | opening offset =>
      cases outer with
      | nil => exact ⟨hInner, hOuter⟩
      | cons next outer =>
          rcases List.forall_mem_cons.1 hOuter with
            ⟨hNext, hOuter⟩
          exact ⟨.block hInner hNext, hOuter⟩

/- The forest of tokens is canonical. -/
theorem canonical_ofTokens
    {tokens : List Token}
    (hShown :
      ∀ token ∈ tokens, ∀ chars,
        token.shown? = some chars → chars ≠ []) :
    (ofTokens tokens).Canonical := by
  suffices hAll :
      (suffixes tokens).Canonical from hAll.inner
  induction tokens with
  | nil => exact ⟨.done, by simp [suffixes]⟩
  | cons token rest ih =>
      rcases List.forall_mem_cons.1 hShown with
        ⟨hToken, hRest⟩
      exact (ih hRest).before hToken

end Forest

/- Tokens that lexemes spell show some text, if any. -/
theorem Token.Spells.shown_ne_nil
    {offset index : Nat}
    {lexemes : List Lexeme}
    {tokens : List Token}
    (hSpells : Spells offset index lexemes tokens)
    (hSource :
      ∀ lexeme ∈ lexemes, lexeme.source ≠ []) :
    ∀ token ∈ tokens, ∀ chars,
      token.shown? = some chars → chars ≠ [] := by
  induction hSpells with
  | done => simp
  | @text offset index run rest tokens hRun hEnd hRest ih =>
      rcases List.forall_mem_append.1 hSource with
        ⟨hHere, hLater⟩
      refine List.forall_mem_cons.2 ⟨?_, ih hLater⟩
      rintro _ ⟨⟩
      cases run with
      | nil => exact absurd rfl hRun
      | cons chars run =>
          have hFirst : chars ≠ [] :=
            hHere _ List.mem_cons_self
          simp [hFirst]
  | single hToken hRest ih =>
      rcases List.forall_mem_cons.1 hSource with
        ⟨-, hLater⟩
      refine List.forall_mem_cons.2 ⟨?_, ih hLater⟩
      intro chars hChars
      cases hToken with
      | escape =>
          cases hChars
          simp
      | _ => cases hChars

------------------------------------------------------------
-- Contents
------------------------------------------------------------

namespace Forest

/- The placeholder that a piece is, if it is one. -/
def Piece.slot? : Piece → Option Placeholder
  | slot placeholder => some placeholder
  | _ => none

/- The number of a positional placeholder. -/
def indexOf? (placeholder : Placeholder) : Option Nat :=
  match placeholder.key with
  | .named _ => none
  | .positional index => some index

/- The placeholders of a forest are those of its pieces. -/
theorem placeholders_eq (forest : Forest) :
    forest.placeholders =
      forest.flatten.filterMap Piece.slot? := by
  induction forest with
  | done => rfl
  | literal text next ih => exact ih
  | slot placeholder next ih =>
      rw [placeholders, ih]
      rfl
  | block inner next ihInner ihNext =>
      simp [placeholders, flatten, List.filterMap_cons,
        Piece.slot?, ihInner, ihNext]

/- A block is counted by its opening brace. -/
theorem blockCount_eq (forest : Forest) :
    forest.blockCount = forest.flatten.count .opening := by
  induction forest with
  | done => rfl
  | literal text next ih => simp [blockCount, flatten, ih]
  | slot placeholder next ih =>
      simp [blockCount, flatten, ih]
  | block inner next ihInner ihNext =>
      simp [blockCount, flatten, ihInner, ihNext]
      omega

/-
  Positional placeholders are counted among all
  placeholders.
-/
theorem positionalCount_eq (forest : Forest) :
    forest.positionalCount =
      (forest.placeholders.filterMap indexOf?).length := by
  rw [positionalCount, List.length_filterMap_eq_countP]
  congr 1
  funext placeholder
  rcases placeholder with ⟨name | index, tag⟩
  · rfl
  · rfl

end Forest

namespace Token

/- Merging text leaves the placeholders as they are. -/
theorem Merges.placeholders
    {tokens : List Token}
    {pieces : List Forest.Piece}
    (hMerges : Merges tokens pieces) :
    pieces.filterMap Forest.Piece.slot? =
      tokens.filterMap placeholder? := by
  induction hMerges with
  | done => rfl
  | @text run rest pieces contents hRun hShown hEnd
    hRest ih =>
      have hNone : run.filterMap placeholder? = [] := by
        rw [List.filterMap_eq_nil_iff]
        intro token hMem
        have hSome : token.shown? ∈ run.map shown? :=
          List.mem_map_of_mem hMem
        rw [hShown] at hSome
        rcases List.mem_map.1 hSome with
          ⟨chars, -, hChars⟩
        cases token with
        | named | positional => cases hChars
        | _ => rfl
      rw [List.filterMap_append, hNone, List.nil_append,
        ← ih]
      rfl
  | single hPiece hRest ih =>
      cases hPiece with
      | slot hSlot =>
          rw [List.filterMap_cons_some hSlot, ← ih]
          rfl
      | opening => exact ih
      | closing => exact ih

/-
  Positional placeholders are numbered in the order of text.
-/
theorem Spells.exists_indices
    {offset index : Nat}
    {lexemes : List Lexeme}
    {tokens : List Token}
    (hSpells : Spells offset index lexemes tokens) :
    ∃ count,
      (tokens.filterMap placeholder?).filterMap
          Forest.indexOf? =
        List.range' index count := by
  induction hSpells with
  | done => exact ⟨0, rfl⟩
  | text hRun hEnd hRest ih => exact ih
  | single hToken hRest ih =>
      rcases ih with ⟨count, hCount⟩
      cases hToken with
      | positional hTag =>
          exact ⟨count + 1, congrArg (_ :: ·) hCount⟩
      | _ => exact ⟨count, hCount⟩

end Token

------------------------------------------------------------
-- Names
------------------------------------------------------------

/-
  The distinct ones of some names, in the order in which
  they first appear.
-/
structure Firsts (names distinct : List String) : Prop where
  nodup : distinct.Nodup
  mem_iff : ∀ name, name ∈ distinct ↔ name ∈ names
  ordered :
    distinct.Pairwise fun first second =>
      names.idxOf first < names.idxOf second

namespace Firsts

variable {names distinct : List String} {name : String}

/- One more name leaves the first places of the others. -/
theorem ordered_snoc (hFirsts : Firsts names distinct) :
    distinct.Pairwise fun first second =>
      (names ++ [name]).idxOf first <
        (names ++ [name]).idxOf second := by
  refine hFirsts.ordered.imp_of_mem ?_
  intro first second hFirst hSecond hOrder
  rw [hFirsts.mem_iff] at hFirst hSecond
  rwa [List.idxOf_append_of_mem hFirst,
    List.idxOf_append_of_mem hSecond]

/- A name that is there already changes nothing. -/
theorem snoc_of_mem
    (hFirsts : Firsts names distinct)
    (hMem : name ∈ names) :
    Firsts (names ++ [name]) distinct := by
  refine ⟨hFirsts.nodup, ?_, hFirsts.ordered_snoc⟩
  intro other
  rw [hFirsts.mem_iff, List.mem_append, List.mem_singleton]
  constructor
  · exact .inl
  · rintro (hOther | rfl)
    · exact hOther
    · exact hMem

/- A new name comes after all others. -/
theorem snoc_of_not_mem
    (hFirsts : Firsts names distinct)
    (hNew : name ∉ names) :
    Firsts (names ++ [name]) (distinct ++ [name]) := by
  refine ⟨?_, ?_, ?_⟩
  · have hAbsent : name ∉ distinct := by
      rwa [hFirsts.mem_iff]
    rw [← List.concat_eq_append]
    exact List.Nodup.concat hAbsent hFirsts.nodup
  · intro other
    simp only [List.mem_append, hFirsts.mem_iff]
  · refine List.pairwise_append.2
      ⟨hFirsts.ordered_snoc,
        List.pairwise_singleton _ _, ?_⟩
    intro first hFirst second hSecond
    rw [hFirsts.mem_iff] at hFirst
    rw [List.mem_singleton] at hSecond
    rw [hSecond, List.idxOf_append_of_mem hFirst,
      List.idxOf_append_of_notMem hNew]
    have hBound := List.idxOf_lt_length_of_mem hFirst
    exact Nat.lt_add_right _ hBound

end Firsts

/-
  Without its repetitions, a list has each name where it was
  first.
-/
theorem firsts_eraseDups (names : List String) :
    Firsts names names.eraseDups := by
  induction names using List.reverseRecOn with
  | nil => exact ⟨.nil, by simp, .nil⟩
  | append_singleton names name ih =>
      rw [List.eraseDups_append]
      by_cases hMem : name ∈ names
      · have hNone : [name].removeAll names = [] := by
          simp [List.removeAll, hMem]
        rw [hNone, List.eraseDups_nil, List.append_nil]
        exact ih.snoc_of_mem hMem
      · have hOne : [name].removeAll names = [name] := by
          simp [List.removeAll, hMem]
        rw [hOne]
        exact ih.snoc_of_not_mem hMem

------------------------------------------------------------
-- Compiled Trees
------------------------------------------------------------

/-
  A forest is that of some tokens: in one line, it is these
  tokens with text next to text merged, and none of its text
  is empty or next to other text; its placeholders are those
  of the tokens, the positional ones numbered from zero on;
  its names are listed by their first places; and each of
  its blocks is counted.
-/
structure Forest.Faithful
    (forest : Forest)
    (tokens : List Token) : Prop where
  merged : Token.Merges tokens forest.flatten
  canonical : forest.Canonical
  placeholders :
    forest.placeholders =
      tokens.filterMap Token.placeholder?
  numbered :
    forest.placeholders.filterMap indexOf? =
      List.range forest.positionalCount
  named :
    Firsts (forest.placeholders.filterMap nameOf?)
      forest.names
  counted :
    forest.blockCount = forest.flatten.count .opening

section Balanced

variable {tokens : List Token}

/- In one line, a forest is its tokens with text merged. -/
theorem Forest.merges_ofTokens
    (hScan : imbalance? [] tokens = none) :
    Token.Merges tokens (ofTokens tokens).flatten := by
  rcases merges_suffixes hScan with ⟨hLength, hMerges⟩
  have hOuter : (suffixes tokens).outer = [] :=
    List.eq_nil_of_length_eq_zero hLength
  have hFlatten :
      (suffixes tokens).flatten =
        (ofTokens tokens).flatten := by
    rw [Suffixes.flatten, hOuter, List.flatMap_nil,
      List.append_nil]
    rfl
  rwa [hFlatten] at hMerges

/- Its placeholders are those of its tokens. -/
theorem Forest.placeholders_ofTokens
    (hScan : imbalance? [] tokens = none) :
    (ofTokens tokens).placeholders =
      tokens.filterMap Token.placeholder? := by
  rw [placeholders_eq, (merges_ofTokens hScan).placeholders]

/- The forest of balanced tokens is faithful to them. -/
theorem Forest.faithful_ofTokens
    {index : Nat}
    {lexemes : List Lexeme}
    (hSource : ∀ lexeme ∈ lexemes, lexeme.source ≠ [])
    (hSpells : Token.Spells index 0 lexemes tokens)
    (hScan : imbalance? [] tokens = none) :
    (ofTokens tokens).Faithful tokens := by
  have hSlots := placeholders_ofTokens hScan
  refine ⟨merges_ofTokens hScan,
    canonical_ofTokens (hSpells.shown_ne_nil hSource),
    hSlots, ?_, firsts_eraseDups _, blockCount_eq _⟩
  rcases hSpells.exists_indices with ⟨count, hIndices⟩
  rw [positionalCount_eq, hSlots, hIndices,
    List.length_range', List.range_eq_range']

end Balanced

/-
  The tree that a text compiles to is that of its tokens.
-/
theorem Template.compile_faithful
    {source : String}
    {template : Template}
    (hCompile : compile source = .ok template) :
    template.source = source ∧
      ∃ tokens,
        Token.ofText source.toList = .ok tokens ∧
          template.forest.Faithful tokens := by
  cases hParse : parse source with
  | error fault =>
      rw [compile, hParse] at hCompile
      cases hCompile
  | ok forest =>
      rw [compile, hParse] at hCompile
      cases hCompile
      rcases Template.parse_eq_ok_iff.1 hParse with
        ⟨tokens, hTokens, hScan, rfl⟩
      have hSource :
          ∀ lexeme ∈ Lexeme.all source.toList,
            lexeme.source ≠ [] :=
        fun lexeme hMem =>
          (Lexeme.proper_of_mem_all hMem).source_ne_nil
      have hSpells := Token.ofLexemes_eq_ok_iff.1 hTokens
      exact ⟨rfl, tokens, hTokens,
        Forest.faithful_ofTokens hSource hSpells hScan⟩

/-
  Blocks within blocks, escapes next to text, a name that is
  there twice, and positional placeholders at three depths.
-/
theorem Template.compile_faithful_sample :
    let source :=
      "a\\\x7b? \x7b:b ??\x7b?!i :d\x7d :b\x7d\x7b\x7d$d ?"
    let deep : Forest :=
      .slot ⟨.positional 1, some .integer⟩
        (.literal " " (.slot ⟨.named "d", none⟩ .done))
    let inner : Forest :=
      .slot ⟨.named "b", none⟩
        (.literal " ?"
          (.block deep
            (.literal " "
              (.slot ⟨.named "b", none⟩ .done))))
    let after : Forest :=
      .slot ⟨.named "d", none⟩
        (.literal " "
          (.slot ⟨.positional 2, none⟩ .done))
    let forest : Forest :=
      .literal "a\x7b"
        (.slot ⟨.positional 0, none⟩
          (.literal " "
            (.block inner (.block .done after))))
    compile source = .ok ⟨source, forest⟩ ∧
      forest.names = ["b", "d"] ∧
      ∃ tokens,
        Token.ofText source.toList = .ok tokens ∧
          forest.Faithful tokens := by
  intro source deep inner after forest
  have hCompile :
      compile source = .ok ⟨source, forest⟩ := by
    decide +kernel
  have hNames : forest.names = ["b", "d"] := by
    decide
  exact ⟨hCompile, hNames,
    (compile_faithful hCompile).2⟩

end SqlAccess
