import SqlAccess.Proofs.Binding.Inclusion
import SqlAccess.Proofs.Binding.Scan
import SqlAccess.Proofs.Template.Tree

/-
  This file shows that nothing of a template is left in its
  text: a token of text, read by itself, is that one token
  again, unless it is a character that was escaped.  Where a
  token ends, what follows it is cut off, and with it what
  the reader looked ahead at.

  Key definitions include:
    * `Lexeme.openingPairs`
    * `Lexeme.IsPlain`
    * `Token.Inert`
    * `Token.IsHarmless`

  Key theorems include:
    * `Region.Stands.cut`
    * `Lexeme.char_iff_isPlain`
    * `Lexeme.Stands.cut`
    * `Lexeme.Cuts.split_run`
    * `Token.Spells.isHarmless`
    * `Token.Merges.exists_shown`
    * `Token.text_is_inert`
-/

namespace SqlAccess

------------------------------------------------------------
-- Parts That End Where a Text Is Cut
------------------------------------------------------------

namespace Region

/- No quote comes right after the end of a quotation. -/
theorem Quoted.head?_ne
    {quote : Char}
    {body rest : List Char}
    (hBody : Quoted quote body rest) :
    rest.head? ≠ some quote := by
  induction hBody with
  | closed hNext => exact hNext
  | unclosed => simp
  | doubled hBody ih => exact ih
  | char hChar hBody ih => exact ih

/-
  A part of a text is one also where the text is cut off, be
  it right after the part.
-/
theorem Stands.cut
    {part more rest : List Char}
    (hPart : Stands part (more ++ rest)) :
    Stands part more := by
  by_cases hText : more ++ rest = []
  · rw [(List.append_eq_nil_iff.1 hText).1]
    rwa [hText] at hPart
  · rcases hPart.before hText more with
      hStands | ⟨quote, body, later, -, -, rfl, hBody⟩
    · exact hStands
    · exact absurd rfl hBody.head?_ne

end Region

namespace Lexeme

------------------------------------------------------------
-- Single Characters
------------------------------------------------------------

/- The pairs of characters that begin something. -/
def openingPairs : List (Char × Char) :=
  [('-', '-'), ('/', '*'), ('\\', '\x7b'), ('\\', '\x7d'),
    (':', ':'), ('$', '$')]

/-
  Whether a character is text by itself, given the one that
  comes next, if any does: it begins nothing alone, nor with
  the next one, and it is no sigil in front of a name.
-/
structure IsPlain
    (c : Char)
    (next : Option Char) :
    Prop where
  single : c ∉ ['\x27', '\"', '\x7b', '\x7d', '?']
  pair : ∀ d ∈ next, (c, d) ∉ openingPairs
  sigil :
    c = ':' ∨ c = '$' →
      ∀ d ∈ next, Region.isNameStart d = false

/- What comes next matters only if something does. -/
theorem IsPlain.cut
    {c : Char}
    {more rest : List Char}
    (hPlain : IsPlain c (more ++ rest).head?) :
    IsPlain c more.head? := by
  cases more with
  | nil => exact ⟨hPlain.single, by simp, by simp⟩
  | cons d more => exact hPlain

/- A question mark always begins something. -/
theorem read_question_ne (rest : List Char) :
    (read '?' rest).1 ≠ verbatim ['?'] := by
  have hNone : Region.read? ('?' :: rest) = none := rfl
  simp only [read, hNone]
  unfold readPlain
  split <;> simp_all [readPositional]

/- A sigil in front of a name begins a placeholder. -/
theorem readNamed_ne
    {sigil c : Char}
    {rest : List Char}
    (hStart : Region.isNameStart c = true) :
    (readNamed sigil (c :: rest)).1 ≠
      verbatim [sigil] := by
  simp [readNamed, Region.leadingName, hStart]

section Plain

variable {c : Char} {rest : List Char}

/- No part begins at a character that begins no lexeme. -/
theorem read?_of_char
    (hOther :
      ∀ lexeme after, Special lexeme after →
        c :: rest ≠ lexeme.source ++ after) :
    Region.read? (c :: rest) = none := by
  cases hRead : Region.read? (c :: rest) with
  | none => rfl
  | some parts =>
      rcases Region.read?_eq_some_iff.1 hRead with
        ⟨hText, hPart⟩
      exact absurd hText (hOther _ _ (.region hPart))

/- A character that begins no lexeme is plain. -/
theorem isPlain_of_char
    (hOther :
      ∀ lexeme after, Special lexeme after →
        c :: rest ≠ lexeme.source ++ after) :
    IsPlain c rest.head? where
  single := by
    intro hMem
    simp only [List.mem_cons, List.not_mem_nil, or_false]
      at hMem
    have hNone := read?_of_char hOther
    rcases hMem with rfl | rfl | rfl | rfl | rfl
    · cases hNone
    · cases hNone
    · exact hOther _ rest .opening rfl
    · exact hOther _ rest .closing rfl
    · rcases special_read '?' rest with hSpecial | hRead
      · exact hOther _ _ hSpecial
          (source_append_read '?' rest).symm
      · exact read_question_ne rest
          (congrArg Prod.fst hRead)
  pair := by
    intro d hHead hMem
    have hNone := read?_of_char hOther
    rcases List.head?_eq_some_iff.1 hHead with
      ⟨more, rfl⟩
    simp only [openingPairs, List.mem_cons, Prod.mk.injEq,
      List.not_mem_nil, or_false] at hMem
    rcases hMem with
      ⟨rfl, rfl⟩ | ⟨rfl, rfl⟩ |
        ⟨rfl, rfl⟩ | ⟨rfl, rfl⟩ |
        ⟨rfl, rfl⟩ | ⟨rfl, rfl⟩
    · cases hNone
    · cases hNone
    · exact hOther _ more (.brace (.inl rfl)) rfl
    · exact hOther _ more (.brace (.inr rfl)) rfl
    · exact hOther _ more .colons rfl
    · have hMark :
          Region.dollarMark? ('$' :: more) =
            some ['$', '$'] :=
        Region.dollarMark?_eq_some_iff.2
          ⟨[], more, .inl rfl, rfl, rfl⟩
      simp [Region.read?, Region.readDollar?, hMark]
        at hNone
  sigil := by
    intro hSigil d hHead
    have hNone := read?_of_char hOther
    rcases List.head?_eq_some_iff.1 hHead with
      ⟨more, rfl⟩
    rcases special_readNamed hSigil fun _ => hNone with
      hSpecial | hRead
    · exact absurd (source_append_readNamed c _).symm
        (hOther _ _ hSpecial)
    · rw [← Bool.not_eq_true]
      exact fun hStart =>
        readNamed_ne hStart (congrArg Prod.fst hRead)

/- What begins a lexeme is not text by itself. -/
theorem Special.not_isPlain
    {lexeme : Lexeme}
    {after : List Char}
    (hSpecial : Special lexeme after)
    (hText : c :: rest = lexeme.source ++ after) :
    ¬ IsPlain c rest.head? := by
  intro hPlain
  cases hSpecial with
  | region hRegion =>
      cases hRegion with
      | quotation hQuote hBody =>
          cases hText
          rcases hQuote with rfl | rfl
          · exact hPlain.single (by decide)
          · exact hPlain.single (by decide)
      | line hBody =>
          cases hText
          exact hPlain.pair '-' rfl (by decide)
      | comment hBody =>
          cases hText
          exact hPlain.pair '*' rfl (by decide)
      | dollar hTag hBody =>
          cases hText
          rcases hTag with
            rfl | ⟨d, more, rfl, hStart, -⟩
          · exact hPlain.pair '$' rfl (by decide)
          · have hNone := hPlain.sigil (.inr rfl) d rfl
            rw [hStart] at hNone
            cases hNone
  | colons =>
      cases hText
      exact hPlain.pair ':' rfl (by decide)
  | brace hChar =>
      cases hText
      rcases hChar with rfl | rfl
      · exact hPlain.pair _ rfl (by decide)
      · exact hPlain.pair _ rfl (by decide)
  | named hSigil hName =>
      rcases hName with ⟨d, more, rfl, hStart, -⟩
      cases hText
      have hNone := hPlain.sigil hSigil d rfl
      rw [hStart] at hNone
      cases hNone
  | _ =>
      cases hText
      exact hPlain.single (by decide)

/-
  Whether a character is a lexeme by itself depends on the
  next one only.
-/
theorem char_iff_isPlain :
    (∀ lexeme after, Special lexeme after →
        c :: rest ≠ lexeme.source ++ after) ↔
      IsPlain c rest.head? := by
  constructor
  · exact isPlain_of_char
  · intro hPlain lexeme after hSpecial hText
    exact hSpecial.not_isPlain hText hPlain

end Plain

------------------------------------------------------------
-- Runs of Text
------------------------------------------------------------

/-
  Text is a lexeme also where what follows it is cut off.
-/
theorem Stands.cut
    {text more rest : List Char}
    (hText : Stands (verbatim text) (more ++ rest)) :
    Stands (verbatim text) more := by
  cases hText with
  | char hOther =>
      rw [char_iff_isPlain] at hOther
      exact .char (char_iff_isPlain.2 hOther.cut)
  | special hSpecial =>
      cases hSpecial with
      | region hRegion =>
          exact .special (.region hRegion.cut)
      | colons => exact .special .colons
      | operator hChar => exact .special (.operator hChar)

/-
  A run of text in front of other lexemes is the same run
  where the text ends with it.
-/
theorem Cuts.split_run
    {text : List Char}
    {run : List (List Char)}
    {lexemes : List Lexeme}
    (hCuts : Cuts text (run.map verbatim ++ lexemes)) :
    ∃ rest,
      text = run.flatten ++ rest ∧ Cuts rest lexemes ∧
        Cuts run.flatten (run.map verbatim) := by
  induction run generalizing text with
  | nil => exact ⟨text, rfl, hCuts, .nil⟩
  | cons chars run ih =>
      cases hCuts with
      | cons hLexeme hRest =>
          rcases ih hRest with
            ⟨rest, rfl, hOthers, hRun⟩
          refine ⟨rest, ?_, hOthers,
            .cons hLexeme.cut hRun⟩
          rw [List.flatten_cons, List.append_assoc]
          rfl

end Lexeme

------------------------------------------------------------
-- Tokens
------------------------------------------------------------

namespace Token

/-
  Whether text means nothing to a template: read by itself,
  it is one token, and all its lexemes are text.
-/
structure Inert (chars : List Char) : Prop where
  ofText : ofText chars = .ok [text chars]
  verbatim : ∀ lexeme ∈ Lexeme.all chars,
    IsVerbatim lexeme

/- Text that is cut into characters is inert. -/
theorem inert_of_cuts
    {run : List (List Char)}
    (hRun : run ≠ [])
    (hCuts : Lexeme.Cuts run.flatten (run.map .verbatim)) :
    Inert run.flatten where
  ofText := by
    have hSpells :
        Spells 0 0 (run.map .verbatim ++ [])
          [text run.flatten] :=
      .text hRun (by simp) .done
    rw [List.append_nil] at hSpells
    rw [Token.ofText, Lexeme.cuts_iff.1 hCuts]
    exact ofLexemes_eq_ok_iff.2 hSpells
  verbatim := by
    rw [Lexeme.cuts_iff.1 hCuts]
    intro lexeme hMem
    rcases List.mem_map.1 hMem with ⟨chars, -, rfl⟩
    exact ⟨chars, rfl⟩

/- A brace or a question mark is not inert. -/
theorem Inert.not_mem
    {chars : List Char}
    (hInert : Inert chars) :
    chars ∉ [['\x7b'], ['\x7d'], ['?']] := by
  intro hMem
  have hText := hInert.ofText
  simp only [List.mem_cons, List.not_mem_nil, or_false]
    at hMem
  rcases hMem with rfl | rfl | rfl
  · exact absurd hText (by decide +kernel)
  · exact absurd hText (by decide +kernel)
  · exact absurd hText (by decide +kernel)

/-
  Whether a token that shows some text is a character that
  was escaped, or text that means nothing to a template.
-/
def IsHarmless (token : Token) (chars : List Char) : Prop :=
  (∃ c, token = .escaped c ∧ chars = [c] ∧
      c ∈ ['\x7b', '\x7d', '?']) ∨
    (token = .text chars ∧ Inert chars)

/- What a token shows of a text is harmless. -/
theorem isHarmless_of_means
    {offset index : Nat}
    {lexeme : Lexeme}
    {token : Token}
    {chars : List Char}
    (hLexeme : lexeme.Proper)
    (hToken : Means offset index lexeme token)
    (hShown : token.shown? = some chars) :
    token.IsHarmless chars := by
  cases hToken with
  | @escape mark c =>
      cases hShown
      have hEscape := hLexeme.escape mark c rfl
      simp only [Lexeme.escapes, List.mem_cons,
        Prod.mk.injEq, List.not_mem_nil, or_false]
        at hEscape
      refine .inl ⟨c, rfl, rfl, ?_⟩
      rcases hEscape with
        ⟨-, rfl⟩ | ⟨-, rfl⟩ | ⟨-, rfl⟩
      · decide
      · decide
      · decide
  | opening => cases hShown
  | closing => cases hShown
  | positional hTag => cases hShown
  | named hTag => cases hShown

/-
  The tokens that show the text of a template are harmless.
-/
theorem Spells.isHarmless
    {offset index : Nat}
    {text : List Char}
    {lexemes : List Lexeme}
    {tokens : List Token}
    (hSpells : Spells offset index lexemes tokens)
    (hCuts : Lexeme.Cuts text lexemes) :
    ∀ token ∈ tokens, ∀ chars,
      token.shown? = some chars →
        token.IsHarmless chars := by
  induction hSpells generalizing text with
  | done => simp
  | text hRun hEnd hRest ih =>
      rcases hCuts.split_run with
        ⟨rest, -, hOthers, hCutRun⟩
      refine List.forall_mem_cons.2 ⟨?_, ih hOthers⟩
      rintro chars ⟨⟩
      exact .inr ⟨rfl, inert_of_cuts hRun hCutRun⟩
  | single hToken hRest ih =>
      cases hCuts with
      | cons hLexeme hOthers =>
          refine List.forall_mem_cons.2 ⟨?_, ih hOthers⟩
          intro chars hShown
          exact isHarmless_of_means
            (Lexeme.proper_of_stands hLexeme) hToken hShown

end Token

------------------------------------------------------------
-- Text That Reaches a Statement
------------------------------------------------------------

/- The text of a tree is what tokens show. -/
theorem Token.Merges.exists_shown
    {tokens : List Token}
    {pieces : List Forest.Piece}
    {text : String}
    (hMerges : Merges tokens pieces)
    (hMem : .literal text ∈ pieces) :
    ∃ parts : List (List Char),
      text.toList = parts.flatten ∧
        ∀ part ∈ parts, ∃ token ∈ tokens,
          token.shown? = some part := by
  induction hMerges with
  | done => cases hMem
  | @text run rest pieces contents hRun hShown hEnd
    hRest ih =>
      rcases List.mem_cons.1 hMem with hText | hMem
      · cases hText
        refine ⟨contents, String.toList_ofList, ?_⟩
        intro part hPart
        have hSome : some part ∈ run.map shown? := by
          rw [hShown]
          exact List.mem_map_of_mem hPart
        rcases List.mem_map.1 hSome with
          ⟨token, hToken, hEq⟩
        exact ⟨token, List.mem_append_left _ hToken,
          hEq⟩
      · rcases ih hMem with ⟨parts, hParts, hTokens⟩
        refine ⟨parts, hParts, fun part hPart => ?_⟩
        rcases hTokens part hPart with
          ⟨token, hToken, hEq⟩
        exact ⟨token, List.mem_append_right _ hToken,
          hEq⟩
  | single hPiece hRest ih =>
      rcases List.mem_cons.1 hMem with rfl | hMem
      · cases hPiece
      · rcases ih hMem with ⟨parts, hParts, hTokens⟩
        refine ⟨parts, hParts, fun part hPart => ?_⟩
        rcases hTokens part hPart with
          ⟨token, hToken, hEq⟩
        exact ⟨token, List.mem_cons_of_mem _ hToken,
          hEq⟩

/- What stays of a tree is among its pieces. -/
theorem Forest.literal_mem_flatten
    {bound : String → Bool}
    {forest : Forest}
    {text : String}
    (hMem : .literal text ∈ forest.segments bound) :
    .literal text ∈ forest.flatten := by
  rw [segments_eq_retained] at hMem
  have hAll :
      Segment.literal text ∈
        forest.occurrences.map Occurrence.segment :=
    (List.filter_sublist.map _).subset hMem
  rw [occurrences, map_segment_occurrencesIn,
    List.mem_filterMap] at hAll
  rcases hAll with ⟨piece, hPiece, hSegment⟩
  cases piece with
  | literal more =>
      cases hSegment
      exact hPiece
  | _ => cases hSegment

/-
  Every token of text of a template is a brace or a question
  mark that was escaped, or it is none of these characters
  and the scanner has it as one token again.  Whatever
  blocks stay, all the text that reaches the statement
  consists of such tokens, so that no placeholder, delimiter
  or escape is left in it.
-/
theorem Token.text_is_inert
    {source : String}
    {tokens : List Token}
    (hTokens : ofText source.toList = .ok tokens) :
    (∀ token ∈ tokens, ∀ chars,
      token.shown? = some chars →
        ((∃ c, token = .escaped c) ∧
            chars ∈ [['\x7b'], ['\x7d'], ['?']]) ∨
          (token = .text chars ∧
            chars ∉ [['\x7b'], ['\x7d'], ['?']] ∧
            ofText chars = .ok [.text chars] ∧
            ∀ lexeme ∈ Lexeme.all chars,
              IsVerbatim lexeme)) ∧
      ∀ template,
        Template.compile source = .ok template →
          ∀ (bound : String → Bool) (text : String),
            .literal text ∈
              template.forest.segments bound →
              ∃ parts : List (List Char),
                text.toList = parts.flatten ∧
                  ∀ part ∈ parts, ∃ token ∈ tokens,
                    token.shown? = some part := by
  constructor
  · intro token hMem chars hShown
    have hSpells := ofLexemes_eq_ok_iff.1 hTokens
    rcases hSpells.isHarmless
      (Lexeme.cuts_all source.toList)
        token hMem chars hShown with
      ⟨c, rfl, rfl, hChar⟩ | ⟨hText, hInert⟩
    · left
      exact ⟨⟨c, rfl⟩,
        List.mem_map_of_mem (f := ([·])) hChar⟩
    · right
      exact ⟨hText, hInert.not_mem, hInert.ofText,
        hInert.verbatim⟩
  · intro template hTemplate bound text hText
    rcases Template.compile_eq_ok_iff.1 hTemplate with
      ⟨-, others, hOthers, hScan, hForest⟩
    rw [hTokens] at hOthers
    cases hOthers
    have hMerges := Forest.merges_ofTokens hScan
    rw [hForest] at hMerges
    exact hMerges.exists_shown
      (Forest.literal_mem_flatten hText)

/-
  Tokens of text that end where something follows: a dollar
  sign, a minus sign and a colon alone, a quotation with a
  minus sign after it, and text between dollar tags.
-/
theorem Token.text_is_inert_sample :
    let source := "$?-\x7b'?'-\x7d:\\\x7d$1$t$?$t$"
    let quoted := ['\x27', '?', '\x27', '-']
    let dollars :=
      ['$', '1', '$', 't', '$', '?', '$', 't', '$']
    let tokens :=
      [.text ['$'], .positional 0 none, .text ['-'],
        .opening 3, .text quoted, .closing 8, .text [':'],
          .escaped '\x7d',
        .text dollars]
    ofText source.toList = .ok tokens ∧
      ofText quoted = .ok [.text quoted] ∧
      ofText dollars = .ok [.text dollars] := by
  intro source quoted dollars tokens
  have hTokens : ofText source.toList = .ok tokens := by
    decide +kernel
  have hInert := (text_is_inert hTokens).1
  refine ⟨hTokens, ?_, ?_⟩
  · rcases hInert (.text quoted)
      (by decide) quoted rfl with
      ⟨⟨c, hEscaped⟩, -⟩ | ⟨-, -, hAgain, -⟩
    · cases hEscaped
    · exact hAgain
  · rcases hInert (.text dollars)
      (by decide) dollars rfl with
      ⟨⟨c, hEscaped⟩, -⟩ | ⟨-, -, hAgain, -⟩
    · cases hEscaped
    · exact hAgain

end SqlAccess
