import Mathlib.Data.List.Forall2
import SqlAccess.Proofs.Template.Token

/-
  This file says where in the text of a template its tokens
  stand: they cut the text into parts that follow one
  another, begin and end between characters, and are not
  empty.  The places are offsets in bytes.

  Key definitions include:
    * `Span`
    * `Span.Holds`
    * `Span.Tiles`
    * `Token.Spelled`
    * `Lexeme.Proper`
    * `Lexeme.Taken`
    * `Lexeme.Covers`

  Key theorems include:
    * `Span.exists_holds`
    * `Span.Tiles.increasing`
    * `Lexeme.proper_of_mem_all`
    * `Lexeme.exists_tiles`
    * `Token.Spells.exists_tiles`
    * `Token.ofText_partition`
-/

namespace SqlAccess

------------------------------------------------------------
-- Spans
------------------------------------------------------------

/-
  A part of a text between two places in it.  A place is
  where a character of the text starts, or the end of the
  text.
-/
structure Span (source : String) where
  start : source.Pos
  stop : source.Pos
  start_le_stop : start ≤ stop

namespace Span

variable {source : String}

/- The offset of the start in bytes. -/
def offset (span : Span source) : Nat :=
  span.start.offset.byteIdx

/- The offset of the end in bytes. -/
def ending (span : Span source) : Nat :=
  span.stop.offset.byteIdx

/- What stands between the two places. -/
def text (span : Span source) : String :=
  source.extract span.start span.stop

/- Whether characters stand at an offset. -/
structure Holds
    (span : Span source)
    (place : Nat)
    (chars : List Char) : Prop where
  offset : span.offset = place
  ending : span.ending = place + Token.byteSize chars
  text : span.text = String.ofList chars

/- A text has the bytes of its characters. -/
theorem utf8ByteSize_ofList (chars : List Char) :
    (String.ofList chars).utf8ByteSize =
      Token.byteSize chars := by
  induction chars with
  | nil => rfl
  | cons c rest ih =>
      have hCons :
          String.ofList (c :: rest) =
            String.singleton c ++ String.ofList rest := by
        rw [String.singleton_eq_ofList,
          ← String.ofList_append]
        rfl
      rw [hCons, String.utf8ByteSize_append,
        String.utf8ByteSize_singleton, ih, Token.byteSize]

/- The characters of a text have its bytes. -/
theorem byteSize_toList :
    Token.byteSize source.toList = source.utf8ByteSize := by
  rw [← utf8ByteSize_ofList, String.ofList_toList]

/- Every character takes a byte. -/
theorem byteSize_pos
    {chars : List Char}
    (hChars : chars ≠ []) : 0 < Token.byteSize chars := by
  cases chars with
  | nil => exact absurd rfl hChars
  | cons c rest =>
      have hSize := c.utf8Size_pos
      rw [Token.byteSize]
      omega

/- Between two parts of a text there is a place. -/
theorem isValid_of_append
    {front back : List Char}
    (hSource : source.toList = front ++ back) :
    String.Pos.Raw.IsValid source
      ⟨Token.byteSize front⟩ := by
  rw [String.Pos.Raw.isValid_iff_exists_append]
  refine ⟨String.ofList front, String.ofList back,
    ?_, ?_⟩
  · rw [← String.ofList_append, ← hSource,
      String.ofList_toList]
  · rw [String.Pos.Raw.ext_iff, String.byteIdx_rawEndPos,
      utf8ByteSize_ofList]

/- The middle of three parts is found by their sizes. -/
theorem extract_middle (front middle back : ByteArray) :
    (front ++ middle ++ back).extract front.size
        (front.size + middle.size) = middle := by
  have hMiddle :=
    ByteArray.extract_append_size_add (a := front)
      (b := middle ++ back) (i := 0) (j := middle.size)
  rw [Nat.add_zero, ← ByteArray.append_assoc] at hMiddle
  exact hMiddle.trans (ByteArray.extract_append_eq_left rfl)

/- Characters of a text stand in a part of it. -/
theorem exists_holds
    {front chars back : List Char}
    (hSource : source.toList = front ++ chars ++ back) :
    ∃ span : Span source,
      span.Holds (Token.byteSize front) chars := by
  have hStart :
      String.Pos.Raw.IsValid source
        ⟨Token.byteSize front⟩ :=
    isValid_of_append
      (hSource.trans (List.append_assoc _ _ _))
  have hStop :
      String.Pos.Raw.IsValid source
        ⟨Token.byteSize (front ++ chars)⟩ :=
    isValid_of_append hSource
  have hSize := Token.byteSize_append front chars
  have hOrder :
      Token.byteSize front ≤
        Token.byteSize (front ++ chars) := by
    omega
  refine ⟨⟨⟨_, hStart⟩, ⟨_, hStop⟩, hOrder⟩,
    rfl, hSize, ?_⟩
  have hBytes :
      source.toByteArray =
        (String.ofList front).toByteArray ++
          (String.ofList chars).toByteArray ++
          (String.ofList back).toByteArray := by
    rw [← String.toByteArray_append,
      ← String.toByteArray_append,
      ← String.ofList_append, ← String.ofList_append,
      ← hSource, String.ofList_toList]
  have hMiddle :=
    extract_middle (String.ofList front).toByteArray
      (String.ofList chars).toByteArray
      (String.ofList back).toByteArray
  rw [← hBytes, String.size_toByteArray,
    String.size_toByteArray, utf8ByteSize_ofList,
    utf8ByteSize_ofList, ← hSize] at hMiddle
  rw [text, ← String.toByteArray_inj,
    String.toByteArray_extract]
  exact hMiddle

------------------------------------------------------------
-- Tilings
------------------------------------------------------------

/-
  Spans from one offset to another: each starts where the
  one before it ends, and none is empty.
-/
inductive Tiles : Nat → Nat →
  List (Span source) → Prop
  | nil {place} : Tiles place place []
  | cons {span spans place}
      (hNonempty : span.offset < span.ending)
      (hRest : Tiles span.ending place spans) :
      Tiles span.offset place (span :: spans)

/- No tile lies in front of the first place. -/
theorem Tiles.le_offset
    {first last : Nat}
    {spans : List (Span source)}
    (hTiles : Tiles first last spans)
    {span : Span source}
    (hMem : span ∈ spans) :
    first ≤ span.offset := by
  induction hTiles with
  | nil => exact absurd hMem List.not_mem_nil
  | cons hNonempty hRest ih =>
      rcases List.mem_cons.1 hMem with rfl | hMem
      · exact Nat.le_refl _
      · exact Nat.le_trans (Nat.le_of_lt hNonempty)
          (ih hMem)

/- Each span starts after the start of the one before it. -/
theorem Tiles.increasing
    {first last : Nat}
    {spans : List (Span source)}
    (hTiles : Tiles first last spans) :
    (spans.map offset).Pairwise (· < ·) := by
  induction hTiles with
  | nil => exact .nil
  | @cons span spans place hNonempty hRest ih =>
      refine .cons ?_ ih
      intro later hLater
      rcases List.mem_map.1 hLater with
        ⟨other, hMem, rfl⟩
      exact Nat.lt_of_lt_of_le hNonempty
        (hRest.le_offset hMem)

/- Characters in front of tiles are one more tile. -/
theorem exists_tile
    {Item : Type}
    {IsAt : Item → Span source → Prop}
    {front chars back : List Char}
    {last : Nat}
    {item : Item}
    {items : List Item}
    (hChars : chars ≠ [])
    (hSource : source.toList = front ++ chars ++ back)
    (hItem :
      ∀ span : Span source,
        span.Holds (Token.byteSize front) chars →
          IsAt item span)
    (hRest :
      ∃ spans : List (Span source),
        Tiles (Token.byteSize (front ++ chars)) last
          spans ∧
          List.Forall₂ IsAt items spans) :
    ∃ spans : List (Span source),
      Tiles (Token.byteSize front) last spans ∧
        List.Forall₂ IsAt (item :: items) spans := by
  rcases exists_holds hSource with ⟨span, hSpan⟩
  rcases hRest with ⟨spans, hTiles, hItems⟩
  have hPositive := byteSize_pos hChars
  have hNonempty : span.offset < span.ending := by
    rw [hSpan.offset, hSpan.ending]
    omega
  rw [Token.byteSize_append, ← hSpan.ending] at hTiles
  have hAll := Tiles.cons hNonempty hTiles
  rw [hSpan.offset] at hAll
  exact ⟨span :: spans, hAll,
    .cons (hItem span hSpan) hItems⟩

end Span

------------------------------------------------------------
-- Lexemes
------------------------------------------------------------

namespace Lexeme

/- The pairs that stand for their second character. -/
def escapes : List (Char × Char) :=
  [('?', '?'), ('\\', '\x7b'), ('\\', '\x7d')]

/-
  What holds of every lexeme that is read: it is not empty,
  an escape is one of the known pairs, and a name has a
  sigil.
-/
structure Proper (lexeme : Lexeme) : Prop where
  source_ne_nil : lexeme.source ≠ []
  escape :
    ∀ mark c, lexeme = .escape mark c →
      (mark, c) ∈ escapes
  sigil :
    ∀ sigil name suffix,
      lexeme = .named sigil name suffix →
      sigil = ':' ∨ sigil = '$'

/- A lexeme that the grammar has is proper. -/
theorem proper_of_stands
    {lexeme : Lexeme}
    {rest : List Char}
    (hLexeme : Stands lexeme rest) :
    lexeme.Proper := by
  refine ⟨source_ne_nil_of_stands hLexeme, ?_, ?_⟩
  · intro mark c hEscape
    subst hEscape
    cases hLexeme with
    | special hSpecial =>
        cases hSpecial with
        | question => decide
        | brace hChar =>
            rcases hChar with hChar | hChar
            · subst hChar
              decide
            · subst hChar
              decide
  · intro sigil name suffix hNamed
    subst hNamed
    cases hLexeme with
    | special hSpecial =>
        cases hSpecial with
        | named hSigil => exact hSigil

/- The lexemes of a text are proper. -/
theorem proper_of_cuts
    {text : List Char}
    {lexemes : List Lexeme}
    (hCuts : Cuts text lexemes) :
    ∀ lexeme ∈ lexemes, lexeme.Proper := by
  induction hCuts with
  | nil => simp
  | cons hLexeme hRest ih =>
      intro lexeme hMem
      rcases List.mem_cons.1 hMem with rfl | hMem
      · exact proper_of_stands hLexeme
      · exact ih lexeme hMem

/- The lexemes of a text are proper. -/
theorem proper_of_mem_all
    {text : List Char}
    {lexeme : Lexeme}
    (hMem : lexeme ∈ all text) :
    lexeme.Proper :=
  proper_of_cuts (cuts_all text) lexeme hMem

/-
  The parts that are taken out of a lexeme, each behind what
  stands before it: all of it, the second character of a
  pair, a name, the tag of text between dollar tags, and the
  run behind an exclamation mark.
-/
inductive Taken :
    Lexeme → List Char → List Char → Prop
  | whole {lexeme} : Taken lexeme [] lexeme.source
  | escaped {mark c} : Taken (.escape mark c) [mark] [c]
  | name {sigil name suffix} :
      Taken (.named sigil name suffix) [sigil] name
  | dollarTag {tag body} :
      Taken (.verbatim ('$' :: tag ++ '$' :: body))
        ['$'] tag
  | run {lexeme run}
      (hSuffix : lexeme.suffix? = some run) :
      Taken lexeme (lexeme.stem ++ ['!']) run

/-
  A suffix stands behind the stem and an exclamation mark.
-/
theorem source_of_suffix
    {lexeme : Lexeme}
    {run : List Char}
    (hSuffix : lexeme.suffix? = some run) :
    lexeme.source = lexeme.stem ++ '!' :: run := by
  cases lexeme with
  | positional suffix =>
      simp only [suffix?] at hSuffix
      simp [source, stem, suffixSource, hSuffix]
  | named sigil name suffix =>
      simp only [suffix?] at hSuffix
      simp [source, stem, suffixSource, hSuffix]
  | _ => cases hSuffix

/- A suffix stands behind something. -/
theorem stem_ne_nil
    {lexeme : Lexeme}
    {run : List Char}
    (hSuffix : lexeme.suffix? = some run) :
    lexeme.stem ≠ [] := by
  cases lexeme with
  | positional suffix => exact List.cons_ne_nil _ _
  | named sigil name suffix => exact List.cons_ne_nil _ _
  | _ => cases hSuffix

/- What is taken out of a lexeme is a part of it. -/
theorem Taken.source_eq
    {lexeme : Lexeme}
    {before part : List Char}
    (hTaken : lexeme.Taken before part) :
    ∃ after, lexeme.source = before ++ part ++ after := by
  cases hTaken with
  | whole => exact ⟨[], by simp⟩
  | escaped => exact ⟨[], rfl⟩
  | @name sigil name suffix =>
      exact ⟨suffixSource suffix, rfl⟩
  | @dollarTag tag body => exact ⟨'$' :: body, rfl⟩
  | run hSuffix =>
      refine ⟨[], ?_⟩
      rw [source_of_suffix hSuffix]
      simp

/-
  Whether a lexeme is a part of a text: it is what stands
  there, and what is taken out of it is a part of that part.
-/
structure Covers
    {source : String}
    (lexeme : Lexeme)
    (span : Span source) : Prop where
  text : span.text = String.ofList lexeme.source
  taken :
    ∀ before part, lexeme.Taken before part →
      ∃ inner : Span source,
        inner.Holds
            (span.offset + Token.byteSize before) part ∧
          inner.ending ≤ span.ending

section Tilings

variable {source : String}

/-
  What holds the characters of a lexeme is a part of the
  text for it.
-/
theorem covers_of_holds
    {lexeme : Lexeme}
    {front back : List Char}
    {span : Span source}
    (hSource :
      source.toList = front ++ lexeme.source ++ back)
    (hSpan :
      span.Holds (Token.byteSize front) lexeme.source) :
    lexeme.Covers span := by
  refine ⟨hSpan.text, ?_⟩
  intro before part hTaken
  rcases hTaken.source_eq with ⟨after, hParts⟩
  have hSplit :
      source.toList =
        (front ++ before) ++ part ++ (after ++ back) := by
    rw [hSource, hParts]
    simp only [List.append_assoc]
  rcases Span.exists_holds hSplit with ⟨inner, hInner⟩
  have hSize := congrArg Token.byteSize hParts
  simp only [Token.byteSize_append] at hSize
  refine ⟨inner, ?_, ?_⟩
  · rw [hSpan.offset, ← Token.byteSize_append]
    exact hInner
  · rw [hInner.ending, hSpan.ending, Token.byteSize_append]
    omega

/- Lexemes tile what they make up. -/
theorem exists_tiles
    {lexemes : List Lexeme}
    {front back : List Char}
    (hProper : ∀ lexeme ∈ lexemes, lexeme.Proper)
    (hSource :
      source.toList =
        front ++ lexemes.flatMap Lexeme.source ++ back) :
    ∃ spans : List (Span source),
      Span.Tiles (Token.byteSize front)
          (Token.byteSize
            (front ++ lexemes.flatMap Lexeme.source))
          spans ∧
        List.Forall₂ Covers lexemes spans := by
  induction lexemes generalizing front with
  | nil =>
      rw [List.flatMap_nil, List.append_nil]
      exact ⟨[], .nil, .nil⟩
  | cons lexeme rest ih =>
      rw [List.flatMap_cons] at hSource ⊢
      have hHere := hProper lexeme List.mem_cons_self
      have hSplit :
          source.toList =
            front ++ lexeme.source ++
              (rest.flatMap Lexeme.source ++ back) := by
        rw [hSource]
        simp only [List.append_assoc]
      have hLater :
          source.toList =
            (front ++ lexeme.source) ++
              rest.flatMap Lexeme.source ++ back := by
        rw [hSource]
        simp only [List.append_assoc]
      have hTiles :=
        ih (fun lexeme hMem =>
            hProper lexeme (List.mem_cons_of_mem _ hMem))
          hLater
      rw [List.append_assoc] at hTiles
      exact Span.exists_tile hHere.source_ne_nil hSplit
        (fun span => covers_of_holds hSplit) hTiles

end Tilings

end Lexeme

namespace Token

------------------------------------------------------------
-- Tokens
------------------------------------------------------------

/- What a type tag is written as. -/
def tagSource : Option TypeTag → List Char
  | none => []
  | some tag => ['!', tag.letter]

/-
  The characters at an offset that a token may stand for.
-/
inductive Spelled
    (offset : Nat) :
    Token → List Char → Prop
  | text {chars} : Spelled offset (.text chars) chars
  | escaped {mark c}
      (hPair : (mark, c) ∈ Lexeme.escapes) :
      Spelled offset (.escaped c) [mark, c]
  | named {sigil name tag}
      (hSigil : sigil = ':' ∨ sigil = '$') :
      Spelled offset (.named name tag)
        (sigil :: name.toList ++ tagSource tag)
  | positional {index tag} :
      Spelled offset (.positional index tag)
        ('?' :: tagSource tag)
  | opening : Spelled offset (.opening offset) ['\x7b']
  | closing : Spelled offset (.closing offset) ['\x7d']

/- Whether a token stands for a part of a text. -/
def StandsFor
    {source : String}
    (token : Token)
    (span : Span source) : Prop :=
  token.Spelled span.offset span.text.toList

/- A token stands for the part that holds its characters. -/
theorem standsFor_of_holds
    {source : String}
    {token : Token}
    {offset : Nat}
    {chars : List Char}
    {span : Span source}
    (hToken : token.Spelled offset chars)
    (hSpan : span.Holds offset chars) :
    token.StandsFor span := by
  unfold StandsFor
  rw [hSpan.offset, hSpan.text, String.toList_ofList]
  exact hToken

/- A tag is written as the suffix that it was read from. -/
theorem suffixSource_of_tagged
    {suffix : Option (List Char)}
    {tag : Option TypeTag}
    (hTag : Tagged suffix tag) :
    Lexeme.suffixSource suffix = tagSource tag := by
  cases hTag with
  | none => rfl
  | some tag => rfl

/-
  The token of a lexeme other than text is spelled by it.
-/
theorem spelled_of_means
    {offset index : Nat}
    {lexeme : Lexeme}
    {token : Token}
    (hToken : Means offset index lexeme token)
    (hProper : lexeme.Proper) :
    token.Spelled offset lexeme.source := by
  cases hToken with
  | escape => exact .escaped (hProper.escape _ _ rfl)
  | opening => exact .opening
  | closing => exact .closing
  | positional hTag =>
      rw [Lexeme.source, suffixSource_of_tagged hTag]
      exact .positional
  | @named sigil name suffix tag hTag =>
      have hSpelled :
          Spelled offset (.named (String.ofList name) tag)
            (sigil :: (String.ofList name).toList ++
              tagSource tag) :=
        .named (hProper.sigil _ _ _ rfl)
      rw [String.toList_ofList] at hSpelled
      rw [Lexeme.source, suffixSource_of_tagged hTag]
      exact hSpelled

------------------------------------------------------------
-- Tilings by Tokens
------------------------------------------------------------

section Tilings

variable {source : String}

/- Text that means nothing is written as it is. -/
theorem flatMap_verbatim (run : List (List Char)) :
    (run.map Lexeme.verbatim).flatMap Lexeme.source =
      run.flatten := by
  induction run with
  | nil => rfl
  | cons chars run ih =>
      rw [List.map_cons, List.flatMap_cons, ih,
        List.flatten_cons]
      rfl

/- Tokens that lexemes spell tile what they make up. -/
theorem Spells.exists_tiles
    {offset index : Nat}
    {lexemes : List Lexeme}
    {tokens : List Token}
    (hSpells : Spells offset index lexemes tokens)
    {front back : List Char}
    (hProper : ∀ lexeme ∈ lexemes, lexeme.Proper)
    (hOffset : offset = byteSize front)
    (hSource :
      source.toList =
        front ++ lexemes.flatMap Lexeme.source ++ back) :
    ∃ spans : List (Span source),
      Span.Tiles offset
          (byteSize
            (front ++ lexemes.flatMap Lexeme.source))
          spans ∧
        List.Forall₂ StandsFor tokens spans := by
  induction hSpells generalizing front with
  | done =>
      rw [hOffset, List.flatMap_nil, List.append_nil]
      exact ⟨[], .nil, .nil⟩
  | @text offset index run rest tokens hRun hEnd hRest ih =>
      subst hOffset
      rw [List.flatMap_append, flatMap_verbatim]
        at hSource ⊢
      have hChars : run.flatten ≠ [] := by
        cases run with
        | nil => exact absurd rfl hRun
        | cons chars run =>
            have hFirst :=
              (hProper (.verbatim chars)
                (by simp)).source_ne_nil
            intro hNil
            exact hFirst (List.append_eq_nil_iff.1 hNil).1
      have hSplit :
          source.toList =
            front ++ run.flatten ++
              (rest.flatMap Lexeme.source ++ back) := by
        rw [hSource]
        simp only [List.append_assoc]
      have hLater :
          source.toList =
            front ++ run.flatten ++
              rest.flatMap Lexeme.source ++ back := by
        rw [hSource]
        simp only [List.append_assoc]
      have hTiles :=
        ih (fun lexeme hMem =>
            hProper lexeme (List.mem_append_right _ hMem))
          (byteSize_append front run.flatten).symm hLater
      rw [← byteSize_append, List.append_assoc] at hTiles
      exact Span.exists_tile hChars hSplit
        (fun span => standsFor_of_holds .text) hTiles
  | @single offset index lexeme token rest tokens
    hToken hRest
      ih =>
      subst hOffset
      rw [List.flatMap_cons] at hSource ⊢
      have hHere := hProper lexeme List.mem_cons_self
      have hSplit :
          source.toList =
            front ++ lexeme.source ++
              (rest.flatMap Lexeme.source ++ back) := by
        rw [hSource]
        simp only [List.append_assoc]
      have hLater :
          source.toList =
            front ++ lexeme.source ++
              rest.flatMap Lexeme.source ++ back := by
        rw [hSource]
        simp only [List.append_assoc]
      have hTiles :=
        ih (fun lexeme hMem =>
            hProper lexeme (List.mem_cons_of_mem _ hMem))
          (byteSize_append front lexeme.source).symm hLater
      rw [← byteSize_append, List.append_assoc] at hTiles
      have hToken := spelled_of_means hToken hHere
      exact Span.exists_tile hHere.source_ne_nil hSplit
        (fun span => standsFor_of_holds hToken) hTiles

/-
  A fault stands behind tokens that tile what precedes it,
  as no tag is malformed in front of the first one that is.
-/
theorem exists_tiles_of_failsAt
    {lexemes : List Lexeme}
    {fault : SyntaxFault}
    (hProper : ∀ lexeme ∈ lexemes, lexeme.Proper)
    (hSource :
      source.toList = lexemes.flatMap Lexeme.source)
    (hFails : FailsAt 0 lexemes fault) :
    ∃ (tokens : List Token) (spans : List (Span source))
      (place : Nat) (mark : Span source) (run : String),
      Span.Tiles 0 place spans ∧
        List.Forall₂ StandsFor tokens spans ∧
        place < mark.offset ∧
        mark.text = "!" ++ run ∧
        fault = .unknownTag mark.offset run := by
  rcases hFails with
    ⟨before, lexeme, after, run, hLexemes, hSound, hRun,
      hFault⟩
  subst hLexemes
  have hOk :
      ∃ tokens, ofLexemes 0 0 before = .ok tokens := by
    cases hResult : ofLexemes 0 0 before with
    | ok tokens => exact ⟨tokens, rfl⟩
    | error other =>
        have hOther :=
          exists_failsAt_iff.1
            ⟨other, ofLexemes_eq_error_iff.1 hResult⟩
        rcases hOther with ⟨earlier, hMem, more, hMore⟩
        exact absurd hMore (hSound earlier hMem more)
  rcases hOk with ⟨tokens, hTokens⟩
  rw [List.flatMap_append, List.flatMap_cons,
    Lexeme.source_of_suffix hRun.1] at hSource
  have hFront :
      source.toList =
        [] ++ before.flatMap Lexeme.source ++
          (lexeme.stem ++ '!' :: run ++
            after.flatMap Lexeme.source) :=
    hSource
  have hMark :
      source.toList =
        (before.flatMap Lexeme.source ++ lexeme.stem) ++
          '!' :: run ++ after.flatMap Lexeme.source := by
    rw [hSource]
    simp only [List.append_assoc]
  have hTiles :=
    (ofLexemes_eq_ok_iff.1 hTokens).exists_tiles
      (fun other hMem =>
        hProper other (List.mem_append_left _ hMem))
      rfl hFront
  rcases hTiles with ⟨spans, hTiles, hStands⟩
  rcases Span.exists_holds hMark with ⟨mark, hMark⟩
  have hStem : 0 < byteSize lexeme.stem :=
    Span.byteSize_pos (Lexeme.stem_ne_nil hRun.1)
  have hOffset := hMark.offset
  rw [byteSize_append] at hOffset
  refine
    ⟨tokens, spans, _, mark, String.ofList run, hTiles,
      hStands, ?_, ?_, ?_⟩
  · rw [hOffset, List.nil_append]
    omega
  · rw [hMark.text, String.ofList_cons]
    rfl
  · rw [hFault, hOffset, Nat.zero_add]

end Tilings

------------------------------------------------------------
-- The Partition of a Text
------------------------------------------------------------

/-
  A text that has tokens is cut into one part for each of
  them.  Where there is a fault, that holds of what is in
  front of it, and the fault is an exclamation mark with
  what follows.  Whether there is one or not, the lexemes
  cut the text, each starts behind the one before it, and
  what is taken out of a lexeme lies inside of it.
-/
theorem ofText_partition (source : String) :
    (∀ tokens, ofText source.toList = .ok tokens →
      ∃ spans : List (Span source),
        Span.Tiles 0 source.utf8ByteSize spans ∧
          List.Forall₂ StandsFor tokens spans) ∧
      (∀ fault, ofText source.toList = .error fault →
        ∃ (tokens : List Token)
          (spans : List (Span source))
          (place : Nat) (mark : Span source) (run : String),
          Span.Tiles 0 place spans ∧
            List.Forall₂ StandsFor tokens spans ∧
            place < mark.offset ∧
            mark.text = "!" ++ run ∧
            fault = .unknownTag mark.offset run) ∧
      ∃ spans : List (Span source),
        Span.Tiles 0 source.utf8ByteSize spans ∧
          (spans.map Span.offset).Pairwise (· < ·) ∧
          List.Forall₂ Lexeme.Covers
            (Lexeme.all source.toList) spans := by
  have hAll := Lexeme.source_all source.toList
  have hParts :
      source.toList =
        [] ++
          (Lexeme.all source.toList).flatMap
            Lexeme.source ++
          [] := by
    simp [hAll]
  refine ⟨?_, ?_, ?_⟩
  · intro tokens hTokens
    have hSpells := ofLexemes_eq_ok_iff.1 hTokens
    have hTiles :=
      hSpells.exists_tiles
        (fun _ => Lexeme.proper_of_mem_all)
        rfl hParts
    rw [List.nil_append, hAll, Span.byteSize_toList]
      at hTiles
    exact hTiles
  · intro fault hFault
    exact exists_tiles_of_failsAt
      (fun _ => Lexeme.proper_of_mem_all) hAll.symm
      (ofLexemes_eq_error_iff.1 hFault)
  · have hTiles :=
      Lexeme.exists_tiles
        (fun _ => Lexeme.proper_of_mem_all) hParts
    rw [List.nil_append, hAll, Span.byteSize_toList]
      at hTiles
    rcases hTiles with ⟨spans, hTiles, hCovers⟩
    exact ⟨spans, hTiles, hTiles.increasing, hCovers⟩

end Token

end SqlAccess
