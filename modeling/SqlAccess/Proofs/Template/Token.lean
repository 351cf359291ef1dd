import SqlAccess.Proofs.FirstFault
import SqlAccess.Proofs.Template.Lexeme
import SqlAccess.Template.Token

/-
  This file shows what the tokens of a template are: text
  next to text is one token, every other lexeme is a token
  of its own, and only a placeholder with a malformed tag
  keeps a template from having tokens.

  Key definitions include:
    * `Token.Tagged`
    * `Token.Means`
    * `Token.Spells`
    * `Lexeme.Malformed`
    * `Token.FailsAt`

  Key theorems include:
    * `Token.ofLexemes_eq_ok_iff`
    * `Token.ofLexemes_eq_error_iff`
    * `Token.ofText_follows_grammar`
-/

namespace SqlAccess

------------------------------------------------------------
-- Tags
------------------------------------------------------------

namespace Lexeme

/- What is written after a placeholder. -/
def suffix? : Lexeme → Option (List Char)
  | positional suffix => suffix
  | named _ _ suffix => suffix
  | _ => none

/- The source of a lexeme in front of its suffix. -/
def stem : Lexeme → List Char
  | positional _ => ['?']
  | named sigil name _ => sigil :: name
  | lexeme => lexeme.source

/-
  Whether a placeholder carries a tag that is not one of the
  letters that name types.
-/
def Malformed (lexeme : Lexeme) (run : List Char) : Prop :=
  lexeme.suffix? = some run ∧
    ∀ tag : TypeTag, run ≠ [tag.letter]

end Lexeme

namespace Token

/- The tag that a suffix asks for. -/
inductive Tagged :
    Option (List Char) → Option TypeTag → Prop
  | none : Tagged none none
  | some (tag : TypeTag) :
      Tagged (some [tag.letter]) (some tag)

/- Each tag has its own letter. -/
theorem ofLetter?_eq_some_iff
    {letter : Char}
    {tag : TypeTag} :
    TypeTag.ofLetter? letter = some tag ↔
      letter = tag.letter := by
  constructor
  · intro hLetter
    cases tag <;> grind [TypeTag.ofLetter?, TypeTag.letter]
  · rintro rfl
    cases tag <;> rfl

/- A run is a tag if it is just its letter. -/
theorem tagOfRun?_eq_some_iff
    {run : List Char}
    {tag : TypeTag} :
    tagOfRun? run = some tag ↔ run = [tag.letter] := by
  unfold tagOfRun?
  split
  · next letter => simp [ofLetter?_eq_some_iff]
  · next hOther =>
      simp only [reduceCtorEq, false_iff]
      exact hOther _

/- A run is no tag if it is not just the letter of one. -/
theorem tagOfRun?_eq_none_iff {run : List Char} :
    tagOfRun? run = none ↔
      ∀ tag : TypeTag, run ≠ [tag.letter] := by
  rw [Option.eq_none_iff_forall_ne_some]
  exact forall_congr' fun tag =>
    not_congr tagOfRun?_eq_some_iff

/- A suffix is read as the tag that it is. -/
theorem tagOfSuffix_eq_ok_iff
    {offset : Nat}
    {suffix : Option (List Char)}
    {tag : Option TypeTag} :
    tagOfSuffix offset suffix = .ok tag ↔
      Tagged suffix tag := by
  constructor
  · intro hTag
    cases suffix with
    | none =>
        cases hTag
        exact .none
    | some run =>
        simp only [tagOfSuffix] at hTag
        split at hTag
        · next found hFound =>
            cases hTag
            rw [tagOfRun?_eq_some_iff.1 hFound]
            exact .some found
        · cases hTag
  · rintro (_ | tag)
    · rfl
    · have hRun :=
        tagOfRun?_eq_some_iff.2 (Eq.refl [tag.letter])
      simp only [tagOfSuffix, hRun]

/-
  A suffix that is no tag is the fault, at its exclamation
  mark.
-/
theorem tagOfSuffix_eq_error_iff
    {offset : Nat}
    {suffix : Option (List Char)}
    {fault : SyntaxFault} :
    tagOfSuffix offset suffix = .error fault ↔
      ∃ run, suffix = some run ∧
        (∀ tag : TypeTag, run ≠ [tag.letter]) ∧
        fault = .unknownTag offset (String.ofList run) := by
  cases suffix with
  | none => simp [tagOfSuffix]
  | some run =>
      simp only [tagOfSuffix, Option.some.injEq,
        exists_eq_left', ← tagOfRun?_eq_none_iff]
      split
      · next found hFound => simp [hFound]
      · next hNone => simp [hNone, eq_comm]

------------------------------------------------------------
-- Single Tokens
------------------------------------------------------------

/-
  The token that a lexeme other than text is, at an offset
  and with the number of the next positional placeholder.
-/
inductive Means
    (offset index : Nat) : Lexeme → Token → Prop
  | escape {mark c} :
      Means offset index (.escape mark c) (escaped c)
  | opening : Means offset index .opening (opening offset)
  | closing : Means offset index .closing (closing offset)
  | positional {suffix tag}
      (hTag : Tagged suffix tag) :
      Means offset index (.positional suffix)
        (positional index tag)
  | named {sigil name suffix tag}
      (hTag : Tagged suffix tag) :
      Means offset index (.named sigil name suffix)
        (named (String.ofList name) tag)

/- Whether a lexeme is text. -/
def IsVerbatim (lexeme : Lexeme) : Prop :=
  ∃ chars, lexeme = .verbatim chars

/- A lexeme becomes the token that it means. -/
theorem ofLexeme_eq_ok_iff
    {offset index : Nat}
    {lexeme : Lexeme}
    {token : Token}
    (hLexeme : ¬ IsVerbatim lexeme) :
    ofLexeme offset index lexeme = .ok token ↔
      Means offset index lexeme token := by
  constructor
  · intro hToken
    cases lexeme with
    | verbatim chars =>
        exact absurd ⟨chars, rfl⟩ hLexeme
    | escape mark c =>
        cases hToken
        exact .escape
    | opening =>
        cases hToken
        exact .opening
    | closing =>
        cases hToken
        exact .closing
    | positional suffix =>
        rcases Except.map_eq_ok_iff.1 hToken with
          ⟨tag, hTag, rfl⟩
        exact .positional (tagOfSuffix_eq_ok_iff.1 hTag)
    | named sigil name suffix =>
        rcases Except.map_eq_ok_iff.1 hToken with
          ⟨tag, hTag, rfl⟩
        exact .named (tagOfSuffix_eq_ok_iff.1 hTag)
  · rintro (_ | _ | _ | hTag | hTag)
    · rfl
    · rfl
    · rfl
    · exact Except.map_eq_ok_iff.2
        ⟨_, tagOfSuffix_eq_ok_iff.2 hTag, rfl⟩
    · exact Except.map_eq_ok_iff.2
        ⟨_, tagOfSuffix_eq_ok_iff.2 hTag, rfl⟩

/- A lexeme fails only by its suffix. -/
theorem ofLexeme_eq_error_iff
    {offset index : Nat}
    {lexeme : Lexeme}
    {fault : SyntaxFault} :
    ofLexeme offset index lexeme = .error fault ↔
      ∃ run, lexeme.Malformed run ∧
        fault =
          .unknownTag (offset + byteSize lexeme.stem)
            (String.ofList run) := by
  cases lexeme with
  | positional suffix =>
      rw [ofLexeme, Except.map_eq_error_iff,
        tagOfSuffix_eq_error_iff]
      simp only [Lexeme.Malformed, Lexeme.suffix?,
        and_assoc]
      rfl
  | named sigil name suffix =>
      rw [ofLexeme, Except.map_eq_error_iff,
        tagOfSuffix_eq_error_iff]
      simp only [Lexeme.Malformed, Lexeme.suffix?,
        and_assoc]
      rfl
  | _ => simp [ofLexeme, Lexeme.Malformed, Lexeme.suffix?]

------------------------------------------------------------
-- Streams
------------------------------------------------------------

/-
  The tokens that lexemes spell from an offset on: a longest
  run of text is one token, and every other lexeme is one.
-/
inductive Spells :
    Nat → Nat → List Lexeme → List Token → Prop
  | done {offset index} : Spells offset index [] []
  | text {offset index run rest tokens}
      (hRun : run ≠ [])
      (hEnd :
        ∀ lexeme ∈ rest.head?, ¬ IsVerbatim lexeme)
      (hRest :
        Spells (offset + byteSize run.flatten) index rest
          tokens) :
      Spells offset index
        (run.map Lexeme.verbatim ++ rest)
        (text run.flatten :: tokens)
  | single {offset index lexeme token rest tokens}
      (hToken : Means offset index lexeme token)
      (hRest :
        Spells (offset + byteSize lexeme.source)
          (if takesPosition lexeme then index + 1
            else index)
          rest tokens) :
      Spells offset index (lexeme :: rest) (token :: tokens)

/- The bytes of two parts are added up. -/
theorem byteSize_append (front back : List Char) :
    byteSize (front ++ back) =
      byteSize front + byteSize back := by
  induction front with
  | nil => simp [byteSize]
  | cons c front ih =>
      rw [List.cons_append, byteSize, ih, byteSize,
        Nat.add_assoc]

section Steps

variable {offset index : Nat}
variable {lexeme : Lexeme} {rest : List Lexeme}

/-
  A lexeme becomes a token in front of those of the rest.
-/
theorem ofLexemes_cons_ok
    {token : Token}
    (hToken : ofLexeme offset index lexeme = .ok token) :
    ofLexemes offset index (lexeme :: rest) =
      (ofLexemes (offset + byteSize lexeme.source)
        (if takesPosition lexeme then index + 1 else index)
        rest).map (consMerged token) := by
  rw [ofLexemes, hToken]
  rfl

/- A lexeme that fails ends the reading. -/
theorem ofLexemes_cons_error
    {fault : SyntaxFault}
    (hFault : ofLexeme offset index lexeme = .error fault) :
    ofLexemes offset index (lexeme :: rest) =
      .error fault := by
  rw [ofLexemes, hFault]
  rfl

end Steps

/- Only text next to text is merged. -/
theorem consMerged_of_ne_text
    {token : Token}
    {tokens : List Token}
    (hToken : ∀ chars, token ≠ text chars) :
    consMerged token tokens = token :: tokens := by
  cases token with
  | text chars => exact absurd rfl (hToken chars)
  | _ => rfl

/- Text is merged with text only. -/
theorem consMerged_of_head_ne_text
    {token : Token}
    {tokens : List Token}
    (hHead :
      ∀ chars, tokens.head? ≠ some (text chars)) :
    consMerged token tokens = token :: tokens := by
  unfold consMerged
  split
  · next more later => exact absurd rfl (hHead more)
  · rfl

/- A lexeme that means something is no text. -/
theorem Means.ne_text
    {offset index : Nat}
    {lexeme : Lexeme}
    {token : Token}
    (hToken : Means offset index lexeme token)
    (chars : List Char) : token ≠ text chars := by
  cases hToken <;> simp

/- A lexeme that means something is no single character. -/
theorem Means.not_isVerbatim
    {offset index : Nat}
    {lexeme : Lexeme}
    {token : Token}
    (hToken : Means offset index lexeme token) :
    ¬ IsVerbatim lexeme := by
  rintro ⟨chars, rfl⟩
  cases hToken

section Streams

variable {offset index : Nat}
variable {rest : List Lexeme} {tokens : List Token}

/-
  The tokens of what does not begin with text do not either.
-/
theorem Spells.head_ne_text
    (hSpells : Spells offset index rest tokens)
    (hEnd : ∀ lexeme ∈ rest.head?, ¬ IsVerbatim lexeme)
    (chars : List Char) :
    tokens.head? ≠ some (.text chars) := by
  cases hSpells with
  | done => simp
  | @text _ _ run rest tokens hRun =>
      cases run with
      | nil => exact absurd rfl hRun
      | cons chars run =>
          exact absurd ⟨chars, rfl⟩ (hEnd _ rfl)
  | single hToken => simpa using hToken.ne_text chars

/- Text in front of tokens is spelled by one more lexeme. -/
theorem Spells.cons_verbatim
    {chars : List Char}
    (hSpells :
      Spells (offset + byteSize chars) index rest tokens) :
    Spells offset index (.verbatim chars :: rest)
      (consMerged (.text chars) tokens) := by
  have hAlone
      (hEnd :
        ∀ lexeme ∈ rest.head?, ¬ IsVerbatim lexeme) :
      Spells offset index (.verbatim chars :: rest)
        (.text chars :: tokens) := by
    have hRun : [chars].flatten = chars := by simp
    have hAll :
        Spells offset index ([chars].map .verbatim ++ rest)
          (.text [chars].flatten :: tokens) :=
      .text (List.cons_ne_nil _ _) hEnd (by rwa [hRun])
    rwa [hRun] at hAll
  cases hSpells with
  | done => exact hAlone (by simp)
  | @text _ _ run rest tokens hRun hEnd hRest =>
      have hSize :
          offset + byteSize (chars :: run).flatten =
            offset + byteSize chars +
              byteSize run.flatten := by
        rw [List.flatten_cons, byteSize_append,
          Nat.add_assoc]
      rw [← hSize] at hRest
      exact .text (List.cons_ne_nil _ _) hEnd hRest
  | single hToken hRest =>
      have hHead :=
        (single hToken hRest).head_ne_text (by
          rintro _ ⟨⟩
          exact hToken.not_isVerbatim)
      rw [consMerged_of_head_ne_text hHead]
      refine hAlone ?_
      rintro _ ⟨⟩
      exact hToken.not_isVerbatim

/- A run of text becomes one token. -/
theorem ofLexemes_run
    {run : List (List Char)}
    (hRun : run ≠ [])
    (hHead : ∀ chars, tokens.head? ≠ some (text chars))
    (hRest :
      ofLexemes (offset + byteSize run.flatten) index rest =
        .ok tokens) :
    ofLexemes offset index (run.map .verbatim ++ rest) =
      .ok (text run.flatten :: tokens) := by
  induction run generalizing offset with
  | nil => exact absurd rfl hRun
  | cons chars run ih =>
      have hText :
          ofLexeme offset index (.verbatim chars) =
            .ok (text chars) :=
        rfl
      rw [List.map_cons, List.cons_append,
        ofLexemes_cons_ok hText]
      rw [List.flatten_cons, byteSize_append,
        ← Nat.add_assoc] at hRest
      change (ofLexemes (offset + byteSize chars) index
        (run.map .verbatim ++ rest)).map _ = _
      by_cases hMore : run = []
      · subst hMore
        change ofLexemes (offset + byteSize chars) index
            rest =
          .ok tokens at hRest
        rw [List.map_nil, List.nil_append, hRest]
        simp [Except.map, consMerged_of_head_ne_text hHead]
      · rw [ih hMore hRest]
        rfl

end Streams

/- Lexemes become tokens if and only if these spell them. -/
theorem ofLexemes_eq_ok_iff
    {offset index : Nat}
    {lexemes : List Lexeme}
    {tokens : List Token} :
    ofLexemes offset index lexemes = .ok tokens ↔
      Spells offset index lexemes tokens := by
  constructor
  · intro hTokens
    induction lexemes generalizing offset index tokens with
    | nil =>
        cases hTokens
        exact .done
    | cons lexeme rest ih =>
        cases hToken : ofLexeme offset index lexeme with
        | error fault =>
            rw [ofLexemes_cons_error hToken] at hTokens
            cases hTokens
        | ok token =>
            rw [ofLexemes_cons_ok hToken] at hTokens
            rcases Except.map_eq_ok_iff.1 hTokens with
              ⟨later, hLater, rfl⟩
            by_cases hLexeme : IsVerbatim lexeme
            · rcases hLexeme with ⟨chars, rfl⟩
              cases hToken
              exact (ih hLater).cons_verbatim
            · have hMeans :=
                (ofLexeme_eq_ok_iff hLexeme).1 hToken
              rw [consMerged_of_ne_text hMeans.ne_text]
              exact .single hMeans (ih hLater)
  · intro hSpells
    induction hSpells with
    | done => rfl
    | text hRun hEnd hRest ih =>
        exact ofLexemes_run hRun
          (hRest.head_ne_text hEnd) ih
    | single hToken hRest ih =>
        have hOk :=
          (ofLexeme_eq_ok_iff hToken.not_isVerbatim).2
            hToken
        rw [ofLexemes_cons_ok hOk, ih]
        simp [Except.map,
          consMerged_of_ne_text hToken.ne_text]

------------------------------------------------------------
-- Failures
------------------------------------------------------------

/-
  The fault of lexemes from an offset on: the first
  malformed tag, at its exclamation mark.
-/
def FailsAt
    (offset : Nat)
    (lexemes : List Lexeme)
    (fault : SyntaxFault) : Prop :=
  ∃ before lexeme after run,
    lexemes = before ++ lexeme :: after ∧
      (∀ other ∈ before, ∀ more,
        ¬ other.Malformed more) ∧
      lexeme.Malformed run ∧
      fault =
        .unknownTag
          (offset +
            byteSize (before.flatMap Lexeme.source) +
            byteSize lexeme.stem)
          (String.ofList run)

/- The first lexeme with a malformed suffix decides. -/
theorem failsAt_cons_malformed
    {offset : Nat}
    {lexeme : Lexeme}
    {run : List Char}
    {rest : List Lexeme}
    {fault : SyntaxFault}
    (hRun : lexeme.Malformed run) :
    FailsAt offset (lexeme :: rest) fault ↔
      fault =
        .unknownTag (offset + byteSize lexeme.stem)
          (String.ofList run) := by
  constructor
  · rintro ⟨before, other, after, more, hAll, hBefore,
      hMore, rfl⟩
    cases before with
    | nil =>
        cases hAll
        have hSame := hRun.1.symm.trans hMore.1
        cases hSame
        rfl
    | cons first before =>
        cases hAll
        exact absurd hRun (hBefore _ (by simp) run)
  · rintro rfl
    exact ⟨[], lexeme, rest, run, rfl, by simp, hRun,
      rfl⟩

/- A lexeme that is sound leaves the fault to the rest. -/
theorem failsAt_cons_sound
    {offset : Nat}
    {lexeme : Lexeme}
    {rest : List Lexeme}
    {fault : SyntaxFault}
    (hSound : ∀ run, ¬ lexeme.Malformed run) :
    FailsAt offset (lexeme :: rest) fault ↔
      FailsAt (offset + byteSize lexeme.source) rest
        fault := by
  constructor
  · rintro ⟨before, other, after, run, hAll,
      hBefore, hRun, rfl⟩
    cases before with
    | nil =>
        cases hAll
        exact absurd hRun (hSound run)
    | cons first before =>
        cases hAll
        refine ⟨before, other, after, run, rfl, ?_,
          hRun, ?_⟩
        · intro later hMem
          exact hBefore later (List.mem_cons_of_mem _ hMem)
        · simp [byteSize_append, Nat.add_assoc]
  · rintro ⟨before, other, after, run, rfl, hBefore,
      hRun, rfl⟩
    refine
      ⟨lexeme :: before, other, after, run, rfl, ?_,
        hRun, ?_⟩
    · intro earlier hMem
      rcases List.mem_cons.1 hMem with rfl | hMem
      · exact hSound
      · exact hBefore earlier hMem
    · simp [byteSize_append, Nat.add_assoc]

/- Lexemes fail at the first malformed suffix. -/
theorem ofLexemes_eq_error_iff
    {offset index : Nat}
    {lexemes : List Lexeme}
    {fault : SyntaxFault} :
    ofLexemes offset index lexemes = .error fault ↔
      FailsAt offset lexemes fault := by
  induction lexemes generalizing offset index with
  | nil => simp [ofLexemes, FailsAt]
  | cons lexeme rest ih =>
      cases hToken : ofLexeme offset index lexeme with
      | error first =>
          rw [ofLexemes_cons_error hToken]
          rcases ofLexeme_eq_error_iff.1 hToken with
            ⟨run, hRun, rfl⟩
          rw [Except.error.injEq,
            failsAt_cons_malformed hRun, eq_comm]
      | ok token =>
          have hSound (run : List Char) :
              ¬ lexeme.Malformed run := by
            intro hRun
            rw [ofLexeme_eq_error_iff.2
              ⟨run, hRun, rfl⟩]
              at hToken
            cases hToken
          rw [ofLexemes_cons_ok hToken,
            Except.map_eq_error_iff, ih,
            failsAt_cons_sound hSound]

/- There is a fault if and only if some tag is malformed. -/
theorem exists_failsAt_iff
    {offset : Nat}
    {lexemes : List Lexeme} :
    (∃ fault, FailsAt offset lexemes fault) ↔
      ∃ lexeme ∈ lexemes, ∃ run,
        lexeme.Malformed run := by
  constructor
  · rintro ⟨_, before, lexeme, after, run, rfl, -,
      hRun, -⟩
    exact ⟨lexeme, by simp, run, hRun⟩
  · intro hMalformed
    induction lexemes generalizing offset with
    | nil => simp at hMalformed
    | cons lexeme rest ih =>
        by_cases hHere : ∃ run, lexeme.Malformed run
        · rcases hHere with ⟨run, hRun⟩
          exact ⟨_, (failsAt_cons_malformed hRun).2 rfl⟩
        · have hSound (run : List Char) :
              ¬ lexeme.Malformed run :=
            fun hRun => hHere ⟨run, hRun⟩
          have hLater :
              ∃ other ∈ rest, ∃ run,
                other.Malformed run := by
            rcases hMalformed with ⟨other, hMem, hOther⟩
            rcases List.mem_cons.1 hMem with rfl | hMem
            · exact absurd hOther hHere
            · exact ⟨other, hMem, hOther⟩
          rcases ih hLater with ⟨fault, hFault⟩
          exact ⟨fault,
            (failsAt_cons_sound hSound).2 hFault⟩

------------------------------------------------------------
-- The Grammar of Templates
------------------------------------------------------------

/-
  A text has one division into lexemes by the grammar.  Its
  tokens are what these lexemes spell, and it has none if
  and only if some placeholder carries a malformed tag; the
  fault is the first of these.
-/
theorem ofText_follows_grammar (text : List Char) :
    ∃ lexemes,
      (∀ others,
        Lexeme.Cuts text others ↔ others = lexemes) ∧
        (∀ tokens,
          ofText text = .ok tokens ↔
            Spells 0 0 lexemes tokens) ∧
        (∀ fault,
          ofText text = .error fault ↔
            FailsAt 0 lexemes fault) ∧
        ((∃ fault, ofText text = .error fault) ↔
          ∃ lexeme ∈ lexemes, ∃ run,
            lexeme.Malformed run) := by
  refine ⟨Lexeme.all text, ?_, ?_, ?_, ?_⟩
  · intro others
    rw [Lexeme.cuts_iff, eq_comm]
  · intro tokens
    exact ofLexemes_eq_ok_iff
  · intro fault
    exact ofLexemes_eq_error_iff
  · have hFails :
        (∃ fault, FailsAt 0 (Lexeme.all text) fault) ↔
          _ :=
      exists_failsAt_iff
    rw [← hFails]
    exact exists_congr fun fault => ofLexemes_eq_error_iff

end Token

end SqlAccess
