import SqlAccess.Proofs.Template.Balance
import SqlAccess.Proofs.Template.Span
import SqlAccess.Template.Basic

/-
  This file says which templates compile, and which byte of
  the others is to blame: the exclamation mark of the first
  malformed tag; without one, the first closing delimiter
  that closes nothing; and else the innermost opening one
  that is not closed.

  Key definitions include:
    * `Delimiter.ofLexemes`
    * `SyntaxFault.sign`
    * `Template.Blames`

  Key theorems include:
    * `Delimiter.filterMap_ofToken?_of_spells`
    * `Template.compile_eq_ok_iff`
    * `Template.parse_eq_error_iff`
    * `Template.exists_split_of_parse`
    * `Template.byte_of_append`
    * `Template.compile_verdict`
-/

namespace SqlAccess

namespace Delimiter

------------------------------------------------------------
-- Delimiters of a Text
------------------------------------------------------------

/- The place of a delimiter. -/
def offset : Delimiter → Nat
  | opening offset => offset
  | closing offset => offset

/- The lexeme that a delimiter is. -/
def lexeme : Delimiter → Lexeme
  | opening _ => .opening
  | closing _ => .closing

/-
  The delimiter that a lexeme at an offset is, if it is one.
-/
def ofLexeme? (offset : Nat) : Lexeme → Option Delimiter
  | .opening => some (opening offset)
  | .closing => some (closing offset)
  | _ => none

/- The delimiters among lexemes, from an offset on. -/
def ofLexemes
    (offset : Nat) :
    List Lexeme → List Delimiter
  | [] => []
  | lexeme :: rest =>
      (ofLexeme? offset lexeme).toList ++
        ofLexemes (offset + Token.byteSize lexeme.source)
          rest

/-
  Text that means nothing has no delimiters, and takes up
  its bytes.
-/
theorem ofLexemes_verbatim
    (offset : Nat)
    (run : List (List Char))
    (rest : List Lexeme) :
    ofLexemes offset (run.map .verbatim ++ rest) =
      ofLexemes (offset + Token.byteSize run.flatten)
        rest := by
  induction run generalizing offset with
  | nil => rfl
  | cons chars run ih =>
      rw [List.flatten_cons, Token.byteSize_append,
        ← Nat.add_assoc]
      exact ih (offset + Token.byteSize chars)

/- Tokens have the delimiters of the lexemes they spell. -/
theorem filterMap_ofToken?_of_spells
    {offset index : Nat}
    {lexemes : List Lexeme}
    {tokens : List Token}
    (hSpells : Token.Spells offset index lexemes tokens) :
    tokens.filterMap ofToken? =
      ofLexemes offset lexemes := by
  induction hSpells with
  | done => rfl
  | text hRun hEnd hRest ih =>
      rw [ofLexemes_verbatim, ← ih]
      rfl
  | single hToken hRest ih =>
      rw [ofLexemes, ← ih]
      cases hToken <;> rfl

/- A lexeme is a delimiter if it is one brace. -/
theorem ofLexeme?_eq_some_iff
    {place : Nat}
    {first : Lexeme}
    {delimiter : Delimiter} :
    ofLexeme? place first = some delimiter ↔
      first = delimiter.lexeme ∧
        delimiter.offset = place := by
  cases first <;> cases delimiter <;>
    simp [ofLexeme?, lexeme, Delimiter.offset, eq_comm]

/- A delimiter of a text is a lexeme at its offset. -/
theorem exists_lexeme_of_mem
    {place : Nat}
    {lexemes : List Lexeme}
    {delimiter : Delimiter}
    (hMem : delimiter ∈ ofLexemes place lexemes) :
    ∃ before after,
      lexemes = before ++ delimiter.lexeme :: after ∧
        delimiter.offset =
          place +
            Token.byteSize
              (before.flatMap Lexeme.source) := by
  induction lexemes generalizing place with
  | nil => exact absurd hMem List.not_mem_nil
  | cons first rest ih =>
      rcases List.mem_append.1 hMem with hHere | hLater
      · rw [Option.mem_toList, ofLexeme?_eq_some_iff]
          at hHere
        rcases hHere with ⟨rfl, hOffset⟩
        exact ⟨[], rest, rfl, hOffset⟩
      · rcases ih hLater with
          ⟨before, after, rfl, hOffset⟩
        refine ⟨first :: before, after, rfl, ?_⟩
        rw [hOffset, List.flatMap_cons,
          Token.byteSize_append, Nat.add_assoc]

end Delimiter

------------------------------------------------------------
-- Faults of a Text
------------------------------------------------------------

/- The character that a fault stands at. -/
def SyntaxFault.sign : SyntaxFault → Char
  | unknownTag _ _ => '!'
  | unmatched _ => '\x7d'
  | unclosed _ => '\x7b'

/- A fault in delimiters is one of them, at its sign. -/
theorem Delimiter.exists_mem_of_blame?
    {delimiters : List Delimiter}
    {fault : SyntaxFault}
    (hBlame : blame? delimiters = some fault) :
    ∃ delimiter ∈ delimiters,
      delimiter.offset = fault.offset ∧
        delimiter.lexeme.source = [fault.sign] := by
  rcases verdict_cases delimiters with
    hAll | ⟨offset, hUnmatched⟩ |
      ⟨offset, hUnclosed⟩
  · exact absurd hBlame (hAll.blame?_ne fault)
  · rw [blame?_eq_unmatched_iff.2 hUnmatched] at hBlame
    cases hBlame
    rcases hUnmatched with ⟨before, after, rfl, -⟩
    exact ⟨closing offset, by simp, rfl, rfl⟩
  · rw [blame?_eq_unclosed_iff.2 hUnclosed] at hBlame
    cases hBlame
    rcases hUnclosed with ⟨-, before, after, rfl, -⟩
    exact ⟨opening offset, by simp, rfl, rfl⟩

namespace Template

section Faults

variable {source : String}

section Parsing

variable {tokens : List Token}
variable (hTokens : Token.ofText source.toList = .ok tokens)
include hTokens

/-
  What is balanced is parsed as the forest of its tokens.
-/
theorem parse_of_balanced
    (hScan : Forest.imbalance? [] tokens = none) :
    parse source = .ok (Forest.ofTokens tokens) := by
  simp only [parse, hTokens, Bind.bind, Except.bind, hScan]
  rfl

/- What is not balanced fails with the fault. -/
theorem parse_of_imbalance
    {fault : SyntaxFault}
    (hScan : Forest.imbalance? [] tokens = some fault) :
    parse source = .error fault := by
  simp only [parse, hTokens, Bind.bind, Except.bind, hScan]
  rfl

end Parsing

/- A text with a tree has tokens that are balanced. -/
theorem parse_eq_ok_iff {forest : Forest} :
    parse source = .ok forest ↔
      ∃ tokens,
        Token.ofText source.toList = .ok tokens ∧
          Forest.imbalance? [] tokens = none ∧
          Forest.ofTokens tokens = forest := by
  constructor
  · intro hParse
    cases hTokens : Token.ofText source.toList with
    | error fault =>
        rw [parse, hTokens] at hParse
        cases hParse
    | ok tokens =>
        cases hScan : Forest.imbalance? [] tokens with
        | none =>
            rw [parse_of_balanced hTokens hScan] at hParse
            exact ⟨tokens, rfl, hScan,
              Except.ok.inj hParse⟩
        | some fault =>
            rw [parse_of_imbalance hTokens hScan] at hParse
            cases hParse
  · rintro ⟨tokens, hTokens, hScan, rfl⟩
    exact parse_of_balanced hTokens hScan

/-
  A text compiles to the tree of its tokens, if balanced.
-/
theorem compile_eq_ok_iff {template : Template} :
    compile source = .ok template ↔
      template.source = source ∧
        ∃ tokens,
          Token.ofText source.toList = .ok tokens ∧
            Forest.imbalance? [] tokens = none ∧
            Forest.ofTokens tokens = template.forest := by
  rw [← parse_eq_ok_iff, compile]
  rcases template with ⟨text, forest⟩
  cases parse source with
  | error fault => simp
  | ok other => simp [eq_comm]

/-
  A text has a fault in a tag, or none of its tags is
  malformed and its delimiters have one.
-/
theorem parse_eq_error_iff {fault : SyntaxFault} :
    parse source = .error fault ↔
      Token.FailsAt 0 (Lexeme.all source.toList) fault ∨
        (∀ other,
          ¬ Token.FailsAt 0 (Lexeme.all source.toList)
            other) ∧
          Delimiter.blame?
              (Delimiter.ofLexemes 0
                (Lexeme.all source.toList)) =
            some fault := by
  have hFails :
      ∀ other,
        Token.ofText source.toList = .error other ↔
          Token.FailsAt 0 (Lexeme.all source.toList)
            other :=
    fun other => Token.ofLexemes_eq_error_iff
  simp only [← hFails]
  cases hTokens : Token.ofText source.toList with
  | error first =>
      have hParse : parse source = .error first := by
        rw [parse, hTokens]
        rfl
      simp [hParse]
  | ok tokens =>
      have hDelimiters :=
        Delimiter.filterMap_ofToken?_of_spells
          (Token.ofLexemes_eq_ok_iff.1 hTokens)
      have hScan := Delimiter.imbalance?_eq [] tokens
      rw [hDelimiters] at hScan
      rw [Delimiter.blame?, ← hScan]
      cases hFault : Forest.imbalance? [] tokens with
      | none => simp [parse_of_balanced hTokens hFault]
      | some first =>
          simp [parse_of_imbalance hTokens hFault]

/- A fault stands in the text, at its sign. -/
theorem exists_split_of_parse
    {fault : SyntaxFault}
    (hFault : parse source = .error fault) :
    ∃ front back,
      source.toList = front ++ fault.sign :: back ∧
        fault.offset = Token.byteSize front := by
  have hSource := Lexeme.source_all source.toList
  rcases parse_eq_error_iff.1 hFault with
    ⟨before, lexeme, after, run, hAll, -, hRun, hEq⟩ |
      ⟨-, hBlame⟩
  · rw [hAll, List.flatMap_append, List.flatMap_cons,
      Lexeme.source_of_suffix hRun.1] at hSource
    refine
      ⟨before.flatMap Lexeme.source ++ lexeme.stem,
        run ++ after.flatMap Lexeme.source, ?_, ?_⟩
    · rw [← hSource, hEq]
      simp only [SyntaxFault.sign, List.append_assoc,
        List.cons_append]
    · rw [hEq, Token.byteSize_append, SyntaxFault.offset,
        Nat.zero_add]
  · rcases Delimiter.exists_mem_of_blame? hBlame with
      ⟨delimiter, hMem, hOffset, hSign⟩
    rcases Delimiter.exists_lexeme_of_mem hMem with
      ⟨before, after, hAll, hPlace⟩
    rw [hAll, List.flatMap_append, List.flatMap_cons, hSign]
      at hSource
    refine
      ⟨before.flatMap Lexeme.source,
        after.flatMap Lexeme.source, hSource.symm, ?_⟩
    rw [← hOffset, hPlace, Nat.zero_add]

/- The byte of a text at the place of an ASCII character. -/
theorem byte_of_append
    {front back : List Char}
    {c : Char}
    {byte : UInt8}
    (hSource : source.toList = front ++ c :: back)
    (hByte : String.utf8EncodeChar c = [byte]) :
    source.toByteArray[Token.byteSize front]? =
      some byte := by
  have hSize :
      front.utf8Encode.size = Token.byteSize front := by
    rw [← String.toByteArray_ofList,
      String.size_toByteArray, Span.utf8ByteSize_ofList]
  have hOne : [c].utf8Encode = [byte].toByteArray := by
    simp [List.utf8Encode, hByte]
  have hBytes :
      source.toByteArray =
        front.utf8Encode ++
          ([byte].toByteArray ++ back.utf8Encode) := by
    rw [← hOne, ← List.utf8Encode_append,
      ← List.utf8Encode_append, List.singleton_append,
      ← hSource, ← String.toByteArray_ofList,
      String.ofList_toList]
  have hInside :
      front.utf8Encode.size < source.toByteArray.size := by
    rw [hBytes, ByteArray.size_append,
      ByteArray.size_append, List.size_toByteArray,
      List.length_singleton]
    omega
  rw [← hSize, getElem?_pos source.toByteArray _ hInside]
  simp only [hBytes]
  rw [ByteArray.getElem_append_right (Nat.le_refl _),
    ByteArray.getElem_append_left (by simp)]
  simp

------------------------------------------------------------
-- Blame
------------------------------------------------------------

/-
  A text is refused for a fault: the error holds the whole
  text and what is wrong, and the offset is one of the bytes
  of the text, at which the sign of the fault stands.
-/
structure Blames
    (source : String)
    (fault : SyntaxFault) : Prop where
  error :
    compile source =
      .error
        (.templateSyntax source fault.offset fault.message)
  inside : fault.offset < source.utf8ByteSize
  byte :
    source.toByteArray[fault.offset]? =
      some fault.sign.toUInt8

/- A text that is not parsed blames one of its braces. -/
theorem blames_of_parse
    {fault : SyntaxFault}
    (hFault : parse source = .error fault) :
    Blames source fault := by
  rcases exists_split_of_parse hFault with
    ⟨front, back, hSource, hOffset⟩
  have hEncoded :
      String.utf8EncodeChar fault.sign =
        [fault.sign.toUInt8] := by
    cases fault <;> rfl
  have hByte := byte_of_append hSource hEncoded
  rw [← hOffset] at hByte
  refine ⟨?_, ?_, hByte⟩
  · rw [compile, hFault]
    rfl
  · rw [← Span.byteSize_toList, hSource, hOffset,
      Token.byteSize_append, Token.byteSize]
    have hSign := fault.sign.utf8Size_pos
    omega

/-
  What compiles has no fault, and the text as its source.
-/
theorem exists_compile_iff :
    (∃ template, compile source = .ok template) ↔
      ∀ fault, parse source ≠ .error fault := by
  rw [compile]
  cases parse source <;> simp

end Faults

/-
  A text is cut into lexemes in one way.  If a placeholder
  among them carries a malformed tag, the text is refused
  for the first of these, whatever the delimiters are.  If
  none does, the text compiles if and only if the delimiters
  are balanced; it is refused for the first delimiter that
  closes nothing, if there is one, and else for the
  innermost that is not closed.
-/
theorem compile_verdict (source : String) :
    ∃ lexemes,
      (∀ others,
        Lexeme.Cuts source.toList others ↔
          others = lexemes) ∧
      (∀ fault,
        Token.FailsAt 0 lexemes fault →
          Blames source fault) ∧
      ((∃ fault, Token.FailsAt 0 lexemes fault) ↔
        ∃ lexeme ∈ lexemes, ∃ run,
          lexeme.Malformed run) ∧
      ((∀ lexeme ∈ lexemes, ∀ run,
        ¬ lexeme.Malformed run) →
        let delimiters := Delimiter.ofLexemes 0 lexemes
        ((∃ template, compile source = .ok template) ↔
          Delimiter.Balanced delimiters) ∧
        (∀ offset,
          Delimiter.Unmatched delimiters offset →
            Blames source (.unmatched offset)) ∧
        (∀ offset,
          Delimiter.Unclosed delimiters offset →
            Blames source (.unclosed offset)) ∧
        ((∃ offset,
          Delimiter.Unmatched delimiters offset) ↔
          ¬ Delimiter.AllClose delimiters) ∧
        ((∃ offset,
          Delimiter.Unclosed delimiters offset) ↔
          Delimiter.AllClose delimiters ∧
            ¬ Delimiter.Balanced delimiters)) ∧
      ((∃ error, compile source = .error error) →
        ∃ fault, Blames source fault) := by
  refine ⟨Lexeme.all source.toList, ?_, ?_,
    Token.exists_failsAt_iff, ?_, ?_⟩
  · intro others
    rw [Lexeme.cuts_iff, eq_comm]
  · intro fault hFault
    exact blames_of_parse
      (parse_eq_error_iff.2 (.inl hFault))
  · intro hSound delimiters
    have hNone :
        ∀ fault,
          ¬ Token.FailsAt 0 (Lexeme.all source.toList)
            fault := by
      intro fault hFault
      rcases Token.exists_failsAt_iff.1
        ⟨fault, hFault⟩ with
        ⟨lexeme, hMem, run, hRun⟩
      exact hSound lexeme hMem run hRun
    have hParse :
        ∀ fault,
          parse source = .error fault ↔
            Delimiter.blame? delimiters = some fault := by
      intro fault
      rw [parse_eq_error_iff]
      exact ⟨fun hFault =>
          (hFault.resolve_left (hNone fault)).2,
        fun hBlame => .inr ⟨hNone, hBlame⟩⟩
    refine ⟨?_, ?_, ?_, Delimiter.exists_unmatched_iff,
      Delimiter.exists_unclosed_iff⟩
    · simp only [exists_compile_iff, ne_eq, hParse]
      rw [← Delimiter.blame?_eq_none_iff,
        Option.eq_none_iff_forall_ne_some]
    · intro offset hUnmatched
      exact blames_of_parse
        ((hParse _).2
          (Delimiter.blame?_eq_unmatched_iff.2 hUnmatched))
    · intro offset hUnclosed
      exact blames_of_parse
        ((hParse _).2
          (Delimiter.blame?_eq_unclosed_iff.2 hUnclosed))
  · rintro ⟨error, hError⟩
    cases hFault : parse source with
    | error fault =>
        exact ⟨fault, blames_of_parse hFault⟩
    | ok forest =>
        rw [compile, hFault] at hError
        cases hError

end Template

end SqlAccess
