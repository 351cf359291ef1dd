import Mathlib.Data.List.Chain
import SqlAccess.Proofs.Binding.Retained
import SqlAccess.Proofs.Binding.Scan
import SqlAccess.Proofs.Binding.Writing

/-
  This file says which markers are found in a bound
  statement: exactly those of its values, each once and in
  their order, as long as no two neighbours among the
  lexemes that stay are read together.

  Key definitions include:
    * `Glyph.write`
    * `Glyph.Entry`
    * `Glyph.Fills`
    * `Glyph.Adds`
    * `Lexeme.joins`
    * `Lexeme.Apart`
    * `Params.FragmentFree`

  Key theorems include:
    * `Segment.bindAll_fills`
    * `Glyph.Entry.adds`
    * `Lexeme.Stands.adds`
    * `Lexeme.Cuts.adds`
    * `bindText_markersIn`
-/

namespace SqlAccess

------------------------------------------------------------
-- Statements
------------------------------------------------------------

namespace Glyph

/-
  The text of a statement, where the blanks are markers that
  are numbered one after the other from a number on.
-/
def write
    (style : MarkerStyle)
    (number : Nat) : List Glyph → List Char
  | [] => []
  | char c :: rest => c :: write style number rest
  | blank :: rest =>
      (style.marker number).toList ++
        write style (number + 1) rest

/- The numbers go on where those of the front end. -/
theorem write_append
    (style : MarkerStyle)
    (number : Nat)
    (front back : List Glyph) :
    write style number (front ++ back) =
      write style number front ++
        write style (number + front.count blank) back := by
  induction front generalizing number with
  | nil => rfl
  | cons glyph front ih =>
      cases glyph with
      | char c => simp [write, ih]
      | blank =>
          simp [write, ih, Nat.add_right_comm,
            Nat.add_assoc]

@[simp] theorem write_chars
    (style : MarkerStyle)
    (number : Nat)
    (text : List Char) :
    write style number (text.map char) = text := by
  induction text with
  | nil => rfl
  | cons c text ih => exact congrArg (c :: ·) ih

@[simp] theorem count_blank_chars (text : List Char) :
    (text.map char).count blank = 0 := by
  induction text with
  | nil => rfl
  | cons c text ih => simpa using ih

/- What is written for a placeholder without a fragment. -/
inductive Entry : List Glyph → Prop
  | null : Entry (['N', 'U', 'L', 'L'].map char)
  | one : Entry [blank]
  | more {rest}
      (hRest : Entry (blank :: rest)) :
      Entry (blank :: char ',' :: char ' ' :: blank :: rest)

/- A statement as a template with its blanks filled in. -/
inductive Fills : List Glyph → List Glyph → Prop
  | nil : Fills [] []
  | char {c template statement}
      (hRest : Fills template statement) :
      Fills (char c :: template) (char c :: statement)
  | blank {template part statement}
      (hPart : Entry part)
      (hRest : Fills template statement) :
      Fills (blank :: template) (part ++ statement)

/-
  Characters that a template begins with are kept in front
  of what fills it.
-/
theorem Fills.chars_append
    {template statement : List Glyph}
    (hFills : Fills template statement)
    (text : List Char) :
    Fills (text.map Glyph.char ++ template)
      (text.map Glyph.char ++ statement) := by
  induction text with
  | nil => exact hFills
  | cons c text ih => exact .char ih

/-
  What fills a template that begins with characters begins
  with them too.
-/
theorem Fills.of_chars_append
    {template statement : List Glyph}
    {text : List Char}
    (hFills :
      Fills (text.map Glyph.char ++ template) statement) :
    ∃ rest, statement = text.map Glyph.char ++ rest ∧
      Fills template rest := by
  induction text generalizing statement with
  | nil => exact ⟨statement, rfl, hFills⟩
  | cons c text ih =>
      cases hFills with
      | char hRest =>
          rcases ih hRest with
            ⟨rest, hStatement, hFills⟩
          exact ⟨rest,
            congrArg (Glyph.char c :: ·) hStatement,
              hFills⟩

end Glyph

namespace Atom

/- How an atom is spelled. -/
def glyphs : Atom → List Glyph
  | text s => s.toList.map .char
  | marker _ _ => [.blank]

/- A statement is written glyph by glyph. -/
theorem toList_write
    (style : MarkerStyle)
    (number : Nat)
    (atoms : List Atom) :
    (write style number atoms).toList =
      Glyph.write style number (atoms.flatMap glyphs) := by
  induction atoms generalizing number with
  | nil => rfl
  | cons atom atoms ih =>
      cases atom with
      | text s =>
          simp [write, glyphs, ih, Glyph.write_append]
      | marker tag v =>
          simp [write, glyphs, ih, Glyph.write]

/- There are as many blanks as values. -/
theorem count_blank_glyphs (atoms : List Atom) :
    (atoms.flatMap glyphs).count .blank =
      (casts atoms).length := by
  induction atoms with
  | nil => rfl
  | cons atom atoms ih =>
      cases atom with
      | text s => simp [glyphs, casts, ih]
      | marker tag v =>
          simp [glyphs, casts, ih, Nat.add_comm]

end Atom

namespace Param

/- What is written for a list with values in it. -/
theorem entry_intersperse
    (tag : Option TypeTag)
    (item : Value)
    (items : List Value) :
    ∃ rest,
      (((item :: items).map (Atom.marker tag)).intersperse
          (.text ", ")).flatMap Atom.glyphs =
        .blank :: rest ∧
      Glyph.Entry (.blank :: rest) := by
  induction items generalizing item with
  | nil => exact ⟨[], rfl, .one⟩
  | cons other items ih =>
      rcases ih other with ⟨rest, hGlyphs, hEntry⟩
      refine ⟨_, ?_, .more hEntry⟩
      rw [List.map_cons, List.map_cons,
        List.intersperse_cons_cons, List.flatMap_cons,
        List.flatMap_cons, ← List.map_cons, hGlyphs]
      rfl

/-
  A parameter that is no part of a statement is an entry of
  markers and commas.
-/
theorem entry_atoms
    {param : Param}
    (tag : Option TypeTag)
    (hParam : ∀ f, param ≠ .fragment f) :
    Glyph.Entry
      ((param.atoms tag).flatMap Atom.glyphs) := by
  cases param with
  | value v => exact .one
  | list items =>
      cases items with
      | nil => exact .null
      | cons item items =>
          rcases entry_intersperse tag item items with
            ⟨rest, hGlyphs, hEntry⟩
          rw [← hGlyphs] at hEntry
          exact hEntry
  | fragment f => exact absurd rfl (hParam f)

end Param

/- Parameters none of which is a part of a statement. -/
structure Params.FragmentFree (params : Params) : Prop where
  named : ∀ name f,
    params.get? name ≠ some (.fragment f)
  positional : ∀ f, .fragment f ∉ params.positional

/-
  A filled sequence of pieces is spelled as the pieces with
  their blanks filled in.
-/
theorem Filling.fills_of_forall
    {fillings : List Filling}
    (hParams :
      ∀ placeholder param,
        .slot placeholder param ∈ fillings →
        ∀ f, param ≠ .fragment f) :
    Glyph.Fills
      ((fillings.map segment).flatMap Segment.glyphs)
      ((fillings.flatMap atoms).flatMap Atom.glyphs) := by
  induction fillings with
  | nil => exact .nil
  | cons filling fillings ih =>
      have hLater := ih fun placeholder param hMem =>
        hParams placeholder param
          (List.mem_cons_of_mem _ hMem)
      cases filling with
      | literal text =>
          simpa [segment, atoms, Segment.glyphs,
            Atom.glyphs]
            using hLater.chars_append text.toList
      | slot placeholder param =>
          have hParam :=
            hParams placeholder param List.mem_cons_self
          rw [List.flatMap_cons, List.flatMap_append]
          exact .blank (Param.entry_atoms _ hParam) hLater

/-
  Without fragments, the statement that is bound to segments
  is the segments with their blanks filled in, and it has as
  many blanks as values.
-/
theorem Segment.bindAll_fills
    {dialect : Dialect}
    {source : String}
    {params : Params}
    {segments : List Segment}
    {state : BindState}
    {bound : Bound}
    (hBound :
      bindAll dialect source params state segments =
        .ok bound)
    (hNamed :
      ∀ name f, params.get? name ≠ some (.fragment f))
    (hQueue : ∀ f, .fragment f ∉ state.queue) :
    ∃ statement,
      Glyph.Fills (segments.flatMap Segment.glyphs)
        statement ∧
        bound.query.toList =
          Glyph.write dialect.style state.marker
            statement ∧
        statement.count .blank = bound.params.length := by
  rcases bindAll_writes hBound with
    ⟨fillings, hSegments, hAllowed, hTaken, hQuery,
      hValues⟩
  have hParams :
      ∀ placeholder param,
        Filling.slot placeholder param ∈ fillings →
          ∀ f, param ≠ .fragment f := by
    rintro ⟨key, tag⟩ param hMem f rfl
    cases key with
    | named name =>
        exact hNamed name f
          ((hAllowed _ _ hMem).named name rfl)
    | positional index =>
        apply hQueue f
        rw [← hTaken]
        exact List.mem_filterMap.2 ⟨_, hMem, rfl⟩
  refine
    ⟨(fillings.flatMap Filling.atoms).flatMap Atom.glyphs,
    ?_, ?_, ?_⟩
  · rw [← hSegments]
    exact Filling.fills_of_forall hParams
  · rw [hQuery, Atom.toList_write]
  · rw [Atom.count_blank_glyphs, hValues, List.length_map]

------------------------------------------------------------
-- What Is Found
------------------------------------------------------------

namespace Glyph

/- The markers that are numbered from a number on. -/
def numbered (first count : Nat) : List String :=
  (List.range' first count).map MarkerStyle.dollar.marker

/-
  Whether exactly the markers of a part of a statement are
  found in it, in front of a text.
-/
def Adds (part : List Glyph) (text : List Char) : Prop :=
  ∀ number,
    markersIn (write .dollar number part ++ text) =
      numbered number (part.count blank) ++ markersIn text

/-
  Characters add no markers if and only if the text behind
  them has the same ones.
-/
theorem adds_chars_iff {chars text : List Char} :
    Adds (chars.map char) text ↔
      markersIn (chars ++ text) = markersIn text := by
  simp [Adds, numbered]

/- Parts whose markers are found, one behind the other. -/
theorem adds_append
    {front back : List Glyph}
    {text : List Char}
    (hFront :
      ∀ number,
        Adds front (write .dollar number back ++ text))
    (hBack : Adds back text) :
    Adds (front ++ back) text := by
  intro number
  rw [write_append, List.append_assoc, hFront _ number,
    hBack, ← List.append_assoc, List.count_append,
    numbered, numbered, numbered, ← List.map_append,
    List.range'_append_1]

/- A marker or a null comes first for a placeholder. -/
theorem Entry.mem_begins
    {part rest : List Glyph}
    {number : Nat}
    {c : Char}
    (hPart : Entry part)
    (hHead :
      c ∈ (write .dollar number (part ++ rest)).head?) :
    c ∈ ['$', 'N'] := by
  have hMarker (more : List Glyph) :
      (write .dollar number (blank :: more)).head? =
        some '$' := by
    rw [write, toList_marker]
    rfl
  cases hPart with
  | null =>
      cases hHead
      decide
  | one =>
      rw [List.cons_append, hMarker] at hHead
      cases hHead
      decide
  | more hRest =>
      rw [List.cons_append, hMarker] at hHead
      cases hHead
      decide

/- A marker adds itself, if no digit comes after it. -/
theorem adds_blank
    {text : List Char}
    (hText : ∀ c ∈ text.head?, c.isDigit = false) :
    Adds [blank] text := by
  intro number
  simpa [write, numbered]
    using markersIn_marker number hText

/-
  What is written for a placeholder is found before no
  digit.
-/
theorem Entry.adds
    {part : List Glyph}
    {text : List Char}
    (hPart : Entry part)
    (hText : ∀ c ∈ text.head?, c.isDigit = false) :
    Adds part text := by
  induction hPart with
  | null =>
      exact adds_chars_iff.2
        (markersIn_plain (by simp) text)
  | one => exact adds_blank hText
  | @more rest hRest ih =>
      have hSeparator :
          ∀ number,
            Adds ([',', ' '].map char)
              (write .dollar number (blank :: rest) ++
                text) :=
        fun number =>
          adds_chars_iff.2 (markersIn_plain (by simp) _)
      have hFirst :
          ∀ number,
            Adds [blank]
              (write .dollar number
                ([',', ' '].map char ++ blank :: rest) ++
                text) := by
        intro number
        refine adds_blank ?_
        intro c hHead
        cases hHead
        rfl
      exact adds_append hFirst (adds_append hSeparator ih)

end Glyph

------------------------------------------------------------
-- Neighbours
------------------------------------------------------------

namespace Lexeme

/-
  Whether a lexeme and a character right after it are read
  together: a dollar sign, with what goes on to a dollar tag
  or a number, the first characters of comments, and the
  numbers of markers.
-/
def joins : Lexeme → Char → Bool
  | verbatim ['$'], c => c = '$' || Region.isNameChar c
  | verbatim ['-'], c => c = '-'
  | verbatim ['/'], c => c = '*'
  | positional _, c => c.isDigit
  | named _ _ _, c => c.isDigit
  | _, _ => false

/-
  The characters that what is written for a lexeme may begin
  with: a marker or a null, for a placeholder.
-/
def begins (lexeme : Lexeme) : List Char :=
  match lexeme.glyphs with
  | [] => []
  | .char c :: _ => [c]
  | .blank :: _ => ['$', 'N']

/-
  Whether a lexeme is never read together with the next one.
-/
def Apart (lexeme next : Lexeme) : Prop :=
  ∀ c ∈ next.begins, lexeme.joins c = false

instance (lexeme next : Lexeme) :
    Decidable (Apart lexeme next) :=
  List.decidableBAll _ _

/- What is written for a lexeme that stays. -/
inductive Writes : Lexeme → List Glyph → Prop
  | verbatim {text} :
      Writes (verbatim text) (text.map .char)
  | escape {mark c} : Writes (escape mark c) [.char c]
  | positional {suffix part}
      (hPart : Glyph.Entry part) :
      Writes (positional suffix) part
  | named {sigil name suffix part}
      (hPart : Glyph.Entry part) :
      Writes (named sigil name suffix) part

/-
  A statement that fills lexemes begins with what its first
  one is written as.
-/
theorem writes_of_fills
    {lexeme : Lexeme}
    {template statement : List Glyph}
    (hLexeme : lexeme.isDelimiter = false)
    (hFills :
      Glyph.Fills (lexeme.glyphs ++ template) statement) :
    ∃ part rest, statement = part ++ rest ∧
      Writes lexeme part ∧ Glyph.Fills template rest := by
  cases lexeme with
  | verbatim text =>
      rcases hFills.of_chars_append with
        ⟨rest, hText, hRest⟩
      exact ⟨_, rest, hText, .verbatim, hRest⟩
  | escape mark c =>
      cases hFills with
      | @char c template rest hRest =>
          exact ⟨_, rest, rfl, .escape, hRest⟩
  | opening => cases hLexeme
  | closing => cases hLexeme
  | positional suffix =>
      cases hFills with
      | @blank template part rest hPart hRest =>
          exact ⟨part, rest, rfl, .positional hPart,
            hRest⟩
  | named sigil name suffix =>
      cases hFills with
      | @blank template part rest hPart hRest =>
          exact ⟨part, rest, rfl, .named hPart, hRest⟩

/- A single character that is a lexeme begins no part. -/
theorem adds_char
    {c : Char}
    {rest text : List Char}
    (hOther :
      ∀ lexeme after, Special lexeme after →
        c :: rest ≠ lexeme.source ++ after)
    (hText :
      ∀ d ∈ text.head?,
        (verbatim [c]).joins d = false) :
    Glyph.Adds [.char c] text := by
  suffices hScan :
      markersIn ([c] ++ text) = markersIn text from
    Glyph.adds_chars_iff.2 hScan
  by_cases hDollar : c = '$'
  · subst hDollar
    refine markersIn_dollar_text ?_
    intro d hHead
    simpa [joins] using hText d hHead
  · have hQuote : ¬ (c = '\x27' ∨ c = '\"') := by
      intro hQuote
      have hRead := Region.read?_quote hQuote rest
      rcases Region.read?_eq_some_iff.1 hRead with
        ⟨hText, hPart⟩
      exact hOther _ _ (.region hPart) hText
    refine markersIn_char ?_ ?_ ?_
    · simpa [hDollar] using hQuote
    · rintro rfl hHead
      exact absurd (hText '-' hHead) (by decide)
    · rintro rfl hHead
      exact absurd (hText '*' hHead) (by decide)

/-
  The markers of what is written for a lexeme are found in
  front of a text that it is not read together with.
-/
theorem Stands.adds
    {lexeme : Lexeme}
    {rest text : List Char}
    {part : List Glyph}
    (hLexeme : Stands lexeme rest)
    (hPart : Writes lexeme part)
    (hEnd : rest = [] → text = [])
    (hText : ∀ c ∈ text.head?, lexeme.joins c = false) :
    Glyph.Adds part text := by
  cases hPart with
  | verbatim =>
      cases hLexeme with
      | char hOther => exact adds_char hOther hText
      | special hSpecial =>
          cases hSpecial with
          | region hRegion =>
              exact Glyph.adds_chars_iff.2
                (markersIn_region hRegion hEnd)
          | colons =>
              exact Glyph.adds_chars_iff.2
                (markersIn_plain (by simp) text)
          | operator hChar =>
              refine Glyph.adds_chars_iff.2
                (markersIn_plain ?_ text)
              rcases hChar with rfl | rfl
              · simp
              · simp
  | @escape mark c =>
      have hPlain :
          c ∉ ['\x27', '\"', '$', '-', '/'] := by
        cases hLexeme with
        | special hSpecial =>
            cases hSpecial with
            | question => decide
            | brace hChar =>
                rcases hChar with rfl | rfl
                · decide
                · decide
      have hChars :
          ∀ d ∈ [c],
            d ∉ ['\x27', '\"', '$', '-', '/'] := by
        simpa using hPlain
      exact Glyph.adds_chars_iff.2
        (markersIn_plain hChars text)
  | positional hPart => exact hPart.adds hText
  | named hPart => exact hPart.adds hText

/- Only delimiters are not spelled at all. -/
theorem glyphs_ne_nil
    {lexeme : Lexeme}
    (hLexeme : lexeme.isDelimiter = false)
    (hSource : lexeme.source ≠ []) :
    lexeme.glyphs ≠ [] := by
  cases lexeme with
  | verbatim text => simpa [glyphs, source] using hSource
  | opening => cases hLexeme
  | closing => cases hLexeme
  | _ => exact List.cons_ne_nil _ _

/-
  What is written for lexemes begins as the first of them
  does.
-/
theorem begins_of_fills
    {kept : List Lexeme}
    {statement : List Glyph}
    {c : Char}
    (hKept : ∀ lexeme ∈ kept, lexeme.glyphs ≠ [])
    (hFills : Glyph.Fills (kept.flatMap glyphs) statement)
    (number : Nat)
    (hHead :
      c ∈ (Glyph.write .dollar number statement).head?) :
    ∃ lexeme ∈ kept.head?, c ∈ lexeme.begins := by
  cases kept with
  | nil =>
      cases hFills
      cases hHead
  | cons lexeme kept =>
      refine ⟨lexeme, rfl, ?_⟩
      have hGlyphs := hKept lexeme List.mem_cons_self
      rw [List.flatMap_cons] at hFills
      unfold begins
      split
      · next hNil => exact absurd hNil hGlyphs
      · next d glyphs hChar =>
          rw [hChar] at hFills
          cases hFills with
          | char hRest =>
              cases hHead
              exact List.mem_singleton_self _
      · next glyphs hBlank =>
          rw [hBlank] at hFills
          cases hFills with
          | blank hPart hRest =>
              exact hPart.mem_begins hHead

------------------------------------------------------------
-- All Lexemes
------------------------------------------------------------

/- Lexemes that stay are spelled by something. -/
theorem Cuts.glyphs_ne_nil
    {text : List Char}
    {lexemes kept : List Lexeme}
    (hCuts : Cuts text lexemes)
    (hKept :
      kept.Sublist (lexemes.filter (! ·.isDelimiter))) :
    ∀ lexeme ∈ kept, lexeme.glyphs ≠ [] := by
  have hSource :
      ∀ lexeme ∈ lexemes, lexeme.source ≠ [] := by
    clear hKept
    induction hCuts with
    | nil => simp
    | cons hLexeme hRest ih =>
        exact List.forall_mem_cons.2
          ⟨source_ne_nil_of_stands hLexeme, ih⟩
  intro lexeme hMem
  rcases List.mem_filter.1 (hKept.subset hMem) with
    ⟨hMem, hDelimiter⟩
  rw [Bool.not_eq_true'] at hDelimiter
  exact Lexeme.glyphs_ne_nil hDelimiter
    (hSource lexeme hMem)

/-
  The markers of a statement are found if the lexemes that
  it is written for are in the order of a text, and apart.
  The text is what the grammar speaks of, so the induction
  is on how it is cut, and not on the lexemes that stay.
-/
theorem Cuts.adds
    {text : List Char}
    {lexemes kept : List Lexeme}
    {statement : List Glyph}
    (hCuts : Cuts text lexemes)
    (hKept :
      kept.Sublist (lexemes.filter (! ·.isDelimiter)))
    (hApart : kept.IsChain Apart)
    (hFills : Glyph.Fills (kept.flatMap glyphs) statement) :
    Glyph.Adds statement [] := by
  induction hCuts generalizing kept statement with
  | nil =>
      cases hKept
      cases hFills
      intro number
      rfl
  | @cons lexeme lexemes rest hLexeme hRest ih =>
      rw [List.filter_cons] at hKept
      split at hKept
      · next hDelimiter =>
          cases hKept with
          | cons _ hKept => exact ih hKept hApart hFills
          | @cons_cons later _ _ hKept =>
              rw [List.isChain_cons] at hApart
              rw [Bool.not_eq_true'] at hDelimiter
              rcases writes_of_fills hDelimiter hFills with
                ⟨part, statement, rfl, hPart, hFills⟩
              refine Glyph.adds_append ?_
                (ih hKept hApart.2 hFills)
              intro number
              rw [List.append_nil]
              refine hLexeme.adds hPart ?_ ?_
              · rintro rfl
                have hNone := cuts_iff.1 hRest
                rw [all] at hNone
                subst hNone
                cases hKept
                cases hFills
                rfl
              · intro c hHead
                rcases begins_of_fills
                  (hRest.glyphs_ne_nil hKept)
                    hFills _ hHead with
                  ⟨next, hNext, hBegins⟩
                exact hApart.1 next hNext c hBegins
      · exact ih hKept hApart hFills

end Lexeme

------------------------------------------------------------
-- Bound Statements
------------------------------------------------------------

/-
  Exactly the markers of the values are found in a
  statement, each once and in their order, if no fragments
  are supplied and no lexeme that stays is read together
  with the next one that stays.
-/
theorem bindText_markersIn
    {source : String}
    {params : Params}
    {policy : EmptyList}
    {bound : Bound}
    (hBound :
      bindText source params ⟨.dollar, policy⟩ =
        .ok bound)
    (hParams : params.FragmentFree)
    (hApart :
      (Lexeme.retained params.contains
        (Lexeme.all source.toList)).IsChain Lexeme.Apart) :
    markersIn bound.query.toList =
      (List.range' 1 bound.params.length).map
        MarkerStyle.dollar.marker := by
  rcases Except.exists_of_bind hBound with
    ⟨template, hTemplate, hBind⟩
  rcases Segment.bindAll_fills hBind hParams.named
      hParams.positional with
    ⟨statement, hFills, hQuery, hCount⟩
  have hGlyphs :=
    Template.glyphs_retained params.contains hTemplate
  rw [Forest.glyphs] at hGlyphs
  rw [hGlyphs] at hFills
  have hCuts := Lexeme.cuts_all source.toList
  have hKept :=
    Lexeme.retained_sublist params.contains
      (Lexeme.all source.toList)
  have hAdds := hCuts.adds hKept hApart hFills
  have hScan := hAdds 1
  rw [List.append_nil, markersIn_nil, List.append_nil]
    at hScan
  rw [hQuery, hScan, hCount, Glyph.numbered]

section Sample

/-
  A text with markers next to what they could be read with.
-/
def neighboursSource : String :=
  "a=:x-{:gone}:ids, \x27it\x27\x27s $9\x27 /{:gone}? -- ?\n$ ??"

def neighboursParams : Params :=
  ⟨[("x", .value (.int 5)),
      ("ids", .list [.text "7", .bool true])],
    [.value (.text "first")]⟩

/-
  The markers of a statement with quotations, comments and
  neighbours are those of its values.
-/
theorem bindText_markersIn_sample :
    ∃ bound,
      bindText neighboursSource neighboursParams
          ⟨.dollar, .reject⟩ = .ok bound ∧
        neighboursParams.FragmentFree ∧
        (Lexeme.retained neighboursParams.contains
          (Lexeme.all neighboursSource.toList)).IsChain
            Lexeme.Apart ∧
        bound.query =
          "a=$1-$2, $3, \x27it\x27\x27s $9\x27 /$4 -- ?\n$ ?" ∧
        markersIn bound.query.toList =
          (List.range' 1 bound.params.length).map
            MarkerStyle.dollar.marker := by
  have hBound :
      bindText neighboursSource neighboursParams
          ⟨.dollar, .reject⟩ =
        .ok
          ⟨"a=$1-$2, $3, \x27it\x27\x27s $9\x27 /$4 -- ?\n$ ?",
          [.int 5, .text "7", .bool true,
            .text "first"]⟩ := by
    with_unfolding_all rfl
  have hParams : neighboursParams.FragmentFree := by
    constructor
    · intro name f
      simp only [neighboursParams, Params.get?,
        List.lookup_cons, List.lookup_nil]
      grind
    · simp [neighboursParams]
  have hApart :
      (Lexeme.retained neighboursParams.contains
        (Lexeme.all neighboursSource.toList)).IsChain
          Lexeme.Apart := by
    decide +kernel
  exact ⟨_, hBound, hParams, hApart, rfl,
    bindText_markersIn hBound hParams hApart⟩

end Sample

/-
  A digit after a placeholder goes on with the number of its
  marker, so that the marker of the value is not found.
-/
theorem markersIn_of_digit :
    (∀ front digit back,
        "?1".toList = front ++ '$' :: digit :: back →
          digit.isDigit = false) ∧
      Params.FragmentFree ⟨[], [.value (.int 7)]⟩ ∧
      bindText "?1" ⟨[], [.value (.int 7)]⟩
          ⟨.dollar, .reject⟩ =
            .ok ⟨"$11", [.int 7]⟩ ∧
      markersIn "$11".toList ≠
        (List.range' 1 1).map
          MarkerStyle.dollar.marker := by
  have hMarkers : markersIn "$11".toList = ["$11"] := by
    with_unfolding_all rfl
  refine ⟨?_, ?_, by with_unfolding_all rfl, ?_⟩
  · intro front digit back hSource
    have hDollar : '$' ∈ "?1".toList := by
      rw [hSource]
      simp
    exact absurd hDollar (by decide)
  · constructor
    · simp [Params.get?]
    · simp
  · rw [hMarkers]
    decide

end SqlAccess
