import SqlAccess.Proofs.Template.Region
import SqlAccess.Template.Lexeme

/-
  This file gives the grammar of the lexemes of a template,
  and shows that cutting a text follows it: every text can
  be cut in one way only, and that is how it is cut.

  Key definitions include:
    * `Lexeme.Suffixed`
    * `Lexeme.Special`
    * `Lexeme.Stands`
    * `Lexeme.Cuts`

  Key theorems include:
    * `Lexeme.suffixed_readSuffix`
    * `Lexeme.read_of_stands`
    * `Lexeme.stands_read`
    * `Lexeme.cuts_iff`
-/

namespace SqlAccess

namespace Lexeme

------------------------------------------------------------
-- Suffixes
------------------------------------------------------------

/-
  What may be written after a placeholder, and what comes
  after that: nothing, where no exclamation mark with a
  letter follows, or such a mark with the longest run of
  name characters.
-/
inductive Suffixed :
    Option (List Char) → List Char → Prop
  | none {rest}
      (hNone :
        ∀ c more, rest = '!' :: c :: more →
          c.isAlpha = false) :
      Suffixed none rest
  | some {c run rest}
      (hLetter : c.isAlpha = true)
      (hRun : ∀ d ∈ run, Region.isNameChar d = true)
      (hRest : Region.Stops rest) :
      Suffixed (some (c :: run)) rest

/- A suffix that the grammar has is read. -/
theorem readSuffix_of_suffixed
    {suffix : Option (List Char)}
    {rest : List Char}
    (hSuffix : Suffixed suffix rest) :
    readSuffix (suffixSource suffix ++ rest) =
      (suffix, rest) := by
  cases hSuffix with
  | none hNone =>
      change readSuffix rest = (none, rest)
      unfold readSuffix
      split
      · next c more => simp [hNone c more rfl]
      · rfl
  | some hLetter hRun hRest =>
      simp [suffixSource, readSuffix, hLetter,
        Region.takeWhile_of_stops hRun hRest,
        Region.dropWhile_of_stops hRun hRest]

/- Every suffix that is read is in the grammar. -/
theorem suffixed_readSuffix (text : List Char) :
    Suffixed (readSuffix text).1 (readSuffix text).2 := by
  fun_cases readSuffix text
  case case1 c rest hLetter =>
    exact .some hLetter
      (List.all_eq_true.1 List.all_takeWhile)
      (Region.stops_dropWhile rest)
  case case2 c rest hLetter =>
    refine .none ?_
    intro d more hText
    cases hText
    simpa using hLetter
  case case3 hOther =>
    refine .none ?_
    intro c more hText
    exact (hOther c more hText).elim

------------------------------------------------------------
-- Lexemes
------------------------------------------------------------

/-
  The lexemes that mean something to a template, each in
  front of what comes after it: the parts in which nothing
  is looked for, the pairs of characters that are no
  placeholders, the escapes, the delimiters and the
  placeholders.
-/
inductive Special : Lexeme → List Char → Prop
  | region {text rest}
      (hText : Region.Stands text rest) :
      Special (verbatim text) rest
  | colons {rest} : Special (verbatim [':', ':']) rest
  | operator {c rest}
      (hChar : c = '|' ∨ c = '&') :
      Special (verbatim ['?', c]) rest
  | question {rest} : Special (escape '?' '?') rest
  | brace {c rest}
      (hChar : c = '\x7b' ∨ c = '\x7d') :
      Special (escape '\\' c) rest
  | opening {rest} : Special opening rest
  | closing {rest} : Special closing rest
  | positional {suffix rest}
      (hSuffix : Suffixed suffix rest)
      (hNext :
        ∀ c ∈ ['?', '|', '&'],
          (suffixSource suffix ++ rest).head? ≠ some c) :
      Special (positional suffix) rest
  | named {sigil name suffix rest}
      (hSigil : sigil = ':' ∨ sigil = '$')
      (hName : Region.IsName name)
      (hLongest :
        Region.Stops (suffixSource suffix ++ rest))
      (hDollar :
        sigil = '$' →
          (suffixSource suffix ++ rest).head? ≠ some '$')
      (hSuffix : Suffixed suffix rest) :
      Special (named sigil name suffix) rest

/-
  A lexeme in front of what comes after it.  A character at
  which no other lexeme begins is a lexeme itself.
-/
inductive Stands : Lexeme → List Char → Prop
  | special {lexeme rest}
      (hSpecial : Special lexeme rest) :
      Stands lexeme rest
  | char {c rest}
      (hOther :
        ∀ lexeme after, Special lexeme after →
          c :: rest ≠ lexeme.source ++ after) :
      Stands (verbatim [c]) rest

/- The lexemes that a text consists of. -/
inductive Cuts : List Char → List Lexeme → Prop
  | nil : Cuts [] []
  | cons {lexeme lexemes rest}
      (hLexeme : Stands lexeme rest)
      (hRest : Cuts rest lexemes) :
      Cuts (lexeme.source ++ rest) (lexeme :: lexemes)

------------------------------------------------------------
-- Reading Is Grammatical
------------------------------------------------------------

/-
  What is read after a sigil is a placeholder or the sigil.
-/
theorem special_readNamed
    {sigil : Char}
    {rest : List Char}
    (hSigil : sigil = ':' ∨ sigil = '$')
    (hRegion :
      sigil = '$' →
        Region.read? (sigil :: rest) = none) :
    Special (readNamed sigil rest).1
      (readNamed sigil rest).2 ∨
      readNamed sigil rest = (verbatim [sigil], rest) := by
  by_cases hEmpty : Region.leadingName rest = []
  · right
    simp [readNamed, hEmpty]
  · left
    have hName := Region.isName_leadingName hEmpty
    have hStops := Region.stops_drop_leadingName hEmpty
    have hSuffix :=
      suffixed_readSuffix
        (rest.drop (Region.leadingName rest).length)
    have hText :=
      suffixSource_append
        (rest.drop (Region.leadingName rest).length)
    simp only [readNamed, List.isEmpty_iff, hEmpty,
      if_false]
    refine .named hSigil hName (hText.symm ▸ hStops) ?_
      hSuffix
    intro hDollar hHead
    have hMark : Region.dollarMark? rest ≠ none := by
      rw [hText] at hHead
      simp [Region.dollarMark?, hHead]
    subst hDollar
    have hNone := hRegion rfl
    simp only [Region.read?, Region.readDollar?,
      Option.map_eq_none_iff] at hNone
    exact hMark hNone

/-
  Outside of parts, a lexeme of the grammar is read, or a
  character that means nothing.
-/
theorem special_readPlain
    {c : Char}
    {rest : List Char}
    (hRegion : Region.read? (c :: rest) = none) :
    Special (readPlain c rest).1 (readPlain c rest).2 ∨
      readPlain c rest = (verbatim [c], rest) := by
  fun_cases readPlain c rest
  case case1 => exact .inl (.brace (.inl rfl))
  case case2 => exact .inl (.brace (.inr rfl))
  case case3 => exact .inl .opening
  case case4 => exact .inl .closing
  case case5 => exact .inl .question
  case case6 => exact .inl (.operator (.inl rfl))
  case case7 => exact .inl (.operator (.inr rfl))
  case case8 hQuestion hBar hAnd =>
    left
    refine .positional (suffixed_readSuffix rest) ?_
    intro d hMem hHead
    have hText := suffixSource_append rest
    change (suffixSource (readSuffix rest).1 ++
      (readSuffix rest).2).head? = some d at hHead
    rw [hText] at hHead
    rcases List.head?_eq_some_iff.1 hHead with
      ⟨more, rfl⟩
    simp only [List.mem_cons, List.not_mem_nil, or_false]
      at hMem
    rcases hMem with rfl | rfl | rfl
    · exact hQuestion more rfl
    · exact hBar more rfl
    · exact hAnd more rfl
  case case9 => exact .inl .colons
  case case10 =>
    exact special_readNamed (.inl rfl) fun hDollar =>
      absurd hDollar (by decide)
  case case11 =>
    exact special_readNamed (.inr rfl) fun _ => hRegion
  case case12 => exact .inr rfl

/-
  A lexeme of the grammar is read, or a character that means
  nothing.
-/
theorem special_read
    (c : Char)
    (rest : List Char) :
    Special (read c rest).1 (read c rest).2 ∨
      read c rest = (verbatim [c], rest) := by
  unfold read
  split
  · next text after hRead =>
      left
      exact .region (Region.stands_of_read? hRead)
  · next hNone => exact special_readPlain hNone

------------------------------------------------------------
-- The Grammar Is Read
------------------------------------------------------------

/- A name that the grammar has is read to its end. -/
theorem readNamed_of_special
    {sigil : Char}
    {name rest : List Char}
    {suffix : Option (List Char)}
    (hName : Region.IsName name)
    (hLongest : Region.Stops (suffixSource suffix ++ rest))
    (hSuffix : Suffixed suffix rest) :
    readNamed sigil
        (name ++ (suffixSource suffix ++ rest)) =
      (named sigil name suffix, rest) := by
  have hLeading :=
    Region.leadingName_of_isName hName hLongest
  have hNonempty : name ≠ [] := by
    rcases hName with ⟨c, more, rfl, -⟩
    exact List.cons_ne_nil _ _
  simp [readNamed, hLeading, hNonempty,
    readSuffix_of_suffixed hSuffix]

/- No part begins with a sigil and a name alone. -/
theorem read?_named
    {sigil : Char}
    {name after : List Char}
    (hSigil : sigil = ':' ∨ sigil = '$')
    (hName : Region.IsName name)
    (hLongest : Region.Stops after)
    (hDollar : sigil = '$' → after.head? ≠ some '$') :
    Region.read? (sigil :: (name ++ after)) = none := by
  rcases hSigil with rfl | rfl
  · rfl
  · have hLeading :=
      Region.leadingName_of_isName hName hLongest
    have hHead := hDollar rfl
    simp [Region.read?, Region.readDollar?,
      Region.dollarMark?, hLeading, hHead]

/-
  A question mark that is part of no pair is a placeholder.
-/
theorem readPlain_question
    {rest : List Char}
    (hNext :
      ∀ c ∈ ['?', '|', '&'], rest.head? ≠ some c) :
    readPlain '?' rest = readPositional rest := by
  unfold readPlain
  split <;> simp_all

/- A colon in front of no other one begins a name. -/
theorem readPlain_colon
    {rest : List Char}
    (hNext : rest.head? ≠ some ':') :
    readPlain ':' rest = readNamed ':' rest := by
  unfold readPlain
  split <;> simp_all

/- A lexeme that the grammar has is read. -/
theorem read_of_special
    {c : Char}
    {lexeme : Lexeme}
    {text rest : List Char}
    (hSpecial : Special lexeme rest)
    (hText : c :: text = lexeme.source ++ rest) :
    read c text = (lexeme, rest) := by
  cases hSpecial with
  | region hRegion =>
      have hRead := Region.read?_of_stands hRegion
      rw [source] at hText
      rw [← hText] at hRead
      simp [read, hRead]
  | colons =>
      cases hText
      rfl
  | operator hChar =>
      rcases hChar with rfl | rfl
      · cases hText
        rfl
      · cases hText
        rfl
  | question =>
      cases hText
      rfl
  | brace hChar =>
      rcases hChar with rfl | rfl
      · cases hText
        rfl
      · cases hText
        rfl
  | opening =>
      cases hText
      rfl
  | closing =>
      cases hText
      rfl
  | positional hSuffix hNext =>
      cases hText
      have hPlain := readPlain_question hNext
      simp [read, Region.read?, hPlain, readPositional,
        readSuffix_of_suffixed hSuffix]
  | @named sigil name suffix rest
      hSigil hName hLongest hDollar hSuffix =>
      simp only [source, List.cons_append,
        List.append_assoc, List.cons.injEq] at hText
      rcases hText with ⟨rfl, rfl⟩
      have hNone :=
        read?_named hSigil hName hLongest hDollar
      have hRead :
          readNamed c
              (name ++ (suffixSource suffix ++ rest)) =
            (named c name suffix, rest) :=
        readNamed_of_special hName hLongest hSuffix
      rcases hSigil with rfl | rfl
      · have hColon :
            (name ++
              (suffixSource suffix ++ rest)).head? ≠
              some ':' := by
          rcases hName with ⟨d, more, rfl, hStart, -⟩
          rintro hHead
          cases hHead
          exact absurd hStart (by decide)
        simp only [read, hNone, readPlain_colon hColon,
          hRead]
      · simp only [read, hNone]
        exact hRead

/-
  A lexeme of the grammar is read where it begins a text.
-/
theorem read_of_stands
    {c : Char}
    {lexeme : Lexeme}
    {text rest : List Char}
    (hLexeme : Stands lexeme rest)
    (hText : c :: text = lexeme.source ++ rest) :
    read c text = (lexeme, rest) := by
  cases hLexeme with
  | special hSpecial => exact read_of_special hSpecial hText
  | char hOther =>
      cases hText
      rcases special_read c rest with hSpecial | hRead
      · exact absurd (source_append_read c rest).symm
          (hOther _ _ hSpecial)
      · exact hRead

/- What is read is a lexeme of the grammar. -/
theorem stands_read
    (c : Char)
    (text : List Char) :
    Stands (read c text).1 (read c text).2 := by
  by_cases hBegins :
      ∃ lexeme after,
        Special lexeme after ∧
          c :: text = lexeme.source ++ after
  · rcases hBegins with
      ⟨lexeme, after, hSpecial, hText⟩
    rw [read_of_special hSpecial hText]
    exact .special hSpecial
  · rcases special_read c text with hSpecial | hRead
    · exact .special hSpecial
    · rw [hRead]
      refine .char ?_
      intro lexeme after hSpecial hText
      exact hBegins ⟨lexeme, after, hSpecial, hText⟩

------------------------------------------------------------
-- Cutting
------------------------------------------------------------

/- The lexemes that are read cut the text. -/
theorem cuts_all
    (text : List Char) :
    Cuts text (all text) := by
  fun_induction all text with
  | case1 => exact .nil
  | case2 c rest ih =>
      have hCuts := Cuts.cons (stands_read c rest) ih
      rwa [source_append_read] at hCuts

/- No lexeme of the grammar is empty. -/
theorem source_ne_nil_of_stands
    {lexeme : Lexeme}
    {rest : List Char}
    (hLexeme : Stands lexeme rest) :
    lexeme.source ≠ [] := by
  cases hLexeme with
  | char hOther => exact List.cons_ne_nil _ _
  | special hSpecial =>
      cases hSpecial with
      | region hRegion =>
          exact Region.ne_nil_of_read?
            (Region.read?_of_stands hRegion)
      | _ => exact List.cons_ne_nil _ _

/- A text is cut in no other way than it is read. -/
theorem all_of_cuts
    {text : List Char}
    {lexemes : List Lexeme}
    (hCuts : Cuts text lexemes) :
    all text = lexemes := by
  induction hCuts with
  | nil => simp [all]
  | @cons lexeme lexemes rest hLexeme hRest ih =>
      cases hText : lexeme.source ++ rest with
      | nil =>
          have hEmpty := (List.append_eq_nil_iff.1 hText).1
          exact absurd hEmpty
            (source_ne_nil_of_stands hLexeme)
      | cons c text =>
          rw [all, read_of_stands hLexeme hText.symm, ih]

/-
  A text is cut as the grammar says, and in no other way.
-/
theorem cuts_iff
    {text : List Char}
    {lexemes : List Lexeme} :
    Cuts text lexemes ↔ all text = lexemes := by
  constructor
  · exact all_of_cuts
  · rintro rfl
    exact cuts_all text

end Lexeme

end SqlAccess
