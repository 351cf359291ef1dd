import SqlAccess.Proofs.Template.Region
import SqlAccess.Routing.Intent

/-
  This file says what becomes of the white space, opening
  parentheses and comments in front of a statement when its
  intent is found out.  Comments nest as they do in
  templates, but the search for the first keyword goes on
  after the first end of a comment, so that a comment with
  another one in it leaves something behind.

  Key definitions include:
    * `Region.afterFirstEnd`
    * `Intent.Piece`
    * `Intent.Piece.IsNoise`
    * `Intent.Piece.Nests`
    * `Intent.remnant`

  Key theorems include:
    * `Region.afterFirstEnd_eq_nil_iff`
    * `Intent.skipNoise_sources`
    * `Intent.remnant_eq_nil_iff`
    * `Intent.detect_after_noise`
-/

namespace SqlAccess

------------------------------------------------------------
-- First Ends of Comments
------------------------------------------------------------

namespace Region

/- A mark is found where it was when more text follows. -/
theorem throughMark_append_right
    {mark text : List Char}
    (hMark : mark <:+: text)
    (more : List Char) :
    (throughMark mark (text ++ more)).2 =
      (throughMark mark text).2 ++ more := by
  induction text with
  | nil =>
      have hNil : mark = [] := List.infix_nil.1 hMark
      subst hNil
      cases more <;> rfl
  | cons c rest ih =>
      by_cases hHere : mark <+: c :: rest
      · have hLonger : mark <+: c :: rest ++ more :=
          hHere.trans (List.prefix_append _ _)
        have hShort := throughMark_of_prefix hHere
        have hLong := throughMark_of_prefix hLonger
        rw [hShort, hLong]
        exact List.drop_append_of_le_length hHere.length_le
      · have hRest : mark <:+: rest := by
          rw [List.infix_cons_iff] at hMark
          exact hMark.resolve_left hHere
        have hNotYet : ¬ mark <+: c :: (rest ++ more) := by
          intro hLonger
          apply hHere
          have hShort :
              mark.length ≤ (c :: rest).length :=
            Nat.le_succ_of_le hRest.length_le
          exact List.prefix_of_prefix_length_le hLonger
            (List.prefix_append (c :: rest) more) hShort
        rw [List.cons_append, throughMark_cons hNotYet,
          throughMark_cons hHere, prepend_snd, prepend_snd,
          ih hRest]

/- What opens and what closes a comment. -/
def opening : List Char := ['/', '*']

def closing : List Char := ['*', '/']

/-
  What is left of a comment after the first end in it, where
  the given text stands between its opening and its own end.
-/
def afterFirstEnd (inner : List Char) : List Char :=
  (throughMark closing (inner ++ closing)).2

/- A comment in which another one begins has two ends. -/
theorem closing_infix_of_inside
    {inner rest : List Char}
    (hInner : Inside inner rest)
    (hOpening : opening <:+: inner) :
    closing <:+: inner := by
  induction hInner with
  | nil => simp [opening] at hOpening
  | @char c body rest hChar hBody ih =>
      rw [List.infix_cons_iff] at hOpening
      rcases hOpening with hHere | hLater
      · exfalso
        apply hChar
        left
        exact hHere.trans
          (List.prefix_append (c :: body) rest)
      · exact List.infix_cons (ih hLater)
  | @nested inner body rest hInner hBody ihInner ihBody =>
      exact ⟨'/' :: '*' :: inner, body,
        by simp [closing]⟩

/-
  Without a comment in it, a comment ends where it closes.
-/
theorem throughMark_of_flat
    {inner rest : List Char}
    (hInner : Inside inner (closing ++ rest))
    (hFlat : ¬ opening <:+: inner) :
    throughMark closing (inner ++ closing) =
      (inner ++ closing, []) := by
  generalize hEnd : closing ++ rest = after at hInner
  induction hInner with
  | nil => rfl
  | @char c body after hChar hBody ih =>
      subst hEnd
      rw [List.infix_cons_iff, not_or] at hFlat
      have hHere :
          ¬ closing <+: c :: (body ++ closing) := by
        intro hPrefix
        apply hChar
        right
        refine hPrefix.trans ?_
        exact ⟨rest, by simp⟩
      rw [List.cons_append, throughMark_cons hHere,
        ih hFlat.2 rfl]
      rfl
  | @nested inner body after hInner hBody ihInner ihBody =>
      exfalso
      apply hFlat
      exact ⟨[], inner ++ '*' :: '/' :: body, rfl⟩

/- No comment begins or ends at other characters. -/
theorem inside_of_plain
    {body rest : List Char}
    (hPlain : ∀ c ∈ body, c ≠ '/' ∧ c ≠ '*') :
    Inside body rest := by
  induction body with
  | nil => exact .nil
  | cons c body ih =>
      rw [List.forall_mem_cons] at hPlain
      rcases hPlain with ⟨⟨hSlash, hStar⟩, hBody⟩
      refine .char ?_ (ih hBody)
      simp [Delimits, hSlash.symm, hStar.symm]

/-
  Something is left of a comment after its first end if and
  only if there is another comment in it.
-/
theorem afterFirstEnd_eq_nil_iff
    {inner : List Char}
    (hInner : Inside inner closing) :
    afterFirstEnd inner = [] ↔ ¬ opening <:+: inner := by
  constructor
  · intro hNothing hOpening
    have hEnd := closing_infix_of_inside hInner hOpening
    rw [afterFirstEnd, throughMark_append_right hEnd]
      at hNothing
    simp [closing] at hNothing
  · intro hFlat
    have hClosing : Inside inner (closing ++ []) := hInner
    rw [afterFirstEnd, throughMark_of_flat hClosing hFlat]

end Region

namespace Intent

/- A comment ends for a statement where it first can. -/
theorem afterComment_eq (text : List Char) :
    afterComment text =
      (Region.throughMark Region.closing text).2 := by
  fun_induction afterComment text with
  | case1 => rfl
  | case2 c => simp [Region.throughMark, Region.closing]
  | case3 c d rest hEnd =>
      rcases hEnd with ⟨rfl, rfl⟩
      rfl
  | case4 c d rest hOther ih =>
      have hHere :
          ¬ Region.closing <+: c :: d :: rest := by
        simpa [Region.closing, eq_comm] using hOther
      rw [Region.throughMark_cons hHere, ih]
      rfl

/-
  A comment is left at its first end, and what follows that
  counts as text.
-/
theorem afterComment_comment (inner text : List Char) :
    afterComment (inner ++ Region.closing ++ text) =
      Region.afterFirstEnd inner ++ text := by
  have hEnd :
      Region.closing <:+: inner ++ Region.closing :=
    (List.suffix_append inner Region.closing).isInfix
  rw [afterComment_eq, Region.throughMark_append_right hEnd]
  rfl

/- A comment of one line is left with its line. -/
theorem afterLine_line
    {line : List Char}
    (hLine : '\n' ∉ line)
    (text : List Char) :
    afterLine (line ++ '\n' :: text) = text := by
  have hPass :
      ∀ c ∈ line, decide (c ≠ '\n') = true := by
    intro c hChar
    simpa using ne_of_mem_of_not_mem hChar hLine
  rw [afterLine, List.dropWhile_append_of_pos hPass]
  simp

------------------------------------------------------------
-- Noise
------------------------------------------------------------

/-
  What may stand in front of a statement: a character, a
  line that is a comment, or a comment between marks.
-/
inductive Piece
  | char (c : Char)
  | line (text : List Char)
  | comment (inner : List Char)

namespace Piece

/- The text of a piece. -/
def source : Piece → List Char
  | char c => [c]
  | line text => '-' :: '-' :: text ++ ['\n']
  | comment inner =>
      Region.opening ++ inner ++ Region.closing

/-
  Whether a piece is noise: white space or an opening
  parenthesis, a whole line, or a whole comment, in which
  others may nest as in a template.
-/
def IsNoise : Piece → Prop
  | char c => isNoise c = true
  | line text => '\n' ∉ text
  | comment inner => Region.Inside inner Region.closing

/- Whether a piece is a comment with another one in it. -/
def Nests : Piece → Prop
  | comment inner => Region.opening <:+: inner
  | _ => False

end Piece

/- The text of some pieces. -/
def sources (pieces : List Piece) : List Char :=
  pieces.flatMap Piece.source

/-
  What is left of noise when the search for a keyword
  starts: all that follows the first end of a comment with
  another one in it.
-/
def remnant : List Piece → List Char
  | [] => []
  | .comment inner :: rest =>
      match Region.afterFirstEnd inner with
      | [] => remnant rest
      | left => left ++ sources rest
  | _ :: rest => remnant rest

/-
  Nothing is left if and only if no comment is in another.
-/
theorem remnant_eq_nil_iff
    {pieces : List Piece}
    (hNoise : ∀ piece ∈ pieces, piece.IsNoise) :
    remnant pieces = [] ↔
      ∀ piece ∈ pieces, ¬ piece.Nests := by
  induction pieces with
  | nil => simp [remnant]
  | cons piece rest ih =>
      rw [List.forall_mem_cons] at hNoise ⊢
      have hRest := ih hNoise.2
      cases piece with
      | char c => simp [remnant, Piece.Nests, hRest]
      | line text => simp [remnant, Piece.Nests, hRest]
      | comment inner =>
          have hEnd :=
            Region.afterFirstEnd_eq_nil_iff hNoise.1
          change _ ↔ ¬ (Piece.comment inner).Nests ∧ _
          have hNests :
              (Piece.comment inner).Nests ↔
                Region.opening <:+: inner := .rfl
          rw [remnant, hNests, ← hEnd]
          split
          case h_1 hNothing =>
            rw [hRest, and_iff_right hNothing]
          case h_2 hLeft =>
            have hSome :
                Region.afterFirstEnd inner ≠ [] := hLeft
            simp [hSome]

------------------------------------------------------------
-- Skipping
------------------------------------------------------------

/- Noise is skipped with blanks first and then a comment. -/
theorem skipNoise_eq (text : List Char) :
    skipNoise text =
      match text.dropWhile isNoise with
      | '-' :: '-' :: rest => skipNoise (afterLine rest)
      | '/' :: '*' :: rest => skipNoise (afterComment rest)
      | body => body := by
  rw [skipNoise]
  split
  case h_1 rest hBody =>
    rw [hBody]
    rfl
  case h_2 rest hBody =>
    rw [hBody]
    rfl
  case h_3 hLine hComment =>
    split
    case h_1 rest hBody => exact absurd hBody (hLine rest)
    case h_2 rest hBody =>
      exact absurd hBody (hComment rest)
    case h_3 => rfl

/- A blank is skipped. -/
theorem skipNoise_char
    {c : Char}
    (hChar : isNoise c = true)
    (text : List Char) :
    skipNoise (c :: text) = skipNoise text := by
  rw [skipNoise_eq, skipNoise_eq text,
    List.dropWhile_cons_of_pos hChar]

/- A comment of one line is skipped. -/
theorem skipNoise_line (text : List Char) :
    skipNoise ('-' :: '-' :: text) =
      skipNoise (afterLine text) := by
  have hMark : ¬ isNoise '-' = true := by decide
  rw [skipNoise_eq, List.dropWhile_cons_of_neg hMark]
  rfl

/- A comment is skipped up to its first end. -/
theorem skipNoise_comment (text : List Char) :
    skipNoise ('/' :: '*' :: text) =
      skipNoise (afterComment text) := by
  have hMark : ¬ isNoise '/' = true := by decide
  rw [skipNoise_eq, List.dropWhile_cons_of_neg hMark]
  rfl

/-
  In front of any text, noise is skipped up to the first end
  of a comment with another one in it.
-/
theorem skipNoise_sources
    {pieces : List Piece}
    (hNoise : ∀ piece ∈ pieces, piece.IsNoise)
    (text : List Char) :
    skipNoise (sources pieces ++ text) =
      skipNoise (remnant pieces ++ text) := by
  induction pieces with
  | nil => rfl
  | cons piece rest ih =>
      rw [List.forall_mem_cons] at hNoise
      have hRest := ih hNoise.2
      have hSources :
          sources (piece :: rest) ++ text =
            piece.source ++ (sources rest ++ text) := by
        simp [sources]
      rw [hSources]
      cases piece with
      | char c =>
          exact (skipNoise_char hNoise.1 _).trans hRest
      | line line =>
          have hLine :
              (Piece.line line).source ++
                  (sources rest ++ text) =
                '-' :: '-' :: (line ++
                  '\n' :: (sources rest ++ text)) := by
            simp [Piece.source]
          rw [hLine, skipNoise_line,
            afterLine_line hNoise.1]
          exact hRest
      | comment inner =>
          have hComment :
              (Piece.comment inner).source ++
                  (sources rest ++ text) =
                '/' :: '*' :: (inner ++ Region.closing ++
                  (sources rest ++ text)) := by
            simp [Piece.source, Region.opening]
          rw [hComment, skipNoise_comment,
            afterComment_comment, remnant]
          split
          case h_1 hNothing =>
            rw [hNothing]
            exact hRest
          case h_2 => rw [List.append_assoc]

------------------------------------------------------------
-- Intents
------------------------------------------------------------

/- An intent depends on what is left of the noise. -/
theorem detect_congr
    {sql other : String}
    (hSkip :
      skipNoise sql.toList = skipNoise other.toList) :
    detect sql = detect other := by
  unfold detect
  rw [hSkip]

/-
  A statement behind noise has the intent that it has behind
  what is left of the noise.  Nothing is left, so that the
  statement has the intent that it has alone, if and only if
  no comment of the noise has another one in it.
-/
theorem detect_after_noise
    {pieces : List Piece}
    (hNoise : ∀ piece ∈ pieces, piece.IsNoise)
    (sql : String) :
    detect (String.ofList (sources pieces) ++ sql) =
        detect (String.ofList (remnant pieces) ++ sql) ∧
      (remnant pieces = [] ↔
        ∀ piece ∈ pieces, ¬ piece.Nests) := by
  constructor
  · apply detect_congr
    simp only [String.toList_append, String.toList_ofList]
    exact skipNoise_sources hNoise sql.toList
  · exact remnant_eq_nil_iff hNoise

section Sample

/- A blank, a line, and a comment with another one in it. -/
def samplePieces : List Piece :=
  [.char ' ', .line "--x".toList,
    .comment " /* */ select ".toList]

/- A comment with another one inside of it is noise. -/
theorem samplePieces_isNoise :
    ∀ piece ∈ samplePieces, piece.IsNoise := by
  have hBlank {rest : List Char} :
      Region.Inside " ".toList rest :=
    Region.inside_of_plain (by simp)
  have hSelect :
      Region.Inside " select ".toList Region.closing :=
    Region.inside_of_plain (by simp)
  have hNested :
      Region.Inside "/* */ select ".toList Region.closing :=
    .nested hBlank hSelect
  have hChar : (Piece.char ' ').IsNoise :=
    show isNoise ' ' = true by decide
  have hLine : (Piece.line "--x".toList).IsNoise := by
    simp [Piece.IsNoise]
  simp only [samplePieces, List.forall_mem_cons]
  exact ⟨hChar, hLine, hBlank.append hNested, by simp⟩

/-
  Behind a comment with another one in it, the rest of the
  outer one is taken for the statement.
-/
theorem detect_after_noise_sample :
    (∀ piece ∈ samplePieces, piece.IsNoise) ∧
      remnant samplePieces = " select */".toList ∧
      detect (String.ofList (sources samplePieces) ++
        "drop t") =
        detect
          (String.ofList (remnant samplePieces) ++
            "drop t") := by
  have hNoise := samplePieces_isNoise
  refine ⟨hNoise, ?_, (detect_after_noise hNoise _).1⟩
  decide

/-
  A statement that writes counts as one that reads, because
  of a comment in front of it.
-/
theorem write_behind_nested_comment :
    (∀ piece ∈ samplePieces, piece.IsNoise) ∧
      detect "drop t" = write ∧
      detect (String.ofList (sources samplePieces) ++
        "drop t") =
        read := by
  refine ⟨samplePieces_isNoise, ?_, ?_⟩
  · with_unfolding_all rfl
  · with_unfolding_all rfl

end Sample

end Intent

end SqlAccess
