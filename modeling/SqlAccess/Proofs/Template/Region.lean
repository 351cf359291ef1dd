import SqlAccess.Template.Region

/-
  This file gives the grammar of the parts of a text in
  which nothing of a template is looked for, and shows that
  reading follows it: a part is read if and only if the
  grammar has it, together with what follows it.

  Key definitions include:
    * `Region.Quoted`
    * `Region.Line`
    * `Region.Inside`
    * `Region.Unclosed`
    * `Region.Comment`
    * `Region.UpTo`
    * `Region.Stands`

  Key theorems include:
    * `Region.quoted_throughQuote`
    * `Region.throughComment_eq_iff`
    * `Region.upTo_throughMark`
    * `Region.read?_eq_some_iff`
-/

namespace SqlAccess

namespace Region

@[simp] theorem prepend_fst
    (chars : List Char)
    (parts : List Char × List Char) :
    (prepend chars parts).1 = chars ++ parts.1 :=
  rfl

@[simp] theorem prepend_snd
    (chars : List Char)
    (parts : List Char × List Char) :
    (prepend chars parts).2 = parts.2 :=
  rfl

------------------------------------------------------------
-- Quotations
------------------------------------------------------------

/-
  What follows an opening quote up to the closing one, and
  what comes after that: two quotes in a row do not close a
  quotation, and one that is not closed takes all the text.
-/
inductive Quoted
    (quote : Char) : List Char → List Char → Prop
  | closed {rest}
      (hNext : rest.head? ≠ some quote) :
      Quoted quote [quote] rest
  | unclosed : Quoted quote [] []
  | doubled {body rest}
      (hBody : Quoted quote body rest) :
      Quoted quote (quote :: quote :: body) rest
  | char {c body rest}
      (hChar : c ≠ quote)
      (hBody : Quoted quote body rest) :
      Quoted quote (c :: body) rest

/- A quotation that the grammar has is read to its end. -/
theorem throughQuote_of_quoted
    {quote : Char}
    {body rest : List Char}
    (hBody : Quoted quote body rest) :
    throughQuote quote (body ++ rest) = (body, rest) := by
  induction hBody with
  | @closed rest hNext =>
      cases rest with
      | nil => rfl
      | cons d rest =>
          have hd : d ≠ quote := by simpa using hNext
          simp [throughQuote, hd]
  | unclosed => rfl
  | doubled hBody ih => simp [throughQuote, ih, prepend]
  | @char c body rest hChar hBody ih =>
      cases hAfter : body ++ rest with
      | nil =>
          obtain ⟨rfl, rfl⟩ :=
            List.append_eq_nil_iff.1 hAfter
          rfl
      | cons d after =>
          rw [hAfter] at ih
          simp [throughQuote, hChar, hAfter, ih, prepend]

/- Every quotation that is read is in the grammar. -/
theorem quoted_throughQuote
    (quote : Char)
    (text : List Char) :
    Quoted quote (throughQuote quote text).1
      (throughQuote quote text).2 := by
  fun_induction throughQuote quote text with
  | case1 => exact .unclosed
  | case2 c =>
      by_cases hChar : c = quote
      · subst hChar
        exact .closed (by simp)
      · exact .char hChar .unclosed
  | case3 rest ih => exact .doubled ih
  | case4 d rest hNext =>
      exact .closed (by simpa using hNext)
  | case5 c d rest hChar ih => exact .char hChar ih

------------------------------------------------------------
-- Lines
------------------------------------------------------------

/-
  A line and what comes after it.  The last line of a text
  need not have an end.
-/
def Line (body rest : List Char) : Prop :=
  (∃ line, '\n' ∉ line ∧ body = line ++ ['\n']) ∨
    ('\n' ∉ body ∧ rest = [])

/-
  A comment of one line goes on up to the end of the line.
-/
theorem Line.cons
    {c : Char}
    {body rest : List Char}
    (hChar : c ≠ '\n')
    (hLine : Line body rest) : Line (c :: body) rest := by
  rcases hLine with
    ⟨line, hLine, rfl⟩ | ⟨hBody, rfl⟩
  · left
    exact ⟨c :: line, by simp [hChar.symm, hLine], rfl⟩
  · right
    exact ⟨by simp [hChar.symm, hBody], rfl⟩

/-
  A comment of one line that the grammar has is read to its
  end.
-/
theorem throughLine_of_line
    {body rest : List Char}
    (hLine : Line body rest) :
    throughLine (body ++ rest) = (body, rest) := by
  rcases hLine with
    ⟨line, hLine, rfl⟩ | ⟨hBody, rfl⟩
  · induction line with
    | nil => simp [throughLine]
    | cons c line ih =>
        rw [List.mem_cons, not_or] at hLine
        have hChar : c ≠ '\n' := Ne.symm hLine.1
        rw [List.cons_append, List.cons_append, throughLine,
          if_neg hChar, ih hLine.2]
        rfl
  · induction body with
    | nil => rfl
    | cons c body ih =>
        rw [List.mem_cons, not_or] at hBody
        have hChar : c ≠ '\n' := Ne.symm hBody.1
        rw [List.cons_append, throughLine, if_neg hChar,
          ih hBody.2]
        rfl

/-
  Every comment of one line that is read is in the grammar.
-/
theorem line_throughLine (text : List Char) :
    Line (throughLine text).1 (throughLine text).2 := by
  fun_induction throughLine text with
  | case1 => exact .inr ⟨by simp, rfl⟩
  | case2 rest => exact .inl ⟨[], by simp, rfl⟩
  | case3 c rest hChar ih => exact ih.cons hChar

------------------------------------------------------------
-- Comments
------------------------------------------------------------

/- Whether a comment begins or ends where a text begins. -/
def Delimits (text : List Char) : Prop :=
  ['/', '*'] <+: text ∨ ['*', '/'] <+: text

/-
  The inside of a comment as far as it consists of whole
  items, and what comes after it: nested comments, and
  characters at which no comment begins or ends.
-/
inductive Inside : List Char → List Char → Prop
  | nil {rest} : Inside [] rest
  | char {c body rest}
      (hChar : ¬ Delimits (c :: (body ++ rest)))
      (hBody : Inside body rest) :
      Inside (c :: body) rest
  | nested {inner body rest}
      (hInner : Inside inner ('*' :: '/' :: (body ++ rest)))
      (hBody : Inside body rest) :
      Inside
        ('/' :: '*' :: (inner ++ '*' :: '/' :: body)) rest

/-
  What follows the opening of a comment that is not closed:
  whole items up to the end of the text, or up to a comment
  inside of it that is not closed either.
-/
inductive Unclosed : List Char → Prop
  | last {body}
      (hBody : Inside body []) : Unclosed body
  | inner {body more}
      (hBody : Inside body ('/' :: '*' :: more))
      (hMore : Unclosed more) :
      Unclosed (body ++ '/' :: '*' :: more)

/-
  What follows the opening of a comment up to its end, and
  what comes after that.
-/
def Comment (body rest : List Char) : Prop :=
  (∃ inner, Inside inner ('*' :: '/' :: rest) ∧
      body = inner ++ ['*', '/']) ∨
    (Unclosed body ∧ rest = [])

/- Other characters do not matter for the depth. -/
theorem throughComment_char
    {c : Char}
    {rest : List Char}
    (depth : Nat)
    (hChar : ¬ Delimits (c :: rest)) :
    throughComment depth (c :: rest) =
      prepend [c] (throughComment depth rest) := by
  cases rest with
  | nil => rfl
  | cons d rest =>
      rw [Delimits, not_or] at hChar
      have hOpening : ¬ (c = '/' ∧ d = '*') := by
        rintro ⟨rfl, rfl⟩
        exact hChar.1 ⟨rest, rfl⟩
      have hClosing : ¬ (c = '*' ∧ d = '/') := by
        rintro ⟨rfl, rfl⟩
        exact hChar.2 ⟨rest, rfl⟩
      simp [throughComment, hOpening, hClosing]

/-
  A comment inside of another one makes the depth greater.
-/
@[simp] theorem throughComment_opening
    (depth : Nat)
    (rest : List Char) :
    throughComment depth ('/' :: '*' :: rest) =
      prepend ['/', '*']
        (throughComment (depth + 1) rest) := by
  simp [throughComment]

/- The outermost comment ends with its closing mark. -/
@[simp] theorem throughComment_closing
    (rest : List Char) :
    throughComment 0 ('*' :: '/' :: rest) =
      (['*', '/'], rest) := by
  simp [throughComment]

/-
  A comment inside of another one ends with its own closing
  mark.
-/
@[simp] theorem throughComment_closing_succ
    (depth : Nat)
    (rest : List Char) :
    throughComment (depth + 1) ('*' :: '/' :: rest) =
      prepend ['*', '/'] (throughComment depth rest) := by
  simp [throughComment]

/- Whole items are passed, at every depth. -/
theorem throughComment_inside
    {body rest : List Char}
    (hBody : Inside body rest)
    (depth : Nat) :
    throughComment depth (body ++ rest) =
      prepend body (throughComment depth rest) := by
  induction hBody generalizing depth with
  | nil => rfl
  | char hChar hBody ih =>
      rw [List.cons_append, throughComment_char depth hChar,
        ih depth]
      rfl
  | nested hInner hBody ihInner ihBody =>
      simp [ihInner (depth + 1), ihBody depth, prepend]

/- A comment that is not closed takes all the text. -/
theorem throughComment_unclosed
    {body : List Char}
    (hBody : Unclosed body)
    (depth : Nat) :
    throughComment depth body = (body, []) := by
  induction hBody generalizing depth with
  | last hBody =>
      have hAll := throughComment_inside hBody depth
      simpa [throughComment, prepend] using hAll
  | inner hBody hMore ih =>
      rw [throughComment_inside hBody depth,
        throughComment_opening, ih (depth + 1)]
      simp [prepend]

/- A comment that the grammar has is read to its end. -/
theorem throughComment_of_comment
    {body rest : List Char}
    (hBody : Comment body rest) :
    throughComment 0 (body ++ rest) = (body, rest) := by
  rcases hBody with
    ⟨inner, hInner, rfl⟩ | ⟨hBody, rfl⟩
  · have hAll := throughComment_inside hInner 0
    simpa [prepend] using hAll
  · simpa using throughComment_unclosed hBody 0

/- Whole items in front of whole items are whole items. -/
theorem Inside.append
    {front body rest : List Char}
    (hFront : Inside front (body ++ rest))
    (hBody : Inside body rest) :
    Inside (front ++ body) rest := by
  generalize hMiddle : body ++ rest = middle at hFront
  induction hFront with
  | nil => exact hBody
  | char hChar hItems ih =>
      subst hMiddle
      exact .char (by simpa using hChar) (ih rfl)
  | nested hInner hItems ihInner ihItems =>
      subst hMiddle
      have hAll : Inside _ _ :=
        .nested (by simpa using hInner) (ihItems rfl)
      simpa using hAll

/-
  Whole items in front of the rest of a comment belong to
  it.
-/
theorem Comment.after
    {front body rest : List Char}
    (hBody : Comment body rest)
    (hFront : Inside front (body ++ rest)) :
    Comment (front ++ body) rest := by
  rcases hBody with
    ⟨inner, hInner, rfl⟩ | ⟨hBody, rfl⟩
  · left
    refine ⟨front ++ inner, .append ?_ hInner, by simp⟩
    simpa using hFront
  · right
    refine ⟨?_, rfl⟩
    rw [List.append_nil] at hFront
    cases hBody with
    | last hBody =>
        exact .last (.append (by simpa using hFront) hBody)
    | inner hBody hMore =>
        rw [← List.append_assoc]
        exact .inner (.append hFront hBody) hMore

/-
  Every text is the inside of a comment up to its end.  The
  induction is on the length, because a nested comment is
  followed by more of the outer one.
-/
theorem exists_comment (text : List Char) :
    ∃ body rest,
      text = body ++ rest ∧ Comment body rest := by
  induction hLength : text.length using Nat.strongRecOn
    generalizing text with
  | ind length ih =>
  subst hLength
  by_cases hDelimits : Delimits text
  · rcases hDelimits with ⟨more, rfl⟩ | ⟨more, rfl⟩
    · have hMore :
          more.length < (['/', '*'] ++ more).length := by
        rw [List.length_append, List.length_cons]
        omega
      rcases ih more.length hMore more rfl with
        ⟨_, after, rfl,
          ⟨inner, hInner, rfl⟩ | ⟨hBody, rfl⟩⟩
      · rw [List.length_append] at hMore
        rcases ih after.length (by omega) after rfl with
          ⟨body, rest, rfl, hBody⟩
        have hNested :
            Inside ('/' :: '*' :: (inner ++ ['*', '/']))
              (body ++ rest) :=
          .nested hInner .nil
        exact ⟨_, rest, by simp, hBody.after hNested⟩
      · have hOpen : Unclosed ('/' :: '*' :: _) :=
          .inner .nil hBody
        exact ⟨_, [], rfl, .inr ⟨hOpen, rfl⟩⟩
    · exact ⟨_, more, rfl, .inl ⟨[], .nil, rfl⟩⟩
  · cases text with
    | nil =>
        exact ⟨[], [], rfl, .inr ⟨.last .nil, rfl⟩⟩
    | cons c text =>
        rcases ih text.length (by simp) text rfl with
          ⟨body, rest, rfl, hBody⟩
        exact ⟨c :: body, rest, rfl,
          hBody.after (.char hDelimits .nil)⟩

/- A comment is read if and only if the grammar has it. -/
theorem throughComment_eq_iff
    {text body rest : List Char} :
    throughComment 0 text = (body, rest) ↔
      text = body ++ rest ∧ Comment body rest := by
  constructor
  · intro hRead
    rcases exists_comment text with
      ⟨part, after, rfl, hPart⟩
    rw [throughComment_of_comment hPart] at hRead
    cases hRead
    exact ⟨rfl, hPart⟩
  · rintro ⟨rfl, hBody⟩
    exact throughComment_of_comment hBody

------------------------------------------------------------
-- Dollar Tags
------------------------------------------------------------

/- A name: its first character and those it goes on with. -/
def IsName (name : List Char) : Prop :=
  ∃ c more, name = c :: more ∧ isNameStart c = true ∧
    ∀ d ∈ more, isNameChar d = true

/- No name goes on where a text begins. -/
def Stops (text : List Char) : Prop :=
  ∀ c, text.head? = some c → isNameChar c = false

theorem stops_dollar (rest : List Char) :
    Stops ('$' :: rest) := by
  intro c hHead
  cases hHead
  decide

/- The longest run of name characters is the whole run. -/
theorem takeWhile_of_stops
    {run rest : List Char}
    (hRun : ∀ c ∈ run, isNameChar c = true)
    (hRest : Stops rest) :
    (run ++ rest).takeWhile isNameChar = run := by
  rw [List.takeWhile_append_of_pos hRun]
  cases rest with
  | nil => simp
  | cons c rest => simp [hRest c rfl]

/-
  What is behind a run of name characters is what is left.
-/
theorem dropWhile_of_stops
    {run rest : List Char}
    (hRun : ∀ c ∈ run, isNameChar c = true)
    (hRest : Stops rest) :
    (run ++ rest).dropWhile isNameChar = rest := by
  rw [List.dropWhile_append_of_pos hRun]
  cases rest with
  | nil => rfl
  | cons c rest => simp [hRest c rfl]

/- No name goes on after the longest run. -/
theorem stops_dropWhile (text : List Char) :
    Stops (text.dropWhile isNameChar) := by
  intro c hHead
  have hFails := List.head?_dropWhile_not isNameChar text
  rw [hHead] at hFails
  simpa using hFails

/- A name that the grammar has is read to its end. -/
theorem leadingName_of_isName
    {name rest : List Char}
    (hName : IsName name)
    (hRest : Stops rest) :
    leadingName (name ++ rest) = name := by
  rcases hName with ⟨c, more, rfl, hStart, hMore⟩
  simp [leadingName, hStart, takeWhile_of_stops hMore hRest]

/- What is read as a name is one, or nothing. -/
theorem isName_leadingName
    {text : List Char}
    (hName : leadingName text ≠ []) :
    IsName (leadingName text) := by
  cases text with
  | nil => exact absurd rfl hName
  | cons c rest =>
      by_cases hStart : isNameStart c = true
      · simp only [leadingName, hStart, if_true]
        refine ⟨c, _, rfl, hStart, ?_⟩
        exact List.all_eq_true.1 List.all_takeWhile
      · simp [leadingName, hStart] at hName

/- What follows the longest name does not go on with it. -/
theorem stops_drop_leadingName
    {text : List Char}
    (hName : leadingName text ≠ []) :
    Stops (text.drop (leadingName text).length) := by
  cases text with
  | nil => exact absurd rfl hName
  | cons c rest =>
      by_cases hStart : isNameStart c = true
      · have hSplit :
            rest.drop (rest.takeWhile isNameChar).length =
              rest.dropWhile isNameChar := by
          have hRest :=
            List.takeWhile_append_dropWhile
              (p := isNameChar) (l := rest)
          exact (List.append_cancel_left
            (hRest.trans (List.prefix_iff_eq_append.1
              (List.takeWhile_prefix
                isNameChar)).symm)).symm
        simp only [leadingName, hStart, if_true,
          List.length_cons, List.drop_succ_cons, hSplit]
        exact stops_dropWhile rest
      · simp [leadingName, hStart] at hName

/- What may stand between the two signs of a dollar tag. -/
def IsTag (tag : List Char) : Prop :=
  tag = [] ∨ IsName tag

/-
  A text up to the first place where a mark stands, the mark
  with it, and what comes after that.  A text without the
  mark is taken as a whole.
-/
def UpTo (mark body rest : List Char) : Prop :=
  (∃ front, body = front ++ mark ∧
      ∀ before after,
        front ++ mark ++ rest = before ++ mark ++ after →
          front.length ≤ before.length) ∨
    (rest = [] ∧ ¬ mark <:+: body)

/- A text that begins with a mark is cut behind it. -/
theorem throughMark_of_prefix
    {mark text : List Char}
    (hMark : mark <+: text) :
    throughMark mark text =
      (mark, text.drop mark.length) := by
  cases text with
  | nil =>
      have hNil : mark = [] := List.prefix_nil.1 hMark
      subst hNil
      rfl
  | cons c text =>
      have hTake := List.prefix_iff_eq_take.1 hMark
      simp [throughMark, hMark, ← hTake]

/- A character at which no mark begins is passed over. -/
theorem throughMark_cons
    {mark text : List Char}
    {c : Char}
    (hMark : ¬ mark <+: c :: text) :
    throughMark mark (c :: text) =
      prepend [c] (throughMark mark text) := by
  simp [throughMark, hMark]

/-
  A text up to a mark that the grammar has is read to its
  end.
-/
theorem throughMark_of_upTo
    {mark body rest : List Char}
    (hBody : UpTo mark body rest) :
    throughMark mark (body ++ rest) = (body, rest) := by
  rcases hBody with
    ⟨front, rfl, hFirst⟩ | ⟨rfl, hNever⟩
  · induction front with
    | nil =>
        have hMark : mark <+: mark ++ rest :=
          ⟨rest, rfl⟩
        simpa using throughMark_of_prefix hMark
    | cons c front ih =>
        have hMark :
            ¬ mark <+: c :: (front ++ mark ++ rest) := by
          rintro ⟨after, hAfter⟩
          have hShort := hFirst [] after hAfter.symm
          simp at hShort
        have hLater := ih (by
          intro before after hText
          have hShort :=
            hFirst (c :: before) after
              (congrArg (c :: ·) hText)
          simpa using hShort)
        rw [List.cons_append, List.cons_append,
          throughMark_cons hMark, hLater]
        rfl
  · rw [List.append_nil]
    induction body with
    | nil => rfl
    | cons c body ih =>
        have hMark : ¬ mark <+: c :: body := fun hPrefix =>
          hNever hPrefix.isInfix
        have hLater := ih fun hInfix =>
          hNever (List.infix_cons hInfix)
        rw [throughMark_cons hMark, hLater]
        rfl

/-
  Every text up to a mark that is read is in the grammar.
-/
theorem upTo_throughMark
    {mark : List Char}
    (hMark : mark ≠ [])
    (text : List Char) :
    UpTo mark (throughMark mark text).1
      (throughMark mark text).2 := by
  fun_induction throughMark mark text with
  | case1 => exact .inr ⟨rfl, by simpa using hMark⟩
  | case2 c text hPrefix =>
      have hTake :=
        List.prefix_iff_eq_take.1
          (List.isPrefixOf_iff_prefix.1 hPrefix)
      exact .inl ⟨[], hTake.symm, by simp⟩
  | case3 c text hPrefix ih =>
      rw [List.isPrefixOf_iff_prefix] at hPrefix
      have hText := throughMark_append mark text
      simp only [prepend_fst, prepend_snd]
      generalize throughMark mark text = parts at ih hText
      rcases ih with
        ⟨front, hFront, hFirst⟩ | ⟨hRest, hNever⟩
      · refine .inl
          ⟨c :: front, by rw [hFront]; rfl, ?_⟩
        intro before after hAll
        cases before with
        | nil =>
            refine absurd ⟨after, ?_⟩ hPrefix
            rw [← hText, hFront]
            exact hAll.symm
        | cons d before =>
            have hShort :=
              hFirst before after (List.cons.inj hAll).2
            simpa using hShort
      · refine .inr ⟨hRest, ?_⟩
        rw [hRest, List.append_nil] at hText
        rw [List.singleton_append, List.infix_cons_iff,
          hText, not_or]
        exact ⟨hPrefix, hText ▸ hNever⟩

/- A mark is two dollar signs with a tag between them. -/
theorem dollarMark?_eq_some_iff
    {text mark : List Char} :
    dollarMark? text = some mark ↔
      ∃ tag rest,
        IsTag tag ∧ text = tag ++ '$' :: rest ∧
        mark = '$' :: tag ++ ['$'] := by
  constructor
  · intro hRead
    have hText := leadingName_append_drop text
    unfold dollarMark? at hRead
    simp only at hRead
    split at hRead
    case isFalse => cases hRead
    case isTrue hHead =>
      cases hRead
      rcases List.head?_eq_some_iff.1 hHead with
        ⟨rest, hRest⟩
      rw [hRest] at hText
      refine ⟨leadingName text, rest, ?_, hText.symm,
        rfl⟩
      by_cases hName : leadingName text = []
      · exact .inl hName
      · exact .inr (isName_leadingName hName)
  · rintro ⟨tag, rest, hTag, rfl, rfl⟩
    have hName :
        leadingName (tag ++ '$' :: rest) = tag := by
      rcases hTag with rfl | hTag
      · simp [leadingName, isNameStart]
      · exact leadingName_of_isName hTag
          (stops_dollar rest)
    simp [dollarMark?, hName]

------------------------------------------------------------
-- All Parts
------------------------------------------------------------

/- A part of a text, in front of what comes after it. -/
inductive Stands : List Char → List Char → Prop
  | quotation {quote body rest}
      (hQuote : quote = '\x27' ∨ quote = '\"')
      (hBody : Quoted quote body rest) :
      Stands (quote :: body) rest
  | line {body rest}
      (hBody : Line body rest) :
      Stands ('-' :: '-' :: body) rest
  | comment {body rest}
      (hBody : Comment body rest) :
      Stands ('/' :: '*' :: body) rest
  | dollar {tag body rest}
      (hTag : IsTag tag)
      (hBody : UpTo ('$' :: tag ++ ['$']) body rest) :
      Stands ('$' :: tag ++ '$' :: body) rest

/- A part that the grammar has is read. -/
theorem read?_of_stands
    {part rest : List Char}
    (hPart : Stands part rest) :
    read? (part ++ rest) = some (part, rest) := by
  cases hPart with
  | quotation hQuote hBody =>
      have hRead := throughQuote_of_quoted hBody
      rcases hQuote with rfl | rfl
      · simp [read?, hRead, prepend]
      · simp [read?, hRead, prepend]
  | line hBody =>
      simp [read?, throughLine_of_line hBody, prepend]
  | comment hBody =>
      simp [read?, throughComment_of_comment hBody, prepend]
  | @dollar tag body rest hTag hBody =>
      have hMark :
          dollarMark? (tag ++ '$' :: (body ++ rest)) =
            some ('$' :: tag ++ ['$']) :=
        dollarMark?_eq_some_iff.2
          ⟨tag, _, hTag, rfl, rfl⟩
      have hRead := throughMark_of_upTo hBody
      simp only [List.cons_append] at hMark hRead
      simp [read?, readDollar?, hMark, hRead, prepend]

/- Every part that is read is in the grammar. -/
theorem stands_of_read?
    {text part rest : List Char}
    (hRead : read? text = some (part, rest)) :
    Stands part rest := by
  unfold read? at hRead
  split at hRead
  · cases hRead
    exact .quotation (.inl rfl) (quoted_throughQuote _ _)
  · cases hRead
    exact .quotation (.inr rfl) (quoted_throughQuote _ _)
  · cases hRead
    exact .line (line_throughLine _)
  · cases hRead
    exact .comment (throughComment_eq_iff.1 rfl).2
  · rcases Option.map_eq_some_iff.1 hRead with
      ⟨mark, hMark, hParts⟩
    rcases dollarMark?_eq_some_iff.1 hMark with
      ⟨tag, after, hTag, rfl, rfl⟩
    cases hParts
    simpa using Stands.dollar hTag
      (upTo_throughMark (List.cons_ne_nil _ _) _)
  · cases hRead

/-
  A part is read where a text begins if and only if the
  grammar has it there.
-/
theorem read?_eq_some_iff
    {text part rest : List Char} :
    read? text = some (part, rest) ↔
      text = part ++ rest ∧ Stands part rest := by
  constructor
  · intro hRead
    exact ⟨(append_of_read? hRead).symm,
      stands_of_read? hRead⟩
  · rintro ⟨rfl, hPart⟩
    exact read?_of_stands hPart

end Region

end SqlAccess
