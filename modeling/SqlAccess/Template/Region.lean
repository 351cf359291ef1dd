/-
  This file reads the parts of a text in which nothing of a
  template is looked for: quoted strings and names,
  comments, and text between dollar tags.  A part that is
  not closed runs to the end of the text.

  Key definitions include:
    * `Region.leadingName`
    * `Region.throughQuote`
    * `Region.throughLine`
    * `Region.throughComment`
    * `Region.throughMark`
    * `Region.read?`

  Key theorems include:
    * `Region.append_of_read?`
    * `Region.ne_nil_of_read?`
-/

namespace SqlAccess

namespace Region

------------------------------------------------------------
-- Names
------------------------------------------------------------

/- Whether a name can start with a character. -/
def isNameStart (c : Char) : Bool :=
  c.isAlpha || c = '_'

/- Whether a name can go on with a character. -/
def isNameChar (c : Char) : Bool :=
  c.isAlphanum || c = '_'

/-
  The longest name that a text starts with; empty if it
  starts with none.
-/
def leadingName : List Char → List Char
  | [] => []
  | c :: rest =>
      if isNameStart c then c :: rest.takeWhile isNameChar
      else []

------------------------------------------------------------
-- Parts
------------------------------------------------------------

/- Characters in front of the first of two parts. -/
def prepend
    (chars : List Char)
    (parts : List Char × List Char) :
    List Char × List Char :=
  (chars ++ parts.1, parts.2)

/-
  Cut a text after the quote that closes it.  Two quotes in
  a row are one quote of the text.
-/
def throughQuote
    (quote : Char) :
    List Char → List Char × List Char
  | [] => ([], [])
  | [c] => ([c], [])
  | c :: d :: rest =>
      if c = quote then
        if d = quote then
          prepend [c, d] (throughQuote quote rest)
        else
          ([c], d :: rest)
      else
        prepend [c] (throughQuote quote (d :: rest))

/- Cut a text after its first line. -/
def throughLine : List Char → List Char × List Char
  | [] => ([], [])
  | c :: rest =>
      if c = '\n' then ([c], rest)
      else prepend [c] (throughLine rest)

/-
  Cut a text after the end of the comment that it starts in.
  The depth counts the comments around that comment.  It has
  no bound here.  A counter of 32 bits does the same for
  every text of less than eight gigabytes, as two characters
  open one comment.
-/
def throughComment
    (depth : Nat) :
    List Char → List Char × List Char
  | [] => ([], [])
  | [c] => ([c], [])
  | c :: d :: rest =>
      if c = '/' ∧ d = '*' then
        prepend [c, d] (throughComment (depth + 1) rest)
      else if c = '*' ∧ d = '/' then
        match depth with
        | 0 => ([c, d], rest)
        | outer + 1 =>
            prepend [c, d] (throughComment outer rest)
      else
        prepend [c] (throughComment depth (d :: rest))

/- Cut a text after the first place where a mark stands. -/
def throughMark
    (mark : List Char) :
    List Char → List Char × List Char
  | [] => ([], [])
  | c :: rest =>
      if mark.isPrefixOf (c :: rest) then
        ((c :: rest).take mark.length,
          (c :: rest).drop mark.length)
      else
        prepend [c] (throughMark mark rest)

/-
  The mark that a text between dollar tags starts and ends
  with: two dollar signs, with a name or nothing between
  them.  The argument is what follows the first of them.
-/
def dollarMark? (text : List Char) : Option (List Char) :=
  let name := leadingName text
  if (text.drop name.length).head? = some '$' then
    some ('$' :: name ++ ['$'])
  else
    none

/-
  Cut a text between dollar tags after the closing one.  The
  argument is what follows the first dollar sign.
-/
def readDollar?
    (text : List Char) : Option (List Char × List Char) :=
  (dollarMark? text).map fun mark =>
    prepend mark
      (throughMark mark (text.drop (mark.length - 1)))

/-
  Cut a text after the part that it starts with, if it
  starts with one.
-/
def read? : List Char → Option (List Char × List Char)
  | '\x27' :: rest =>
      some (prepend ['\x27'] (throughQuote '\x27' rest))
  | '\"' :: rest =>
      some (prepend ['\"'] (throughQuote '\"' rest))
  | '-' :: '-' :: rest =>
      some (prepend ['-', '-'] (throughLine rest))
  | '/' :: '*' :: rest =>
      some (prepend ['/', '*'] (throughComment 0 rest))
  | '$' :: rest => readDollar? rest
  | _ => none

------------------------------------------------------------
-- Nothing Is Lost
------------------------------------------------------------

/- A name is what the text starts with. -/
theorem leadingName_append_drop (text : List Char) :
    leadingName text ++
        text.drop (leadingName text).length =
      text := by
  cases text with
  | nil => rfl
  | cons c rest =>
      by_cases hStart : isNameStart c = true
      · have hSplit :=
          List.takeWhile_append_dropWhile
            (p := isNameChar) (l := rest)
        have hDrop :
            rest.drop (rest.takeWhile isNameChar).length =
              rest.dropWhile isNameChar := by
          generalize rest.takeWhile isNameChar = front
            at hSplit
          generalize rest.dropWhile isNameChar = back
            at hSplit
          subst hSplit
          exact List.drop_left
        simp [leadingName, hStart, hDrop]
      · simp [leadingName, hStart]

/- Parts of a text make up the text. -/
theorem prepend_append
    (chars : List Char)
    {rest : List Char}
    {parts : List Char × List Char}
    (h : parts.1 ++ parts.2 = rest) :
    (prepend chars parts).1 ++ (prepend chars parts).2 =
      chars ++ rest := by
  simp [prepend, ← h]

/- Nothing is lost when a quotation is cut off. -/
theorem throughQuote_append
    (quote : Char)
    (text : List Char) :
    (throughQuote quote text).1 ++
        (throughQuote quote text).2 = text := by
  fun_induction throughQuote quote text with
  | case1 => rfl
  | case2 => rfl
  | case3 rest ih => exact prepend_append _ ih
  | case4 => rfl
  | case5 c d rest _ ih => exact prepend_append _ ih

/- Nothing is lost when a line is cut off. -/
theorem throughLine_append (text : List Char) :
    (throughLine text).1 ++ (throughLine text).2 =
      text := by
  fun_induction throughLine text with
  | case1 => rfl
  | case2 => rfl
  | case3 c rest _ ih => exact prepend_append _ ih

/- Nothing is lost when a comment is cut off. -/
theorem throughComment_append
    (depth : Nat)
    (text : List Char) :
    (throughComment depth text).1 ++
        (throughComment depth text).2 = text := by
  fun_induction throughComment depth text with
  | case1 => rfl
  | case2 => rfl
  | case3 depth c d rest _ ih => exact prepend_append _ ih
  | case4 => rfl
  | case5 c d rest _ _ outer ih => exact prepend_append _ ih
  | case6 depth c d rest _ _ ih => exact prepend_append _ ih

/- Nothing is lost when a text up to a mark is cut off. -/
theorem throughMark_append
    (mark text : List Char) :
    (throughMark mark text).1 ++ (throughMark mark text).2 =
      text := by
  fun_induction throughMark mark text with
  | case1 => rfl
  | case2 c rest _ => exact List.take_append_drop _ _
  | case3 c rest _ ih => exact prepend_append _ ih

/- A mark is what stands there. -/
theorem dollarMark?_append
    {text mark : List Char}
    (h : dollarMark? text = some mark) :
    mark ++ text.drop (mark.length - 1) = '$' :: text := by
  unfold dollarMark? at h
  simp only at h
  split at h
  case isFalse => simp at h
  case isTrue hHead =>
    have hMark := Option.some.inj h
    subst hMark
    have hName := leadingName_append_drop text
    generalize leadingName text = name at hName hHead
    cases hRest : text.drop name.length with
    | nil => simp [hRest] at hHead
    | cons c rest =>
        have hc : c = '$' := by simpa [hRest] using hHead
        subst hc
        rw [hRest] at hName
        subst hName
        simp

/-
  Nothing is lost when a text between dollar tags is cut
  off.
-/
theorem append_of_readDollar?
    {text part rest : List Char}
    (h : readDollar? text = some (part, rest)) :
    part ++ rest = '$' :: text := by
  obtain ⟨mark, hMark, hParts⟩ :=
    Option.map_eq_some_iff.1 h
  have hAll := prepend_append mark
    (throughMark_append mark (text.drop (mark.length - 1)))
  rw [hParts, dollarMark?_append hMark] at hAll
  exact hAll

/- A part and what follows it make up the text. -/
theorem append_of_read?
    {text part rest : List Char}
    (h : read? text = some (part, rest)) :
    part ++ rest = text := by
  have hPrepend
      {chars body : List Char}
      {parts : List Char × List Char}
      (hParts :
        some (prepend chars parts) = some (part, rest))
      (hBody : parts.1 ++ parts.2 = body) :
      part ++ rest = chars ++ body := by
    have hAll := prepend_append chars hBody
    rw [Option.some.inj hParts] at hAll
    exact hAll
  unfold read? at h
  split at h
  · exact hPrepend h (throughQuote_append _ _)
  · exact hPrepend h (throughQuote_append _ _)
  · exact hPrepend h (throughLine_append _)
  · exact hPrepend h (throughComment_append _ _)
  · exact append_of_readDollar? h
  · simp at h

/- The part that a text starts with is not empty. -/
theorem ne_nil_of_read?
    {text part rest : List Char}
    (h : read? text = some (part, rest)) :
    part ≠ [] := by
  have hPrepend
      {c : Char}
      {chars : List Char}
      {parts : List Char × List Char}
      (hParts :
        some (prepend (c :: chars) parts) =
          some (part, rest)) :
      part ≠ [] := by
    have hPart := congrArg Prod.fst (Option.some.inj hParts)
    simp only [prepend] at hPart
    exact hPart ▸ List.cons_ne_nil _ _
  unfold read? at h
  split at h
  · exact hPrepend h
  · exact hPrepend h
  · exact hPrepend h
  · exact hPrepend h
  · obtain ⟨mark, hMark, hParts⟩ :=
      Option.map_eq_some_iff.1 h
    unfold dollarMark? at hMark
    simp only at hMark
    split at hMark
    · have hEq := Option.some.inj hMark
      subst hEq
      exact hPrepend (congrArg some hParts)
    · simp at hMark
  · simp at h

end Region

end SqlAccess
