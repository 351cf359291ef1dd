import SqlAccess.Binding.Marker
import SqlAccess.Proofs.Template.Region

/-
  This file says which markers are found in a statement that
  is read from left to right, quotations, comments and text
  between dollar tags passed over, and what pieces of a
  statement add to them.

  Key definitions include:
    * `markersIn`

  Key theorems include:
    * `Region.Stands.before`
    * `markersIn_region`
    * `markersIn_plain`
    * `markersIn_dollar`
    * `markersIn_marker`
-/

namespace SqlAccess

namespace Region

------------------------------------------------------------
-- Ends Of Parts
------------------------------------------------------------

/-
  A quotation that something comes after is closed, so that
  it ends in front of everything but another quote.
-/
theorem Quoted.before
    {quote : Char}
    {body rest other : List Char}
    (hBody : Quoted quote body rest)
    (hRest : rest ≠ [])
    (hOther : other.head? ≠ some quote) :
    Quoted quote body other := by
  induction hBody with
  | closed hNext => exact .closed hOther
  | unclosed => exact absurd rfl hRest
  | doubled hBody ih => exact .doubled (ih hRest)
  | char hChar hBody ih => exact .char hChar (ih hRest)

/-
  In front of another quote it goes on, and ends where the
  quotation that begins with that quote ends.
-/
theorem Quoted.throughQuote_append_quote
    {quote : Char}
    {body rest : List Char}
    (hBody : Quoted quote body rest)
    (hRest : rest ≠ [])
    (more : List Char) :
    throughQuote quote (body ++ quote :: more) =
      prepend (body ++ [quote])
        (throughQuote quote more) := by
  induction hBody with
  | closed hNext => simp [throughQuote]
  | unclosed => exact absurd rfl hRest
  | doubled hBody ih =>
      simp [throughQuote, ih hRest, prepend]
  | @char c body rest hChar hBody ih =>
      cases hAfter : body ++ quote :: more with
      | nil => simp at hAfter
      | cons d after =>
          have hLater := ih hRest
          rw [hAfter] at hLater
          simp [throughQuote, hChar, hAfter, hLater,
            prepend]

/-
  A comment of one line that ends in the text ends there,
  whatever comes after it.
-/
theorem Line.before
    {body rest : List Char}
    (hBody : Line body rest)
    (hRest : rest ≠ [])
    (other : List Char) : Line body other := by
  rcases hBody with hEnd | ⟨hBody, rfl⟩
  · exact .inl hEnd
  · exact absurd rfl hRest

/- A comment begins or ends with two characters. -/
theorem delimits_cons
    {c : Char}
    {text : List Char} :
    Delimits (c :: text) ↔
      (c = '/' ∧ text.head? = some '*') ∨
        (c = '*' ∧ text.head? = some '/') := by
  cases text with
  | nil => simp [Delimits]
  | cons d text => simp [Delimits, eq_comm]

/- Whole items depend on the next character only. -/
theorem Inside.before
    {body rest other : List Char}
    (hBody : Inside body rest)
    (hOther : other.head? = rest.head?) :
    Inside body other := by
  induction hBody generalizing other with
  | nil => exact .nil
  | @char c body rest hChar hBody ih =>
      refine .char ?_ (ih hOther)
      have hHead :
          (body ++ other).head? = (body ++ rest).head? := by
        rw [List.head?_append, List.head?_append, hOther]
      rw [delimits_cons, hHead, ← delimits_cons]
      exact hChar
  | @nested inner body rest hInner hBody ihInner ihBody =>
      exact .nested (ihInner rfl) (ihBody hOther)

/-
  A comment that ends in the text ends there, whatever comes
  after it.
-/
theorem Comment.before
    {body rest : List Char}
    (hBody : Comment body rest)
    (hRest : rest ≠ [])
    (other : List Char) : Comment body other := by
  rcases hBody with
    ⟨inner, hInner, hBody⟩ | ⟨hBody, rfl⟩
  · exact .inl ⟨inner, hInner.before rfl, hBody⟩
  · exact absurd rfl hRest

/- The first place of a mark depends on nothing after it. -/
theorem UpTo.before
    {mark body rest : List Char}
    (hBody : UpTo mark body rest)
    (hRest : rest ≠ [])
    (other : List Char) : UpTo mark body other := by
  rcases hBody with
    ⟨front, hBody, hFirst⟩ | ⟨rfl, hNever⟩
  · refine .inl ⟨front, hBody, ?_⟩
    intro earlier after hText
    rcases Nat.lt_or_ge earlier.length front.length with
      hShort | hLong
    · have hEarlier :
          earlier ++ mark <+: front ++ mark ++ other :=
        ⟨after, hText.symm⟩
      have hFront :
          front ++ mark <+: front ++ mark ++ other :=
        ⟨other, rfl⟩
      have hLength :
          (earlier ++ mark).length ≤
            (front ++ mark).length := by
        rw [List.length_append, List.length_append]
        omega
      rcases List.prefix_of_prefix_length_le hEarlier hFront
          hLength with
        ⟨between, hBetween⟩
      refine hFirst earlier (between ++ rest) ?_
      rw [← hBetween, List.append_assoc]
    · exact hLong
  · exact absurd rfl hRest

/-
  A part that something comes after ends in front of
  everything.  Only a quotation in front of a quote goes on.
-/
theorem Stands.before
    {part rest : List Char}
    (hPart : Stands part rest)
    (hRest : rest ≠ [])
    (other : List Char) :
    Stands part other ∨
      ∃ quote body more,
        (quote = '\x27' ∨ quote = '\"') ∧
          part = quote :: body ∧ other = quote :: more ∧
          Quoted quote body rest := by
  cases hPart with
  | @quotation quote body rest hQuote hBody =>
      by_cases hOther : other.head? = some quote
      · rcases List.head?_eq_some_iff.1 hOther with
          ⟨more, hMore⟩
        exact .inr
          ⟨quote, body, more, hQuote, rfl, hMore, hBody⟩
      · exact .inl (.quotation hQuote
          (hBody.before hRest hOther))
  | line hBody =>
      exact .inl (.line (hBody.before hRest other))
  | comment hBody =>
      exact .inl (.comment (hBody.before hRest other))
  | dollar hTag hBody =>
      exact .inl (.dollar hTag (hBody.before hRest other))

/- A quote always begins a quotation. -/
theorem read?_quote
    {quote : Char}
    (hQuote : quote = '\x27' ∨ quote = '\"')
    (text : List Char) :
    read? (quote :: text) =
      some (prepend [quote] (throughQuote quote text)) := by
  rcases hQuote with rfl | rfl
  · rfl
  · rfl

/- No part begins with a dollar sign alone. -/
theorem read?_dollar
    {text : List Char}
    (hDollar : text.head? ≠ some '$')
    (hName : ∀ c ∈ text.head?, isNameStart c = false) :
    read? ('$' :: text) = none := by
  have hLeading : leadingName text = [] := by
    cases text with
    | nil => rfl
    | cons c text => simp [leadingName, hName c rfl]
  simp [read?, readDollar?, dollarMark?, hLeading, hDollar]

/- No name starts with a digit. -/
theorem isNameStart_of_isDigit
    {c : Char}
    (hDigit : c.isDigit = true) :
    isNameStart c = false := by
  have hUnderscore : c ≠ '_' := by
    rintro rfl
    exact absurd hDigit (by decide)
  have hHigh : c.val ≤ '9'.val :=
    of_decide_eq_true (Bool.and_eq_true_iff.1 hDigit).2
  have hUpper : c.isUpper ≠ true := by
    intro hUpper
    have hLow : 'A'.val ≤ c.val :=
      (of_decide_eq_true hUpper).1
    exact absurd (UInt32.le_trans hLow hHigh) (by decide)
  have hLower : c.isLower ≠ true := by
    intro hLower
    have hLow : 'a'.val ≤ c.val :=
      of_decide_eq_true (Bool.and_eq_true_iff.1 hLower).1
    exact absurd (UInt32.le_trans hLow hHigh) (by decide)
  have hAlpha : c.isAlpha = false :=
    Bool.or_eq_false_iff.2
      ⟨Bool.eq_false_iff.2 hUpper,
        Bool.eq_false_iff.2 hLower⟩
  simp [isNameStart, hAlpha, hUnderscore]

/-
  A name goes on with what can start one, and with digits.
-/
theorem isNameChar_eq (c : Char) :
    isNameChar c = (isNameStart c || c.isDigit) := by
  rw [isNameChar, isNameStart, Char.isAlphanum,
    Bool.or_assoc, Bool.or_assoc, Bool.or_comm c.isDigit]

/-
  No part begins with a character that opens none, nor with
  one that needs another one after it.
-/
theorem read?_char
    {c : Char}
    {text : List Char}
    (hChar : c ∉ ['\x27', '\"', '$'])
    (hLine : c = '-' → text.head? ≠ some '-')
    (hComment : c = '/' → text.head? ≠ some '*') :
    read? (c :: text) = none := by
  unfold read?
  split <;> simp_all

/- What comes after a part is shorter than the text. -/
theorem length_lt_of_read?
    {text part rest : List Char}
    (hRead : read? text = some (part, rest)) :
    rest.length < text.length := by
  have hText := congrArg List.length (append_of_read? hRead)
  have hPart :=
    List.length_pos_iff.2 (ne_nil_of_read? hRead)
  rw [List.length_append] at hText
  omega

end Region

------------------------------------------------------------
-- Scanning
------------------------------------------------------------

/-
  The markers in a text: every dollar sign with the longest
  run of digits after it, if there are any, outside of the
  parts in which nothing is looked for.
-/
def markersIn : List Char → List String
  | [] => []
  | c :: rest =>
      match _hRead : Region.read? (c :: rest) with
      | some (_, after) => markersIn after
      | none =>
          if c = '$' then
            let digits := rest.takeWhile Char.isDigit
            let after := rest.dropWhile Char.isDigit
            if digits.isEmpty then markersIn after
            else
              String.ofList ('$' :: digits) ::
                markersIn after
          else
            markersIn rest
termination_by text => text.length
decreasing_by
  · exact Region.length_lt_of_read? _hRead
  · exact Nat.lt_succ_of_le
      (List.dropWhile_suffix _).length_le
  · exact Nat.lt_succ_of_le
      (List.dropWhile_suffix _).length_le
  · exact Nat.lt_succ_self _

@[simp] theorem markersIn_nil : markersIn [] = [] := by
  rw [markersIn]

/- No markers are found in a quotation or a comment. -/
theorem markersIn_of_read?
    {text part rest : List Char}
    (hRead : Region.read? text = some (part, rest)) :
    markersIn text = markersIn rest := by
  cases text with
  | nil => simp [Region.read?] at hRead
  | cons c text =>
      rw [markersIn]
      split
      · next after hOther =>
          rw [hRead] at hOther
          cases hOther
          rfl
      · next hNone =>
          rw [hRead] at hNone
          cases hNone

/-
  Elsewhere a dollar sign with digits is a marker, and any
  other character is passed over.
-/
theorem markersIn_of_read?_eq_none
    {c : Char}
    {text : List Char}
    (hRead : Region.read? (c :: text) = none) :
    markersIn (c :: text) =
      if c = '$' then
        (if (text.takeWhile Char.isDigit).isEmpty then []
          else
            [String.ofList
              ('$' :: text.takeWhile Char.isDigit)])
          ++ markersIn (text.dropWhile Char.isDigit)
      else
        markersIn text := by
  rw [markersIn]
  split
  · next hOther =>
      rw [hRead] at hOther
      cases hOther
  · by_cases hDigits :
        (text.takeWhile Char.isDigit).isEmpty = true
    · simp only [if_pos hDigits, List.nil_append]
    · simp only [if_neg hDigits, List.singleton_append]

/-
  A part of a template adds no markers to a statement, even
  if something else comes after it there.  Two quotations
  that come to stand side by side are read as one, which
  ends where the second one does.
-/
theorem markersIn_region
    {part rest other : List Char}
    (hPart : Region.Stands part rest)
    (hOther : rest = [] → other = []) :
    markersIn (part ++ other) = markersIn other := by
  by_cases hRest : rest = []
  · rw [hOther hRest]
    rw [hRest] at hPart
    exact markersIn_of_read? (Region.read?_of_stands hPart)
  · rcases hPart.before hRest other with
      hPart |
        ⟨quote, body, more, hQuote, rfl, rfl, hBody⟩
    · exact markersIn_of_read?
        (Region.read?_of_stands hPart)
    · have hWhole :=
        Region.read?_quote hQuote (body ++ quote :: more)
      rw [hBody.throughQuote_append_quote hRest] at hWhole
      rw [List.cons_append, markersIn_of_read? hWhole,
        markersIn_of_read? (Region.read?_quote hQuote more)]
      rfl

/- A character that begins no part adds no markers. -/
theorem markersIn_char
    {c : Char}
    {text : List Char}
    (hChar : c ∉ ['\x27', '\"', '$'])
    (hLine : c = '-' → text.head? ≠ some '-')
    (hComment : c = '/' → text.head? ≠ some '*') :
    markersIn (c :: text) = markersIn text := by
  have hRead := Region.read?_char hChar hLine hComment
  have hDollar : c ≠ '$' := by
    rintro rfl
    exact hChar (by decide)
  rw [markersIn_of_read?_eq_none hRead, if_neg hDollar]

/- Neither do characters that never begin one. -/
theorem markersIn_plain
    {chars : List Char}
    (hChars :
      ∀ c ∈ chars, c ∉ ['\x27', '\"', '$', '-', '/'])
    (text : List Char) :
    markersIn (chars ++ text) = markersIn text := by
  induction chars with
  | nil => rfl
  | cons c chars ih =>
      rw [List.forall_mem_cons] at hChars
      rw [List.cons_append, markersIn_char, ih hChars.2]
      · intro hMem
        exact hChars.1
          (List.mem_append_left ['-', '/'] hMem)
      · rintro rfl
        exact absurd (by decide) hChars.1
      · rintro rfl
        exact absurd (by decide) hChars.1

/-
  A dollar sign in front of no other one and of no name:
  what it adds is decided by the digits after it.
-/
theorem markersIn_dollar
    {digits text : List Char}
    (hDigits : ∀ c ∈ digits, c.isDigit = true)
    (hText : ∀ c ∈ text.head?, c.isDigit = false)
    (hRead :
      Region.read? ('$' :: (digits ++ text)) = none) :
    markersIn ('$' :: (digits ++ text)) =
      (if digits.isEmpty then []
        else [String.ofList ('$' :: digits)]) ++
        markersIn text := by
  have hTake :
      (digits ++ text).takeWhile Char.isDigit = digits := by
    rw [List.takeWhile_append_of_pos hDigits]
    cases text with
    | nil => simp
    | cons c text => simp [hText c rfl]
  have hDrop :
      (digits ++ text).dropWhile Char.isDigit = text := by
    rw [List.dropWhile_append_of_pos hDigits]
    cases text with
    | nil => rfl
    | cons c text => simp [hText c rfl]
  rw [markersIn_of_read?_eq_none hRead, if_pos rfl, hTake,
    hDrop]

/- Without digits, such a dollar sign adds no markers. -/
theorem markersIn_dollar_text
    {text : List Char}
    (hText :
      ∀ c ∈ text.head?,
        c ≠ '$' ∧ Region.isNameChar c = false) :
    markersIn ('$' :: text) = markersIn text := by
  have hNext :
      ∀ c ∈ text.head?,
        Region.isNameStart c = false ∧
          c.isDigit = false := by
    intro c hHead
    rw [← Bool.or_eq_false_iff, ← Region.isNameChar_eq]
    exact (hText c hHead).2
  have hRead : Region.read? ('$' :: text) = none := by
    refine Region.read?_dollar ?_ ?_
    · intro hHead
      exact (hText '$' hHead).1 rfl
    · intro c hHead
      exact (hNext c hHead).1
  refine markersIn_dollar (List.forall_mem_nil _) ?_ hRead
  intro c hHead
  exact (hNext c hHead).2

/-
  A marker is a dollar sign with the digits of its number.
-/
theorem toList_marker (number : Nat) :
    (MarkerStyle.dollar.marker number).toList =
      '$' :: Nat.toDigits 10 number := by
  simp [MarkerStyle.marker]

/-
  A marker is found where it is written, unless its number
  goes on after it.
-/
theorem markersIn_marker
    {text : List Char}
    (number : Nat)
    (hText : ∀ c ∈ text.head?, c.isDigit = false) :
    markersIn
        ((MarkerStyle.dollar.marker number).toList ++
          text) =
      MarkerStyle.dollar.marker number ::
        markersIn text := by
  have hDigits :
      ∀ c ∈ Nat.toDigits 10 number, c.isDigit = true :=
    fun c hMem =>
      Nat.isDigit_of_mem_toDigits (by decide)
        (by decide) hMem
  have hRead :
      Region.read?
          ('$' :: (Nat.toDigits 10 number ++ text)) =
        none := by
    cases hNumber : Nat.toDigits 10 number with
    | nil => exact absurd hNumber Nat.toDigits_ne_nil
    | cons d more =>
        have hDigit : d.isDigit = true := by
          apply hDigits
          rw [hNumber]
          exact List.mem_cons_self
        refine Region.read?_dollar ?_ ?_
        · intro hHead
          cases hHead
          exact absurd hDigit (by decide)
        · intro c hHead
          cases hHead
          exact Region.isNameStart_of_isDigit hDigit
  have hScan := markersIn_dollar hDigits hText hRead
  rw [toList_marker, List.cons_append, hScan,
    ← toList_marker, String.ofList_toList]
  simp

end SqlAccess
