import SqlAccess.Template.Region

/-
  This file cuts the text of a template into lexemes.  Every
  text can be cut, and the sources of the lexemes make up
  the text.

  Key definitions include:
    * `Lexeme`
    * `Lexeme.source`
    * `Lexeme.read`
    * `Lexeme.all`

  Key theorems include:
    * `Lexeme.source_append_read`
    * `Lexeme.source_read_ne_nil`
    * `Lexeme.source_all`
-/

namespace SqlAccess

------------------------------------------------------------
-- Lexemes
------------------------------------------------------------

/-
  A piece of a template: text that stays as it is, a pair of
  characters that stands for its second one, the delimiters
  of an optional block, and placeholders with what is
  written after their exclamation mark.
-/
inductive Lexeme
  | verbatim (text : List Char)
  | escape (mark char : Char)
  | opening
  | closing
  | positional (suffix : Option (List Char))
  | named
      (sigil : Char) (name : List Char)
      (suffix : Option (List Char))
deriving DecidableEq, Repr

namespace Lexeme

/- The source of what follows a placeholder. -/
def suffixSource : Option (List Char) → List Char
  | none => []
  | some run => '!' :: run

/- The text that a lexeme was read from. -/
def source : Lexeme → List Char
  | verbatim text => text
  | escape mark char => [mark, char]
  | opening => ['\x7b']
  | closing => ['\x7d']
  | positional suffix => '?' :: suffixSource suffix
  | named sigil name suffix =>
      sigil :: name ++ suffixSource suffix

------------------------------------------------------------
-- Reading
------------------------------------------------------------

/-
  The suffix that a text starts with: an exclamation mark
  and a letter, and the name characters that follow.
-/
def readSuffix :
    List Char → Option (List Char) × List Char
  | '!' :: c :: rest =>
      if c.isAlpha then
        (some (c :: rest.takeWhile Region.isNameChar),
          rest.dropWhile Region.isNameChar)
      else
        (none, '!' :: c :: rest)
  | text => (none, text)

/- Read a positional placeholder after its question mark. -/
def readPositional
    (rest : List Char) :
    Lexeme × List Char :=
  let (suffix, after) := readSuffix rest
  (positional suffix, after)

/-
  Read a named placeholder after its sigil.  Where no name
  follows, the sigil is text.
-/
def readNamed
    (sigil : Char)
    (rest : List Char) : Lexeme × List Char :=
  let name := Region.leadingName rest
  if name.isEmpty then (verbatim [sigil], rest)
  else
    let (suffix, after) :=
      readSuffix (rest.drop name.length)
    (named sigil name suffix, after)

/-
  Read a lexeme where no quoted or commented part starts.
-/
def readPlain
    (c : Char)
    (rest : List Char) : Lexeme × List Char :=
  match c, rest with
  | '\\', '\x7b' :: after => (escape '\\' '\x7b', after)
  | '\\', '\x7d' :: after => (escape '\\' '\x7d', after)
  | '\x7b', after => (opening, after)
  | '\x7d', after => (closing, after)
  | '?', '?' :: after => (escape '?' '?', after)
  | '?', '|' :: after => (verbatim ['?', '|'], after)
  | '?', '&' :: after => (verbatim ['?', '&'], after)
  | '?', after => readPositional after
  | ':', ':' :: after => (verbatim [':', ':'], after)
  | ':', after => readNamed ':' after
  | '$', after => readNamed '$' after
  | c, after => (verbatim [c], after)

/- Read the first lexeme of a text that is not empty. -/
def read
    (c : Char)
    (rest : List Char) : Lexeme × List Char :=
  match Region.read? (c :: rest) with
  | some (text, after) => (verbatim text, after)
  | none => readPlain c rest

------------------------------------------------------------
-- Nothing Is Lost
------------------------------------------------------------

/- Nothing is lost when a suffix is read. -/
theorem suffixSource_append (text : List Char) :
    suffixSource (readSuffix text).1 ++
        (readSuffix text).2 =
      text := by
  fun_cases readSuffix text with
  | case1 c rest h => simp [suffixSource]
  | case2 c rest h => rfl
  | case3 => rfl

/- Nothing is lost after a question mark. -/
theorem source_append_readPositional (rest : List Char) :
    (readPositional rest).1.source ++
        (readPositional rest).2 = '?' :: rest := by
  simp [readPositional, source, suffixSource_append]

/- Nothing is lost after a colon. -/
theorem source_append_readNamed
    (sigil : Char)
    (rest : List Char) :
    (readNamed sigil rest).1.source ++
        (readNamed sigil rest).2 = sigil :: rest := by
  unfold readNamed
  by_cases hName : (Region.leadingName rest).isEmpty = true
  · simp [hName, source]
  · simp [hName, source, suffixSource_append,
      Region.leadingName_append_drop]

/- Nothing is lost outside of parts. -/
theorem source_append_readPlain
    (c : Char)
    (rest : List Char) :
    (readPlain c rest).1.source ++ (readPlain c rest).2 =
      c :: rest := by
  fun_cases readPlain c rest
  case case8 => exact source_append_readPositional _
  case case10 => exact source_append_readNamed _ _
  case case11 => exact source_append_readNamed _ _
  all_goals rfl

/- A lexeme and what follows it make up the text. -/
theorem source_append_read
    (c : Char)
    (rest : List Char) :
    (read c rest).1.source ++ (read c rest).2 =
      c :: rest := by
  unfold read
  split
  · next h => exact Region.append_of_read? h
  · exact source_append_readPlain c rest

theorem source_readPositional_ne_nil (rest : List Char) :
    (readPositional rest).1.source ≠ [] :=
  List.cons_ne_nil _ _

theorem source_readNamed_ne_nil
    (sigil : Char)
    (rest : List Char) :
    (readNamed sigil rest).1.source ≠ [] := by
  unfold readNamed
  by_cases hName : (Region.leadingName rest).isEmpty = true
  · simp [hName, source]
  · simp [hName, source]

theorem source_readPlain_ne_nil
    (c : Char)
    (rest : List Char) :
    (readPlain c rest).1.source ≠ [] := by
  fun_cases readPlain c rest
  case case8 => exact source_readPositional_ne_nil _
  case case10 => exact source_readNamed_ne_nil _ _
  case case11 => exact source_readNamed_ne_nil _ _
  all_goals exact List.cons_ne_nil _ _

/- No lexeme is empty. -/
theorem source_read_ne_nil
    (c : Char)
    (rest : List Char) :
    (read c rest).1.source ≠ [] := by
  unfold read
  split
  · next h => exact Region.ne_nil_of_read? h
  · exact source_readPlain_ne_nil c rest

/- What follows a lexeme is shorter than the text. -/
theorem length_read_lt
    (c : Char)
    (rest : List Char) :
    (read c rest).2.length < (c :: rest).length := by
  have hAll :=
    congrArg List.length (source_append_read c rest)
  have hSource :=
    List.length_pos_iff.2 (source_read_ne_nil c rest)
  rw [List.length_append] at hAll
  omega

------------------------------------------------------------
-- All Lexemes
------------------------------------------------------------

/- The lexemes of a text, from left to right. -/
def all : List Char → List Lexeme
  | [] => []
  | c :: rest => (read c rest).1 :: all (read c rest).2
termination_by text => text.length
decreasing_by exact length_read_lt c rest

/- The sources of the lexemes make up the text. -/
theorem source_all (text : List Char) :
    (all text).flatMap source = text := by
  fun_induction all text with
  | case1 => rfl
  | case2 c rest ih =>
      rw [List.flatMap_cons, ih]
      exact source_append_read c rest

end Lexeme

end SqlAccess
