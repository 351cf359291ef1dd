import SqlAccess.Text.Blank
import SqlAccess.Text.Word

/-
  This file tells statements that only read from all others,
  by their first keyword and by the words that they contain.

  Key definitions include:
    * `Intent`
    * `Intent.skipNoise`
    * `Intent.detect`
-/

namespace SqlAccess

/- Whether a statement may run on a replica. -/
inductive Intent
  | read
  | write
deriving DecidableEq, Repr

namespace Intent

------------------------------------------------------------
-- Leading Noise
------------------------------------------------------------

/- What follows the first line of a text. -/
def afterLine (text : List Char) : List Char :=
  (text.dropWhile (· ≠ '\n')).drop 1

/- What follows the first end of a comment in a text. -/
def afterComment : List Char → List Char
  | [] => []
  | [_] => []
  | c :: d :: rest =>
      if c = '*' ∧ d = '/' then rest
      else afterComment (d :: rest)

/- Whether a character may stand before a statement. -/
def isNoise (c : Char) : Bool :=
  Blank.isBlank c || c = '\x28'

/- Dropping characters makes no text longer. -/
theorem length_dropWhile_le
    (p : Char → Bool)
    (text : List Char) :
    (text.dropWhile p).length ≤ text.length :=
  (List.dropWhile_sublist p).length_le

/- What follows a line is no longer than the text. -/
theorem length_afterLine_le (text : List Char) :
    (afterLine text).length ≤ text.length := by
  have h := length_dropWhile_le (· ≠ '\n') text
  rw [afterLine, List.length_drop]
  omega

/- What follows a comment is no longer than the text. -/
theorem length_afterComment_le (text : List Char) :
    (afterComment text).length ≤ text.length := by
  fun_induction afterComment text with
  | case1 => exact Nat.le_refl _
  | case2 => exact Nat.zero_le _
  | case3 rest =>
      simp only [List.length_cons]
      omega
  | case4 c d rest _ ih =>
      simp only [List.length_cons] at ih ⊢
      omega

/-
  A statement without the white space, comments and opening
  parentheses in front of it.  Comments do not nest here.
-/
def skipNoise (text : List Char) : List Char :=
  match _hBody : text.dropWhile isNoise with
  | '-' :: '-' :: rest => skipNoise (afterLine rest)
  | '/' :: '*' :: rest => skipNoise (afterComment rest)
  | body => body
termination_by text.length
decreasing_by
  · have hDrop := length_dropWhile_le isNoise text
    have hRest := length_afterLine_le rest
    rw [_hBody] at hDrop
    simp only [List.length_cons] at hDrop
    omega
  · have hDrop := length_dropWhile_le isNoise text
    have hRest := length_afterComment_le rest
    rw [_hBody] at hDrop
    simp only [List.length_cons] at hDrop
    omega

------------------------------------------------------------
-- Keywords
------------------------------------------------------------

/- The keywords that statements which read begin with. -/
def readKeywords : List String :=
  ["select", "values", "show", "explain", "with", "table"]

/- The words that statements which only read do not have. -/
def writeWords : List String :=
  ["insert", "update", "delete", "merge", "into",
    "truncate", "share"]

/- The letters that a text starts with, in lower case. -/
def keyword (text : List Char) : String :=
  String.ofList
    ((text.takeWhile Char.isAlpha).map Char.toLower)

/- Whether a text has a word that only writes have. -/
def hasWriteWord (text : List Char) : Bool :=
  (Word.runs text).any fun run =>
    String.ofList (run.map Word.foldCase) ∈ writeWords

/- The intent of a statement. -/
def detect (sql : String) : Intent :=
  let body := skipNoise sql.toList
  if keyword body ∈ readKeywords &&
    !hasWriteWord body then
    read
  else
    write

end Intent

end SqlAccess
