import SqlAccess.Number.Reading
import SqlAccess.Text.Percent

/-
  This file tells which texts are numeric internet
  addresses.  The short form has four decimal bytes between
  dots.  The long form has eight groups of up to four
  hexadecimal digits between colons; the last two of them
  may be written in the short form, and one gap of at least
  one group may be written as two colons.

  Key definitions include:
    * `Numeric.isShort`
    * `Numeric.isLong`
    * `Numeric.isAddress`
-/

namespace SqlAccess

namespace Numeric

------------------------------------------------------------
-- Short Form
------------------------------------------------------------

/- Whether a text is a byte, without a zero ahead of it. -/
def isByte (text : List Char) : Bool :=
  text.length ≤ 3 &&
    (text.head? ≠ some '0' || text.length = 1) &&
    (Reading.digits? text).any (· < Nat.pow 2 8)

/- Whether a text is an address in the short form. -/
def isShort (text : List Char) : Bool :=
  let bytes := text.splitOn '.'
  bytes.length = 4 && bytes.all isByte

------------------------------------------------------------
-- Long Form
------------------------------------------------------------

/- Whether a text is one group. -/
def isGroup (text : List Char) : Bool :=
  !text.isEmpty && text.length ≤ 4 &&
    text.all fun c => (Percent.hexDigit? c).isSome

/-
  The number of groups that some texts stand for.  The last
  one may be in the short form, which stands for two.
-/
def countGroups? : List (List Char) → Option Nat
  | [] => some 0
  | [last] =>
      if isGroup last then some 1
      else if isShort last then some 2
      else none
  | group :: rest =>
      if isGroup group then (countGroups? rest).map (· + 1)
      else none

/- The texts between colons; none where there is no text. -/
def groups (text : List Char) : List (List Char) :=
  if text.isEmpty then [] else text.splitOn ':'

/- The texts before and after the first gap. -/
def splitGap? :
    List Char → Option (List Char × List Char)
  | ':' :: ':' :: rest => some ([], rest)
  | c :: rest =>
      (splitGap? rest).map fun (before, after) =>
        (c :: before, after)
  | [] => none

/- Whether a text is an address in the long form. -/
def isLong (text : List Char) : Bool :=
  match splitGap? text with
  | none => countGroups? (groups text) = some 8
  | some (before, after) =>
      (groups before).all isGroup &&
        (countGroups? (groups after)).any fun n =>
          (groups before).length + n < 8

/- Whether a text is a numeric address. -/
def isAddress (text : String) : Bool :=
  isShort text.toList || isLong text.toList

end Numeric

end SqlAccess
