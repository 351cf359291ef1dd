/-
  This file defines white space in the sense of the Unicode
  property of that name, and trimming.

  Key definitions include:
    * `Blank.isBlank`
    * `Blank.trimStart`
    * `Blank.trim`
-/

namespace SqlAccess

namespace Blank

/- The ranges of white space. -/
def ranges : List (Nat × Nat) :=
  [ (0x9, 0xd), (0x20, 0x20), (0x85, 0x85), (0xa0, 0xa0),
    (0x1680, 0x1680), (0x2000, 0x200a), (0x2028, 0x2029),
    (0x202f, 0x202f), (0x205f, 0x205f), (0x3000, 0x3000) ]

/- Whether a character is white space. -/
def isBlank (c : Char) : Bool :=
  ranges.any fun (first, last) =>
    first ≤ c.toNat && c.toNat ≤ last

/- A text without the white space it starts with. -/
def trimStart (text : List Char) : List Char :=
  text.dropWhile isBlank

/- A text without white space at either end. -/
def trim (text : List Char) : List Char :=
  (trimStart (trimStart text).reverse).reverse

/- Whether a text has nothing but white space. -/
def isBlankText (text : String) : Bool :=
  text.toList.all isBlank

end Blank

end SqlAccess
