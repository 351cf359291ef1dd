import SqlAccess.Template.Token

/-
  This file defines the tree of a template: a sequence of
  text, placeholders and optional blocks, where a block
  holds such a sequence itself.

  Key definitions include:
    * `Placeholder`
    * `Forest`
    * `Forest.imbalance?`
    * `Forest.ofTokens`
    * `Forest.names`
    * `Forest.positionalCount`
    * `Forest.blockCount`
    * `Forest.flatten`
-/

namespace SqlAccess

------------------------------------------------------------
-- Placeholders
------------------------------------------------------------

/-
  How a placeholder finds its value: by name, or by its
  place among all positional placeholders of the template.
-/
inductive ParamRef
  | named (name : String)
  | positional (index : Nat)
deriving DecidableEq, Repr

/- A placeholder and the type that it asks for. -/
structure Placeholder where
  key : ParamRef
  tag : Option TypeTag
deriving DecidableEq, Repr

------------------------------------------------------------
-- Forests
------------------------------------------------------------

/-
  A sequence of text, placeholders and blocks; each item
  comes with the sequence that follows it.
-/
inductive Forest
  | done
  | literal (text : String) (next : Forest)
  | slot (placeholder : Placeholder) (next : Forest)
  | block (inner next : Forest)
deriving DecidableEq, Repr

namespace Forest

/-
  Text in front of a forest.  Text next to text is merged.
-/
def consText (text : String) : Forest → Forest
  | literal more next => literal (text ++ more) next
  | forest => literal text forest

------------------------------------------------------------
-- Balance
------------------------------------------------------------

/-
  The first delimiter that keeps the blocks of a text from
  being balanced, given the offsets of the blocks that are
  open, the innermost one first.
-/
def imbalance?
    (opened : List Nat) : List Token → Option SyntaxFault
  | [] => opened.head?.map .unclosed
  | .opening offset :: rest =>
      imbalance? (offset :: opened) rest
  | .closing offset :: rest =>
      match opened with
      | [] => some (.unmatched offset)
      | _ :: outer => imbalance? outer rest
  | _ :: rest => imbalance? opened rest

------------------------------------------------------------
-- Construction
------------------------------------------------------------

/-
  The forests that begin at a place of a text: the one that
  the place is in, and those that follow the blocks around
  it, from the inside out.
-/
structure Suffixes where
  inner : Forest
  outer : List Forest

/- The forests that begin in front of a token. -/
def Suffixes.before : Token → Suffixes → Suffixes
  | .text chars, ⟨inner, outer⟩ =>
      ⟨consText (String.ofList chars) inner, outer⟩
  | .escaped char, ⟨inner, outer⟩ =>
      ⟨consText (String.singleton char) inner, outer⟩
  | .named name tag, ⟨inner, outer⟩ =>
      ⟨slot ⟨.named name, tag⟩ inner, outer⟩
  | .positional index tag, ⟨inner, outer⟩ =>
      ⟨slot ⟨.positional index, tag⟩ inner, outer⟩
  | .closing _, ⟨inner, outer⟩ =>
      ⟨done, inner :: outer⟩
  | .opening _, ⟨inner, next :: outer⟩ =>
      ⟨block inner next, outer⟩
  | .opening _, ⟨inner, []⟩ => ⟨inner, []⟩

/- The forest of tokens whose blocks are balanced. -/
def ofTokens (tokens : List Token) : Forest :=
  (tokens.foldr Suffixes.before ⟨done, []⟩).inner

------------------------------------------------------------
-- Contents
------------------------------------------------------------

/- The placeholders, from left to right. -/
def placeholders : Forest → List Placeholder
  | done => []
  | literal _ next => placeholders next
  | slot placeholder next =>
      placeholder :: placeholders next
  | block inner next =>
      placeholders inner ++ placeholders next

/- The name that a placeholder goes by. -/
def nameOf? (placeholder : Placeholder) : Option String :=
  match placeholder.key with
  | .named name => some name
  | .positional _ => none

/-
  The distinct names, in the order of their first places.
-/
def names (forest : Forest) : List String :=
  (forest.placeholders.filterMap nameOf?).eraseDups

/- The number of positional placeholders. -/
def positionalCount (forest : Forest) : Nat :=
  forest.placeholders.countP fun placeholder =>
    (nameOf? placeholder).isNone

/- The number of blocks, those inside of blocks included. -/
def blockCount : Forest → Nat
  | done => 0
  | literal _ next => blockCount next
  | slot _ next => blockCount next
  | block inner next =>
      1 + blockCount inner + blockCount next

/- A piece of a forest that is written in one line. -/
inductive Piece
  | literal (text : String)
  | slot (placeholder : Placeholder)
  | opening
  | closing
deriving DecidableEq, Repr

/- The pieces of a forest, with delimiters around blocks. -/
def flatten : Forest → List Piece
  | done => []
  | literal text next => .literal text :: flatten next
  | slot placeholder next =>
      .slot placeholder :: flatten next
  | block inner next =>
      .opening :: flatten inner ++ .closing :: flatten next

end Forest

end SqlAccess
