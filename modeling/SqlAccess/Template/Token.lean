import SqlAccess.Template.Lexeme
import SqlAccess.Value.Cast

/-
  This file defines the tokens of a template: its text, its
  placeholders and the delimiters of its blocks, with the
  places of what can be at fault.

  Key definitions include:
    * `SyntaxFault`
    * `Token`
    * `Token.ofLexemes`
    * `Token.ofText`
-/

namespace SqlAccess

------------------------------------------------------------
-- Faults
------------------------------------------------------------

/-
  What is wrong with a template: a type tag that names no
  type, a closing delimiter without an opening one, or an
  opening delimiter without a closing one.  The offset
  counts bytes.
-/
inductive SyntaxFault
  | unknownTag (offset : Nat) (run : String)
  | unmatched (offset : Nat)
  | unclosed (offset : Nat)
deriving DecidableEq, Repr

namespace SyntaxFault

/- The place of a fault. -/
def offset : SyntaxFault → Nat
  | unknownTag offset _ => offset
  | unmatched offset => offset
  | unclosed offset => offset

/- The text of a fault. -/
def message : SyntaxFault → String
  | unknownTag _ run => "unknown type tag '!" ++ run ++ "'"
  | unmatched _ => "unmatched '\x7d'"
  | unclosed _ => "unclosed '\x7b'"

end SyntaxFault

------------------------------------------------------------
-- Tokens
------------------------------------------------------------

/-
  A token.  Positional placeholders are numbered from zero
  in the order of the text, and delimiters keep their
  offsets.
-/
inductive Token
  | text (chars : List Char)
  | escaped (char : Char)
  | named (name : String) (tag : Option TypeTag)
  | positional (index : Nat) (tag : Option TypeTag)
  | opening (offset : Nat)
  | closing (offset : Nat)
deriving DecidableEq, Repr

namespace Token

/- The size of a text in bytes. -/
def byteSize : List Char → Nat
  | [] => 0
  | c :: rest => c.utf8Size + byteSize rest

/- The tag that the run after an exclamation mark names. -/
def tagOfRun? : List Char → Option TypeTag
  | [letter] => TypeTag.ofLetter? letter
  | _ => none

/- The tag of a placeholder with a suffix at an offset. -/
def tagOfSuffix
    (offset : Nat) :
    Option (List Char) →
      Except SyntaxFault (Option TypeTag)
  | none => .ok none
  | some run =>
      match tagOfRun? run with
      | some tag => .ok (some tag)
      | none =>
          .error (.unknownTag offset (String.ofList run))

/- The token of a lexeme at an offset. -/
def ofLexeme
    (offset index : Nat) :
    Lexeme → Except SyntaxFault Token
  | .verbatim chars => .ok (text chars)
  | .escape _ char => .ok (escaped char)
  | .opening => .ok (opening offset)
  | .closing => .ok (closing offset)
  | .positional suffix =>
      (tagOfSuffix (offset + 1) suffix).map
        (positional index)
  | .named sigil name suffix =>
      (tagOfSuffix (offset + byteSize (sigil :: name))
        suffix).map (named (String.ofList name))

/- Whether a lexeme takes a positional value. -/
def takesPosition : Lexeme → Bool
  | .positional _ => true
  | _ => false

/-
  A token in front of tokens.  Text that is next to text
  becomes one token.
-/
def consMerged : Token → List Token → List Token
  | text chars, text more :: rest =>
      text (chars ++ more) :: rest
  | token, rest => token :: rest

/-
  The tokens of lexemes from an offset on, with the number
  of the next positional placeholder.
-/
def ofLexemes
    (offset index : Nat) :
    List Lexeme → Except SyntaxFault (List Token)
  | [] => .ok []
  | lexeme :: rest => do
      let token ← ofLexeme offset index lexeme
      let after := offset + byteSize lexeme.source
      let next :=
        if takesPosition lexeme then index + 1 else index
      let tokens ← ofLexemes after next rest
      return consMerged token tokens

/- The tokens of a text. -/
def ofText
    (source : List Char) :
    Except SyntaxFault (List Token) :=
  ofLexemes 0 0 (Lexeme.all source)

end Token

end SqlAccess
