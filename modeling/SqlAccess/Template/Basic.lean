import SqlAccess.Error
import SqlAccess.Template.Forest

/-
  This file defines compiled templates.

  Key definitions include:
    * `Template`
    * `Template.compile`
-/

namespace SqlAccess

/- A text and the tree that it compiles to. -/
structure Template where
  source : String
  forest : Forest
deriving DecidableEq, Repr

namespace Template

/- The size of the text in bytes. -/
def byteSize (template : Template) : Nat :=
  template.source.utf8ByteSize

/-
  The tree of a text.  A fault in a type tag comes before
  one in the delimiters, wherever they stand.
-/
def parse
    (source : String) :
    Except SyntaxFault Forest := do
  let tokens ← Token.ofText source.toList
  match Forest.imbalance? [] tokens with
  | some fault => throw fault
  | none => return Forest.ofTokens tokens

/- A syntax fault as a failure of a template. -/
def refusal
    (source : String)
    (fault : SyntaxFault) : Error :=
  .templateSyntax source fault.offset fault.message

/- Compile a text. -/
def compile (source : String) : Except Error Template :=
  match parse source with
  | .ok forest => .ok ⟨source, forest⟩
  | .error fault => .error (refusal source fault)

end Template

end SqlAccess
