import SqlAccess.Template.Forest

/-
  This file decides which optional blocks of a template
  stay.  A block stays if all names that stand directly in
  it are bound; a block inside of it is decided on its own
  once the outer one stays.

  Key definitions include:
    * `Segment`
    * `Forest.isBound`
    * `Forest.segments`
    * `Forest.included`
    * `Forest.elided`
-/

namespace SqlAccess

/- A piece of a template that stays. -/
inductive Segment
  | literal (text : String)
  | slot (placeholder : Placeholder)
deriving DecidableEq, Repr

namespace Forest

variable (bound : String → Bool)

/-
  Whether a placeholder is positional or has a bound name.
-/
def allows (placeholder : Placeholder) : Bool :=
  (nameOf? placeholder).all bound

/- Whether all names directly in a forest are bound. -/
def isBound : Forest → Bool
  | done => true
  | literal _ next => isBound next
  | slot placeholder next =>
      allows bound placeholder && isBound next
  | block _ next => isBound next

/- The pieces that stay, in the order of the text. -/
def segments : Forest → List Segment
  | done => []
  | literal text next => .literal text :: segments next
  | slot placeholder next =>
      .slot placeholder :: segments next
  | block inner next =>
      if isBound bound inner then
        segments inner ++ segments next
      else
        segments next

/- The number of blocks that stay. -/
def included : Forest → Nat
  | done => 0
  | literal _ next => included next
  | slot _ next => included next
  | block inner next =>
      if isBound bound inner then
        1 + included inner + included next
      else
        included next

/- The number of blocks that go though those around stay. -/
def elided : Forest → Nat
  | done => 0
  | literal _ next => elided next
  | slot _ next => elided next
  | block inner next =>
      if isBound bound inner then
        elided inner + elided next
      else
        1 + elided next

end Forest

end SqlAccess
