import SqlAccess.Number.Shortest

/-
  This file writes floating-point numbers as decimal text.
  The digits are the shortest that read back; everything
  else about the text is the choice of a layout.

  Key definitions include:
    * `Decimal.Layout`
    * `Decimal.Layout.render`
-/

namespace SqlAccess

namespace Decimal

/-
  How a number is laid out: which powers of ten of its first
  digit are written without an exponent (all of them if no
  window is given), whether a whole number keeps a zero
  after the point, whether a positive exponent has a sign,
  and which of two equally short and near decimals is taken.
-/
structure Layout where
  window : Option (Int × Int)
  keepsPoint : Bool
  plusSign : Bool
  ties : Ties

namespace Layout

/-
  A whole number, with its point where the layout keeps it.
-/
def wholeText
    (layout : Layout)
    (digits : List Char) : String :=
  String.ofList digits ++
    (if layout.keepsPoint then ".0" else "")

/- Digits with the point before or after some of them. -/
def positional
    (layout : Layout)
    (d : Decimal) : String :=
  let digits := digitChars d.digits
  match d.exponent with
  | .ofNat zeros =>
      layout.wholeText (digits ++ List.replicate zeros '0')
  | .negSucc k =>
      let places := k + 1
      if places < digits.length then
        let whole := digits.length - places
        String.ofList (digits.take whole) ++ "." ++
          String.ofList (digits.drop whole)
      else
        "0." ++ String.ofList
          (List.replicate (places - digits.length) '0' ++
            digits)

/- One digit before the point, and an exponent. -/
def scientific
    (layout : Layout)
    (d : Decimal) : String :=
  let digits := digitChars d.digits
  let exponent := d.exponent + (digits.length - 1 : Nat)
  let fraction := digits.drop 1
  String.ofList (digits.take 1) ++
    (if fraction.isEmpty then ""
     else "." ++ String.ofList fraction) ++
    "e" ++
    (if layout.plusSign && 0 ≤ exponent then "+"
      else "") ++
    toString exponent

/- A positive decimal. -/
def renderDecimal
    (layout : Layout)
    (d : Decimal) : String :=
  let leading :=
    d.exponent + ((digitChars d.digits).length - 1 : Nat)
  match layout.window with
  | none => layout.positional d
  | some (least, bound) =>
      if least ≤ leading && leading < bound then
        layout.positional d
      else
        layout.scientific d

/- The text of a number. -/
def render
    (layout : Layout)
    (x : Binary64) : String :=
  if x.isNaN then "NaN"
  else
    let sign := if x.isNegative then "-" else ""
    if x.isInfinite then sign ++ "inf"
    else if x.isZero then sign ++ layout.wholeText ['0']
    else
      sign ++ layout.renderDecimal (shortest layout.ties x)

end Layout

end Decimal

end SqlAccess
