import PayloadGen.Number.Shortest
import PayloadGen.Text.Basic

/-!
# Written forms of numbers

The shortest digits of a number are laid out positionally (`0.001`, `1500`) or with an exponent
(`1.5e+03`).
-/

namespace PayloadGen

namespace Decimal

/-- The digits of the number, without sign and point. -/
def digitList (d : Decimal) : List Char :=
  Nat.toDigits 10 d.digits

/-- The exponent of ten of the leading digit; zero for zero. -/
def leading (d : Decimal) : Int :=
  if d.digits = 0 then 0 else d.exponent + d.digitList.length - 1

/-- `d.ddde±XX`, the exponent with at least two digits. -/
def scientific (d : Decimal) : List Char :=
  let mantissa := match d.digitList with
    | [] => []
    | [c] => [c]
    | c :: r => c :: '.' :: r
  let e := d.leading
  let digits := Nat.toDigits 10 e.natAbs
  let digits := if digits.length < 2 then '0' :: digits else digits
  mantissa ++ 'e' :: (if e < 0 then '-' else '+') :: digits

/-- All digits in their places, with a point only before a fraction. -/
def positional (d : Decimal) : List Char :=
  if 0 ≤ d.exponent then
    if d.digits = 0 then ['0'] else d.digitList ++ List.replicate d.exponent.toNat '0'
  else
    let places := (-d.exponent).toNat
    let padded := List.replicate (places + 1 - d.digitList.length) '0' ++ d.digitList
    padded.take (padded.length - places) ++ '.' :: padded.drop (padded.length - places)

end Decimal

namespace Binary64

/-- How magnitudes are laid out: the numbers whose leading digit has a place of this range are
positional. -/
structure Layout where
  positional : Int → Bool

/-- Always with an exponent. -/
def Layout.scientific : Layout := ⟨fun _ => false⟩

/-- Always positional. -/
def Layout.positionalOnly : Layout := ⟨fun _ => true⟩

/-- Positional from `0.0001` up to six digits before the point. -/
def Layout.general : Layout := ⟨fun e => -4 ≤ e && e < 6⟩

/-- Positional from `0.000001` up to twenty-one digits before the point. -/
def Layout.json : Layout := ⟨fun e => -6 ≤ e && e < 21⟩

/-- The text of a magnitude in a layout. -/
def Layout.magnitude (layout : Layout) (m : Nat) (e : Int) : List Char :=
  let d := shortest m e
  if layout.positional d.leading then d.positional else d.scientific

/-- The text of a number in a layout. -/
def render (layout : Layout) : Binary64 → String
  | .nan => "NaN"
  | .infinite negative => if negative then "-Inf" else "+Inf"
  | .finite negative m e _ =>
    let body := layout.magnitude m e
    String.ofList (if negative then '-' :: body else body)

end Binary64

end PayloadGen
