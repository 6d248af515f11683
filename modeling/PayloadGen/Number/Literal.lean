import PayloadGen.Number.Reader

/-!
# Literals of whole numbers

A whole number is decimal unless its front shows another base: `0x`, `0o`, `0b`, or a mere zero for
base eight. An underscore may stand between two digits, and after the mark of a base.
-/

namespace PayloadGen

open Text

/-- The digits without the underscores, each of which stands between two of them. -/
def plainDigits? (afterDigit : Bool) : List Char → Option (List Char)
  | [] => some []
  | '_' :: c :: r => if afterDigit && c != '_' then plainDigits? false (c :: r) else none
  | ['_'] => none
  | c :: r => (plainDigits? true r).map (c :: ·)

/-- The value of digits of a base. -/
def digitsValue? (base : Nat) (s : List Char) : Option Nat :=
  if s.isEmpty then none
  else s.foldlM (fun n c => (hexValue? c).bind fun d => if d < base then some (base * n + d)
    else none) 0

/-- The magnitude that a literal without a sign denotes. -/
def magnitude? (s : List Char) : Option Nat :=
  match s with
  | '0' :: c :: d =>
    if c == 'x' || c == 'X' then (plainDigits? true d).bind (digitsValue? 16)
    else if c == 'o' || c == 'O' then (plainDigits? true d).bind (digitsValue? 8)
    else if c == 'b' || c == 'B' then (plainDigits? true d).bind (digitsValue? 2)
    else (plainDigits? true (c :: d)).bind (digitsValue? 8)
  | s => (plainDigits? false s).bind (digitsValue? 10)

/-- The whole number that a literal denotes. -/
def wholeNumber? (s : List Char) : Option Int := do
  let (negative, r) := readSign s
  let n ← magnitude? r
  return if negative then -(n : Int) else n

/-- Does a number fit 64 bits with a sign? -/
def fits64 (n : Int) : Bool :=
  -0x8000000000000000 ≤ n && n < 0x8000000000000000

end PayloadGen
