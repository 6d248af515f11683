import PayloadGen.Number.Shortest
import PayloadGen.Text.Basic

/-!
# Reading decimal numbers

`Decimal.read?` reads a signed decimal number with an optional fraction and exponent; at least one
digit must stand before the exponent, on either side of the point. `Binary64.read?` rounds what it
reads, and refuses a number whose magnitude is too large for the format.
-/

namespace PayloadGen

open Text

/-- The sign at the front of a number, and the rest; `true` is a minus. -/
def readSign : List Char → Bool × List Char
  | '-' :: r => (true, r)
  | '+' :: r => (false, r)
  | r => (false, r)

/-- The exponent at the front of a text: nothing, or `e` with a signed number up to the end. -/
def readExponent? : List Char → Option Int
  | [] => some 0
  | c :: r =>
    if c = 'e' || c = 'E' then
      let (negative, ds) := readSign r
      if ds.isEmpty || !ds.all isAsciiDigit then none
      else some (if negative then -(decimalValue ds : Int) else decimalValue ds)
    else none

/-- The sign and the magnitude of a decimal number. -/
def Decimal.read? (s : List Char) : Option (Bool × Decimal) :=
  let (negative, r) := readSign s
  let whole := r.takeWhile isAsciiDigit
  let (fraction, rest) := match r.dropWhile isAsciiDigit with
    | '.' :: t => (t.takeWhile isAsciiDigit, t.dropWhile isAsciiDigit)
    | t => ([], t)
  if whole.isEmpty && fraction.isEmpty then none
  else (readExponent? rest).map fun e =>
    (negative, ⟨decimalValue (whole ++ fraction), e - fraction.length⟩)

namespace Binary64

/-- The number that a decimal text denotes, if the format can hold it. -/
def read? (s : List Char) : Option Binary64 :=
  match Decimal.read? s with
  | none => none
  | some (negative, d) =>
    match ofDecimal negative d.digits d.exponent with
    | .infinite _ => none
    | x => some x

/-- As `read?`, and also the names of the infinities and of the value that is no number, in any
case. -/
def readExtended? (s : List Char) : Option Binary64 :=
  let (negative, r) := readSign s
  let name := String.ofList (r.map Char.toLower)
  if name = "inf" || name = "infinity" then some (.infinite negative)
  else if name = "nan" && r.length == s.length then some .nan
  else read? s

end Binary64

end PayloadGen
