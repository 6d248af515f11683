import PayloadGen.Number.Binary64

/-!
# The fewest digits that read back

Every finite number of the binary64 format is written with the least number of decimal digits that
still read back to it, and of the decimals with that many digits with the nearest one.
-/

namespace PayloadGen

/-- The decimal number `digits * 10 ^ exponent`. -/
structure Decimal where
  digits : Nat
  exponent : Int
  deriving DecidableEq

namespace Decimal

/-- The same number without trailing zeros among its digits; `fuel` bounds how many are taken
off. -/
def dropZeros : (fuel : Nat) → Decimal → Decimal
  | 0, d => d
  | fuel + 1, d =>
    if d.digits ≠ 0 ∧ d.digits % 10 = 0 then dropZeros fuel ⟨d.digits / 10, d.exponent + 1⟩ else d

end Decimal

namespace Binary64

/-- The interval of reals that round to a positive finite number, in quarters of its last place: the
value is `4 * mantissa` quarters, half a place up is two, and half a place down is two, or one where
the number below is twice as near. -/
structure Interval where
  low : Nat
  high : Nat
  closed : Bool

/-- The interval of the number `mantissa * 2 ^ exponent`. -/
def interval (mantissa : Nat) (exponent : Int) : Interval where
  low := if mantissa = Nat.pow 2 52 ∧ leastExponent < exponent then 4 * mantissa - 1
    else 4 * mantissa - 2
  high := 4 * mantissa + 2
  closed := mantissa % 2 = 0

/-- The exponent of ten of the leading digit of `num / den`. -/
def leadingPlace (num den : Nat) : Int :=
  (digitCount (num * Nat.pow 10 340 / den) : Int) - 341

/-- The exponent of ten of the decimals with `n` digits that are as large as the number. -/
def gridExponent (mantissa : Nat) (exponent : Int) (n : Nat) : Int :=
  let quarter := exponent - 2
  leadingPlace (4 * mantissa * Nat.pow 2 quarter.toNat) (Nat.pow 2 (-quarter).toNat) + 1 - n

/-- The greatest of those decimals that is no larger than the number, without its power of ten. -/
def gridCount (mantissa : Nat) (exponent : Int) (n : Nat) : Nat :=
  let quarter := exponent - 2
  let k := gridExponent mantissa exponent n
  4 * mantissa * Nat.pow 2 quarter.toNat * Nat.pow 10 (-k).toNat /
    (Nat.pow 10 k.toNat * Nat.pow 2 (-quarter).toNat)

/-- Does `x * 10 ^ k` lie in the interval, if a quarter is `2 ^ quarter`? Both are multiplied by
what makes them whole. -/
def Interval.holds (i : Interval) (quarter k : Int) (x : Nat) : Bool :=
  let low := i.low * Nat.pow 2 quarter.toNat * Nat.pow 10 (-k).toNat
  let high := i.high * Nat.pow 2 quarter.toNat * Nat.pow 10 (-k).toNat
  let point := x * (Nat.pow 10 k.toNat * Nat.pow 2 (-quarter).toNat)
  if i.closed then low ≤ point && point ≤ high else low < point && point < high

/-- The decimal with `n` digits that lies in the interval and is nearest to the number, if there is
one. -/
def nearest? (mantissa : Nat) (exponent : Int) (n : Nat) : Option Decimal :=
  let quarter := exponent - 2
  let k := gridExponent mantissa exponent n
  let c := gridCount mantissa exponent n
  let inside := (interval mantissa exponent).holds quarter k
  let pick (x : Nat) : Option Decimal := some (Decimal.dropZeros 20 ⟨x, k⟩)
  match inside c, inside (c + 1) with
  | false, false => none
  | true, false => pick c
  | false, true => pick (c + 1)
  | true, true =>
    let twice := 2 * (4 * mantissa * Nat.pow 2 quarter.toNat) * Nat.pow 10 (-k).toNat
    let middle := (2 * c + 1) * (Nat.pow 10 k.toNat * Nat.pow 2 (-quarter).toNat)
    if twice < middle then pick c
    else if middle < twice then pick (c + 1)
    else if c % 2 = 0 then pick c else pick (c + 1)

/-- The shortest decimal of a finite magnitude. -/
def shortest (mantissa : Nat) (exponent : Int) : Decimal :=
  if mantissa = 0 then ⟨0, 0⟩
  else ((List.range 17).findSome? fun i => nearest? mantissa exponent (i + 1)).getD
    ⟨mantissa, exponent⟩

end Binary64

end PayloadGen
