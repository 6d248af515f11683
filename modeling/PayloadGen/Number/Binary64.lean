/-!
# Numbers of the binary64 format

A finite number is a sign and a magnitude `mantissa * 2 ^ exponent`, in the one form that the format
has for it (`Binary64.Canonical`). `Binary64.ofRatio` rounds a quotient of whole numbers to the
nearest representable number, a tie to the even mantissa; `Binary64.ofDecimal` reads a decimal
number with it.
-/

namespace PayloadGen

namespace Binary64

/-- The least exponent of a finite number. -/
def leastExponent : Int := -1074

/-- The greatest exponent of a finite number. -/
def greatestExponent : Int := 971

/-- The one form in which the format holds a magnitude. -/
structure Canonical (mantissa : Nat) (exponent : Int) : Prop where
  mantissa_lt : mantissa < Nat.pow 2 53
  least_le : leastExponent ≤ exponent
  le_greatest : exponent ≤ greatestExponent
  full : exponent = leastExponent ∨ Nat.pow 2 52 ≤ mantissa

instance (m : Nat) (e : Int) : Decidable (Canonical m e) :=
  decidable_of_iff (m < Nat.pow 2 53 ∧ leastExponent ≤ e ∧ e ≤ greatestExponent ∧
      (e = leastExponent ∨ Nat.pow 2 52 ≤ m))
    ⟨fun ⟨h₁, h₂, h₃, h₄⟩ => ⟨h₁, h₂, h₃, h₄⟩,
      fun ⟨h₁, h₂, h₃, h₄⟩ => ⟨h₁, h₂, h₃, h₄⟩⟩

end Binary64

/-- A number of the binary64 format. -/
inductive Binary64 where
  | finite (negative : Bool) (mantissa : Nat) (exponent : Int)
    (canonical : Binary64.Canonical mantissa exponent)
  | infinite (negative : Bool)
  | nan
  deriving DecidableEq

namespace Binary64

/-- Zero, with a sign. -/
def zero (negative : Bool) : Binary64 :=
  .finite negative 0 leastExponent (by decide)

/-- The number with a magnitude; an infinity if the format has no such magnitude. -/
def ofMagnitude (negative : Bool) (mantissa : Nat) (exponent : Int) : Binary64 :=
  if h : Canonical mantissa exponent then .finite negative mantissa exponent h
  else .infinite negative

/-- The quotient rounded to the nearest whole number, a half to the even neighbour. -/
def roundDiv (n d : Nat) : Nat :=
  let q := n / d
  let r := n % d
  if 2 * r < d then q else if d < 2 * r then q + 1 else if q % 2 = 0 then q else q + 1

/-- The greatest `k` with `2 ^ k ≤ num / den`, for positive numbers. -/
def floorLog2 (num den : Nat) : Int :=
  let a : Int := (num.log2 : Int) - den.log2
  if den * Nat.pow 2 a.toNat ≤ num * Nat.pow 2 (-a).toNat then a else a - 1

/-- The exponent of the last place to which `num / den` is rounded. -/
def placeExponent (num den : Nat) : Int :=
  max (floorLog2 num den - 52) leastExponent

/-- The count of those places that is nearest to `num / den`. -/
def placeCount (num den : Nat) : Nat :=
  let q := placeExponent num den
  roundDiv (num * Nat.pow 2 (-q).toNat) (den * Nat.pow 2 q.toNat)

/-- The number nearest to `num / den`. -/
def ofRatio (negative : Bool) (num den : Nat) : Binary64 :=
  if num = 0 then zero negative
  else
    let q := placeExponent num den
    let m := placeCount num den
    -- a carry out of the last place leaves the least mantissa of the next exponent
    if m = Nat.pow 2 53 then ofMagnitude negative (Nat.pow 2 52) (q + 1)
    else ofMagnitude negative m q

/-- The number of decimal digits of a positive number. -/
def digitCount (n : Nat) : Nat :=
  (Nat.toDigits 10 n).length

/-- The number nearest to `digits * 10 ^ exponent`. Exponents beyond the range of the format are
decided without computing the power. -/
def ofDecimal (negative : Bool) (digits : Nat) (exponent : Int) : Binary64 :=
  if digits = 0 then zero negative
  else if 310 < exponent + digitCount digits then .infinite negative
  else if exponent + digitCount digits < -330 then zero negative
  else ofRatio negative (digits * Nat.pow 10 exponent.toNat) (Nat.pow 10 (-exponent).toNat)

/-- The whole number as a number of this format, rounded. -/
def ofInt (n : Int) : Binary64 :=
  ofRatio (n < 0) n.natAbs 1

/-- The value of a finite number as a quotient of natural numbers, without its sign. -/
def ratio (mantissa : Nat) (exponent : Int) : Nat × Nat :=
  (mantissa * Nat.pow 2 exponent.toNat, Nat.pow 2 (-exponent).toNat)

/-- The whole number that the number is, if it is one. -/
def toInt? : Binary64 → Option Int
  | .finite negative m e _ =>
    let (num, den) := ratio m e
    if num % den = 0 then some (if negative then -(num / den : Nat) else (num / den : Nat))
    else none
  | _ => none

end Binary64

end PayloadGen
