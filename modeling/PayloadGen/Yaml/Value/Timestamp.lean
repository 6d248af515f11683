import PayloadGen.Text.Basic

/-!
# Points in time

A date with an optional time of day, as plain scalars may write it, and its standard form.
-/

namespace PayloadGen

open Text

/-- A point in time, as written. -/
structure Timestamp where
  year : Nat
  month : Nat
  day : Nat
  hour : Nat
  minute : Nat
  second : Nat
  nanosecond : Nat
  /-- Minutes east of Greenwich. -/
  offset : Int

namespace Timestamp

/-- A number of one or two digits, and the rest. -/
def shortNumber? : List Char → Option (Nat × List Char)
  | a :: b :: r =>
    if isAsciiDigit a && isAsciiDigit b then some (decimalValue [a, b], r)
    else if isAsciiDigit a then some (decimalValue [a], b :: r)
    else none
  | [a] => if isAsciiDigit a then some (decimalValue [a], []) else none
  | [] => none

/-- The rest after a character. -/
def after? (c : Char) : List Char → Option (List Char)
  | d :: r => if c == d then some r else none
  | [] => none

/-- The number of days of a month. -/
def daysIn (year month : Nat) : Nat :=
  if month == 2 then
    if year % 4 == 0 && (year % 100 != 0 || year % 400 == 0) then 29 else 28
  else if [4, 6, 9, 11].contains month then 30 else 31

/-- A date, and the rest. -/
def date? (s : List Char) : Option (Timestamp × List Char) := do
  let digits := s.takeWhile isAsciiDigit
  guard (digits.length == 4)
  let r ← after? '-' (s.drop 4)
  let (month, r) ← shortNumber? r
  guard (1 ≤ month && month ≤ 12)
  let r ← after? '-' r
  let (day, r) ← shortNumber? r
  let year := decimalValue digits
  guard (1 ≤ day && day ≤ daysIn year month)
  return (⟨year, month, day, 0, 0, 0, 0, 0⟩, r)

/-- The fraction of a second at the front of a text in nanoseconds, and the rest; digits past the
ninth are dropped. -/
def fraction (s : List Char) : Nat × List Char :=
  match s with
  | c :: r =>
    let digits := r.takeWhile isAsciiDigit
    if (c == '.' || c == ',') && !digits.isEmpty then
      (decimalValue ((digits ++ List.replicate 9 '0').take 9), r.drop digits.length)
    else (0, s)
  | [] => (0, s)

/-- A time of day, and the rest. -/
def time? (t : Timestamp) (s : List Char) : Option (Timestamp × List Char) := do
  let (hour, r) ← shortNumber? s
  let r ← after? ':' r
  let (minute, r) ← shortNumber? r
  let r ← after? ':' r
  let (second, r) ← shortNumber? r
  guard (hour < 24 && minute < 60 && second < 60)
  let (nanosecond, r) := fraction r
  return ({ t with hour, minute, second, nanosecond }, r)

/-- The distance from Greenwich in minutes. -/
def zone? : List Char → Option Int
  | ['Z'] => some 0
  | [sign, a, b, ':', c, d] => do
    guard ([a, b, c, d].all isAsciiDigit)
    let hours := decimalValue [a, b]
    let minutes := decimalValue [c, d]
    guard (hours ≤ 24 && minutes ≤ 60)
    match sign with
    | '+' => return (hours * 60 + minutes : Nat)
    | '-' => return -(hours * 60 + minutes : Nat)
    | _ => none
  | _ => none

/-- The point in time that a text denotes: a date, a date and a time with a zone after the letter
`T`, or a date and a time after blanks. -/
def read? (text : String) : Option Timestamp := do
  let (t, r) ← date? text.toList
  match r with
  | [] => return t
  | ' ' :: r =>
    let (t, rest) ← time? t (r.dropWhile (· == ' '))
    guard rest.isEmpty
    return t
  | c :: r =>
    guard (c == 'T' || c == 't')
    let (t, rest) ← time? t r
    let offset ← zone? rest
    return { t with offset }

/-- A number with at least `width` digits. -/
def padded (width n : Nat) : List Char :=
  let digits := Nat.toDigits 10 n
  List.replicate (width - digits.length) '0' ++ digits

/-- The standard form: date and time with the letter `T`, the fraction without trailing zeros, and
the zone. -/
def render (t : Timestamp) : String :=
  let fraction := trimRightWhere (· == '0') (padded 9 t.nanosecond)
  let distance := t.offset.natAbs
  String.ofList (padded 4 t.year ++ '-' :: padded 2 t.month ++ '-' :: padded 2 t.day ++
    'T' :: padded 2 t.hour ++ ':' :: padded 2 t.minute ++ ':' :: padded 2 t.second ++
    (if fraction.isEmpty then [] else '.' :: fraction) ++
    (if t.offset == 0 then ['Z']
      else (if t.offset < 0 then '-' else '+') :: padded 2 (distance / 60) ++
        ':' :: padded 2 (distance % 60)))

/-- Can the standard form be written? A zone must lie less than a day away. -/
def isStandard (t : Timestamp) : Bool :=
  t.offset.natAbs < 24 * 60

end Timestamp

end PayloadGen
