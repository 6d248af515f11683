import PayloadGen.Yaml.Value.Basic
import PayloadGen.Yaml.Error
import PayloadGen.Number.Reader

/-!
# What scalars stand for

A plain scalar without a tag stands for the value that its text looks like: a constant, a number, a
point in time, or else the text itself. A tag asks for one of these.
-/

namespace PayloadGen.Yaml

open Text

/-- The value of a digit in any base up to sixteen, if it is one of the base. -/
def digitIn? (base : Nat) (c : Char) : Option Nat :=
  match hexValue? c with
  | some n => if n < base then some n else none
  | none => none

/-- The value of digits of a base. -/
def natIn? (base : Nat) (s : List Char) : Option Nat :=
  (s.mapM (digitIn? base)).map fun ds => ds.foldl (fun n d => base * n + d) 0

/-- The base that the front of a number shows, and the digits after it. -/
def baseOf (s : List Char) : Nat × List Char :=
  match s with
  | '0' :: c :: d :: r =>
    if c == 'b' || c == 'B' then (2, d :: r)
    else if c == 'o' || c == 'O' then (8, d :: r)
    else if c == 'x' || c == 'X' then (16, d :: r)
    else (8, c :: d :: r)
  | '0' :: r => (8, '0' :: r)
  | r => (10, r)

/-- A signed whole number of a base that fits 64 bits. -/
def int64In? (base : Nat) (s : List Char) : Option Int :=
  let (negative, digits) := readSign s
  if digits.isEmpty then none
  else match natIn? base digits with
    | none => none
    | some n =>
      if negative then (if n ≤ 0x8000000000000000 then some (-(n : Int)) else none)
      else if n < 0x8000000000000000 then some n else none

/-- A whole number in the base that it shows: signed within 64 bits, or unsigned within 64 bits. -/
def integer? (s : List Char) : Option Int :=
  let (negative, digits) := readSign s
  if digits.isEmpty then none
  else
    let (base, digits) := baseOf digits
    match natIn? base digits with
    | none => none
    | some n =>
      if negative then (if n ≤ 0x8000000000000000 then some (-(n : Int)) else none)
      else if n < 0x8000000000000000 then some n
      else if n < 0x10000000000000000 && s.head? != some '+' then some n
      else none

/-- A whole number after the marks `0b` and `0o`, which may carry its own sign. -/
def marked? (s : List Char) : Option Int :=
  match s with
  | '0' :: 'b' :: r => int64In? 2 r
  | '0' :: 'o' :: r => int64In? 8 r
  | '-' :: '0' :: 'b' :: r => int64In? 2 ('-' :: r)
  | '-' :: '0' :: 'o' :: r => int64In? 8 ('-' :: r)
  | _ => none

/-- The number that a text denotes; underscores between digits do not count. -/
def number? (s : List Char) : Option Value :=
  let s := s.filter (· != '_')
  match integer? s with
  | some n => some (.int n)
  | none =>
    match Binary64.read? s with
    | some x => some (.float x)
    | none => (marked? s).map .int

/-- The constants. -/
def constant? (s : String) : Option Value :=
  if ["", "~", "null", "Null", "NULL"].contains s then some .null
  else if ["true", "True", "TRUE"].contains s then some (.bool true)
  else if ["false", "False", "FALSE"].contains s then some (.bool false)
  else if [".nan", ".NaN", ".NAN"].contains s then some (.float .nan)
  else if [".inf", ".Inf", ".INF", "+.inf", "+.Inf", "+.INF"].contains s then
    some (.float (.infinite false))
  else if ["-.inf", "-.Inf", "-.INF"].contains s then some (.float (.infinite true))
  else none

/-- What a text looks like. Points in time are looked for only if `times` is set. -/
def looksLike (times : Bool) (s : String) : Value :=
  match constant? s with
  | some v => v
  | none =>
    let chars := s.toList
    match chars with
    | '.' :: _ => ((Binary64.read? chars).map .float).getD (.text s)
    | c :: _ =>
      if c == '+' || c == '-' || isAsciiDigit c then
        match if times then Timestamp.read? s else none with
        | some t => .time t
        | none => (number? chars).getD (.text s)
      else .text s
    | [] => .null

/-- Standard alphabet of base 64. -/
def base64Value? (c : Char) : Option Nat :=
  if 'A' ≤ c && c ≤ 'Z' then some (c.toNat - 65)
  else if 'a' ≤ c && c ≤ 'z' then some (c.toNat - 71)
  else if isAsciiDigit c then some (c.toNat + 4)
  else if c == '+' then some 62
  else if c == '/' then some 63
  else none

/-- The bytes of a base 64 text, in groups of four characters; line breaks do not count. -/
def base64? (s : List Char) : Option Bytes :=
  go (s.filter fun c => c != '\n' && c != '\r')
where
  /-- The bytes of the groups. -/
  go : List Char → Option Bytes
    | [] => some []
    | [a, b, '=', '='] => do
      let a ← base64Value? a
      let b ← base64Value? b
      return [UInt8.ofNat (4 * a + b / 16)]
    | [a, b, c, '='] => do
      let a ← base64Value? a
      let b ← base64Value? b
      let c ← base64Value? c
      return [UInt8.ofNat (4 * a + b / 16), UInt8.ofNat (16 * (b % 16) + c / 4)]
    | a :: b :: c :: d :: r => do
      let a ← base64Value? a
      let b ← base64Value? b
      let c ← base64Value? c
      let d ← base64Value? d
      let rest ← go r
      return UInt8.ofNat (4 * a + b / 16) :: UInt8.ofNat (16 * (b % 16) + c / 4) ::
        UInt8.ofNat (64 * (c % 4) + d) :: rest
    | _ => none

/-- The tag that an untagged scalar has. -/
def impliedTag (text : String) (isPlain : Bool) : String :=
  if !isPlain then "!!str" else if text == "<<" then "!!merge" else (looksLike true text).tag

/-- The value of a scalar. -/
def scalarValue (tag : Option String) (text : String) (isPlain : Bool) : Except Error Value :=
  match tag with
  | none => .ok (if isPlain then looksLike true text else .text text)
  | some "!!str" => .ok (.text text)
  | some "!!binary" =>
    match base64? text.toList with
    | some bytes => .ok (.text (lossy bytes))
    | none => .error (.refused .badBase64)
  | some t =>
    if ["!!bool", "!!int", "!!float", "!!null", "!!timestamp"].contains t then
      let v := looksLike (t == "!!timestamp") text
      if v.tag == t then .ok v
      else match t, v with
        | "!!float", .int n =>
          if n < 0x8000000000000000 then .ok (.float (.ofInt n))
          else .error (.refused (.tagForm v.tag text t))
        | _, _ => .error (.refused (.tagForm v.tag text t))
    else .ok (.text text)

end PayloadGen.Yaml
