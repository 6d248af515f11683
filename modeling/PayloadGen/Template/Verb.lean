import PayloadGen.Template.Value

/-!
# Values in the form that a verb asks for

A format is a text with verbs, such as `%-8s` or `%04d`. Every verb takes the next value. A verb
that does not fit the value, and values without a verb, show in the result.
-/

namespace PayloadGen.Template

open Text

/-- What stands between the percent sign and the letter of a verb. -/
structure VerbStyle where
  plus : Bool
  minus : Bool
  sharp : Bool
  space : Bool
  zero : Bool
  width : Option Nat
  precision : Option Nat

namespace VerbStyle

/-- A verb that is only a letter. -/
def bare : VerbStyle := ⟨false, false, false, false, false, none, none⟩

/-- The number of characters of a text, every stray byte counted as one. -/
def length (s : Bytes) : Nat :=
  (decode s).length

/-- The text filled to the width. -/
def pad (st : VerbStyle) (s : Bytes) : Bytes :=
  match st.width with
  | none => s
  | some w =>
    let missing := w - length s
    if st.minus then s ++ List.replicate missing 0x20
    else if st.zero then List.replicate missing 0x30 ++ s
    else List.replicate missing 0x20 ++ s

/-- The text filled with blanks. -/
def padBlank (st : VerbStyle) (s : Bytes) : Bytes :=
  { st with zero := false }.pad s

/-- The digits of a number. -/
def digits (base : Nat) (upperCase : Bool) (n : Nat) : List Char :=
  let ds := Nat.toDigits base n
  if upperCase then ds.map Char.toUpper else ds

/-- The sign of a number. -/
def sign (st : VerbStyle) (negative : Bool) : List Char :=
  if negative then ['-'] else if st.plus then ['+'] else if st.space then [' '] else []

/-- A whole number. -/
def integer (st : VerbStyle) (base : Nat) (upperCase : Bool) (lead : List Char) (n : Int) : Bytes :=
  let ds := digits base upperCase n.natAbs
  let s := st.sign (n < 0)
  let ds := match st.precision with
    | some p => if p == 0 && n == 0 then [] else List.replicate (p - ds.length) '0' ++ ds
    | none =>
      match st.width with
      | some w =>
        if st.zero && !st.minus then
          List.replicate (w - s.length - lead.length - ds.length) '0' ++ ds
        else ds
      | none => ds
  st.padBlank (utf8 (String.ofList (s ++ lead ++ ds)))

/-- The magnitude of a number with a fixed number of places after the point; a half goes to the even
digit. -/
def fixed (m : Nat) (e : Int) (places : Nat) : List Char :=
  let (num, den) := Binary64.ratio m e
  let scaled := Binary64.roundDiv (num * Nat.pow 10 places) den
  let ds := Nat.toDigits 10 scaled
  let ds := List.replicate (places + 1 - ds.length) '0' ++ ds
  ds.take (ds.length - places) ++ (if places == 0 then [] else '.' :: ds.drop (ds.length - places))

/-- The magnitude of a number with an exponent and a fixed number of places after the point. -/
def exponential (m : Nat) (e : Int) (places : Nat) : List Char :=
  if m = 0 then
    '0' :: (if places == 0 then [] else '.' :: List.replicate places '0') ++ "e+00".toList
  else
    let lead := (Binary64.shortest m e).leading
    let (num, den) := Binary64.ratio m e
    let scale (x : Int) : Nat :=
      let shift := (places : Int) - x
      Binary64.roundDiv (num * Nat.pow 10 shift.toNat) (den * Nat.pow 10 (-shift).toNat)
    -- The leading digit of the shortest form may be one place too high or too low after rounding.
    let lead := if (Nat.toDigits 10 (scale lead)).length ≤ places then lead - 1 else lead
    let lead := if places + 1 < (Nat.toDigits 10 (scale lead)).length then lead + 1 else lead
    Decimal.scientific ⟨scale lead, lead - places⟩

/-- The magnitude of a number in a form with an exponent only for large and small numbers. -/
def general (m : Nat) (e : Int) (precision : Option Nat) : List Char :=
  match precision with
  | none => Binary64.Layout.general.magnitude m e
  | some p =>
    let p := if p == 0 then 1 else p
    let s := exponential m e (p - 1)
    let exponentText := s.dropWhile (· != 'e')
    let x := match exponentText with
      | 'e' :: '-' :: ds => -(decimalValue ds : Int)
      | 'e' :: '+' :: ds => (decimalValue ds : Int)
      | _ => 0
    let trim (t : List Char) : List Char :=
      if t.contains '.' then trimRightWhere (· == '.') (trimRightWhere (· == '0') t) else t
    if x < -4 || (p : Int) ≤ x then trim (s.takeWhile (· != 'e')) ++ exponentText
    else trim (fixed m e ((p : Int) - 1 - x).toNat)

/-- A fraction. -/
def float (st : VerbStyle) (verb : Char) (x : Binary64) : Bytes :=
  let (negative, body) : Bool × List Char := match x with
    | .nan => (false, "NaN".toList)
    | .infinite n => (n, "Inf".toList)
    | .finite n m e _ =>
      (n, match verb with
        | 'f' | 'F' => fixed m e (st.precision.getD 6)
        | 'e' => exponential m e (st.precision.getD 6)
        | 'E' => (exponential m e (st.precision.getD 6)).map Char.toUpper
        | 'G' => (general m e st.precision).map Char.toUpper
        | _ => general m e st.precision)
  let s := st.sign negative
  match st.width with
  | some w =>
    if st.zero && !st.minus then
      utf8 (String.ofList (s ++ List.replicate (w - s.length - body.length) '0' ++ body))
    else st.padBlank (utf8 (String.ofList (s ++ body)))
  | none => utf8 (String.ofList (s ++ body))

/-- A text cut to the precision. -/
def cut (st : VerbStyle) (s : Bytes) : Bytes :=
  match st.precision with
  | none => s
  | some p =>
    ((decode s).take p).flatMap fun
      | .char c => utf8 (String.singleton c)
      | .stray b => [b]

/-- The bytes of a text in hexadecimal. -/
def hexText (st : VerbStyle) (upperCase : Bool) (s : Bytes) : Bytes :=
  let s := match st.precision with
    | some p => s.take p
    | none => s
  let one (b : UInt8) : List Char := if upperCase then (hex 2 b.toNat).map Char.toUpper
    else hex 2 b.toNat
  let between := if st.space then [' '] else []
  let lead := if st.sharp && !s.isEmpty then (if upperCase then ['0', 'X'] else ['0', 'x']) else []
  st.pad (utf8 (String.ofList (lead ++ between.intercalate (s.map one))))

/-- A character between single quotes. -/
def quotedCode (n : Int) : Bytes :=
  let c := if 0 ≤ n && n < 0x110000 && !(0xD800 ≤ n && n < 0xE000) then Char.ofNat n.toNat
    else replacement
  let body := if c == '\'' then ['\\', '\''] else if c == '"' then ['"'] else quotedChar c
  utf8 (String.ofList ('\'' :: body ++ ['\'']))

/-- The character of a code. -/
def character (n : Int) : Char :=
  if 0 ≤ n && n < 0x110000 && !(0xD800 ≤ n && n < 0xE000) then Char.ofNat n.toNat else replacement

/-- A value that the verb does not fit. -/
def misfit (verb : Char) (v : Value) : Bytes :=
  match v with
  | .missing => utf8 ("%!" ++ String.singleton verb ++ "(<nil>)")
  | v =>
    utf8 ("%!" ++ String.singleton verb ++ "(" ++ v.typeName ++ "=") ++ v.shown .plain ++ utf8 ")"

/-- A number that is no fraction, under a verb. -/
def wholeNumber (st : VerbStyle) (verb : Char) (v : Value) (n : Int) : Bytes :=
  match verb with
  | 'v' | 'd' => st.integer 10 false [] n
  | 'b' => st.integer 2 false (if st.sharp then ['0', 'b'] else []) n
  | 'o' => st.integer 8 false (if st.sharp then ['0'] else []) n
  | 'O' => st.integer 8 false ['0', 'o'] n
  | 'x' => st.integer 16 false (if st.sharp then ['0', 'x'] else []) n
  | 'X' => st.integer 16 true (if st.sharp then ['0', 'X'] else []) n
  | 'c' => st.padBlank (utf8 (String.singleton (character n)))
  | 'q' => st.padBlank (quotedCode n)
  | 'U' =>
    let ds := digits 16 true n.natAbs
    st.padBlank (utf8 (String.ofList ('U' :: '+' :: List.replicate (4 - ds.length) '0' ++ ds)))
  | _ => misfit verb v

mutual

/-- A value under a verb. -/
def apply (st : VerbStyle) (verb : Char) : Value → Bytes
  | .missing => if verb == 'v' then st.padBlank (utf8 "<nil>") else misfit verb .missing
  | .bool b =>
    if verb == 'v' || verb == 't' then st.pad (utf8 (if b then "true" else "false"))
    else misfit verb (.bool b)
  | .int n => wholeNumber st verb (.int n) n
  | .byte b => wholeNumber st verb (.byte b) b.toNat
  | .float x =>
    if ['v', 'e', 'E', 'f', 'F', 'g', 'G'].contains verb then st.float verb x
    else misfit verb (.float x)
  | .text s =>
    match verb with
    | 'v' => if st.sharp then st.pad (utf8 (quoteBytes s)) else st.pad (st.cut s)
    | 's' => st.pad (st.cut s)
    | 'q' => st.pad (utf8 (quoteBytes (st.cut s)))
    | 'x' => st.hexText false s
    | 'X' => st.hexText true s
    | _ => misfit verb (.text s)
  | .list item items =>
    if verb == 'v' && st.sharp then (Value.list item items).shown .source
    else utf8 "[" ++ applyItems st verb items ++ utf8 "]"
  | .map entries =>
    if verb == 'v' && st.sharp then (Value.map entries).shown .source
    else
      let one (s : Bytes) : Bytes := match verb with
        | 'v' | 's' => st.pad (st.cut s)
        | 'q' => st.pad (utf8 (quoteBytes (st.cut s)))
        | 'x' => st.hexText false s
        | 'X' => st.hexText true s
        | _ => misfit verb (.text s)
      utf8 "map[" ++ [0x20].intercalate (entries.map fun e => one e.1 ++ [0x3A] ++ one e.2) ++
        utf8 "]"
  | .record type fields =>
    if verb == 'v' && st.sharp then (Value.record type fields).shown .source
    else utf8 "\x7b" ++ applyFields st verb fields ++ utf8 "\x7d"

/-- The items of a list under a verb. -/
def applyItems (st : VerbStyle) (verb : Char) : List Value → Bytes
  | [] => []
  | [v] => apply st verb v
  | v :: r => apply st verb v ++ [0x20] ++ applyItems st verb r

/-- The fields of a record under a verb. -/
def applyFields (st : VerbStyle) (verb : Char) : List (String × Value) → Bytes
  | [] => []
  | [(k, v)] => (if verb == 'v' && st.plus then utf8 (k ++ ":") else []) ++ apply st verb v
  | (k, v) :: r =>
    (if verb == 'v' && st.plus then utf8 (k ++ ":") else []) ++ apply st verb v ++ [0x20] ++
      applyFields st verb r

end

end VerbStyle

/-! ## Formats -/

/-- Where a format stands: what is left of it, the values, and how many of them have been taken. -/
structure FormatState where
  values : List Value
  taken : Nat
  /-- Has a verb chosen its value by number? -/
  reordered : Bool

namespace FormatState

/-- The next value. -/
def next? (s : FormatState) : Option Value :=
  s.values[s.taken]?

end FormatState

/-- The flags at the front of a text. -/
def flags : List Char → VerbStyle → VerbStyle × List Char
  | '+' :: r, st => flags r { st with plus := true }
  | '-' :: r, st => flags r { st with minus := true, zero := false }
  | '#' :: r, st => flags r { st with sharp := true }
  | ' ' :: r, st => flags r { st with space := true }
  | '0' :: r, st => flags r { st with zero := !st.minus }
  | r, st => (st, r)

/-- A number of a value in brackets, if it stands here. -/
def valueNumber (s : FormatState) : List Char → FormatState × List Char
  | '[' :: r =>
    let ds := r.takeWhile isAsciiDigit
    match r.drop ds.length with
    | ']' :: rest =>
      if ds.isEmpty then (s, '[' :: r)
      else ({ s with taken := decimalValue ds - 1, reordered := true }, rest)
    | _ => (s, '[' :: r)
  | r => (s, r)

/-- A width or a precision: a number, or a star that takes it from the values. -/
def measure (s : FormatState) : List Char → Option Int × FormatState × List Char
  | '*' :: r =>
    match s.next? with
    | some (.int n) => (some n, { s with taken := s.taken + 1 }, r)
    | _ => (none, { s with taken := s.taken + 1 }, r)
  | r =>
    let ds := r.takeWhile isAsciiDigit
    (if ds.isEmpty then none else some (decimalValue ds), s, r.drop ds.length)

/-- Values for which the format has no verb. -/
def surplus (s : FormatState) : Bytes :=
  if s.reordered || s.values.length ≤ s.taken then []
  else
    let one (v : Value) : Bytes := match v with
      | .missing => utf8 "<nil>"
      | v => utf8 (v.typeName ++ "=") ++ v.shown .plain
    utf8 "%!(EXTRA " ++ [0x2C, 0x20].intercalate ((s.values.drop s.taken).map one) ++ utf8 ")"

/-- A format with its values. -/
def formatFrom : (fuel : Nat) → FormatState → List Char → Bytes
  | 0, _, _ => []
  | _, s, [] => surplus s
  | fuel + 1, s, '%' :: r =>
    let (st, r) := flags r .bare
    let (s, r) := valueNumber s r
    let (width, s, r) := measure s r
    let st := match width with
      | some w =>
        if w < 0 then { st with minus := true, zero := false, width := some w.natAbs }
        else { st with width := some w.toNat }
      | none => st
    let (precision, s, r) : Option Int × FormatState × List Char := match r with
      | '.' :: r =>
        let (s, r) := valueNumber s r
        let (p, s, r) := measure s r
        (some (p.getD 0), s, r)
      | r => (none, s, r)
    let st := { st with precision := precision.bind fun p => if p < 0 then none else some p.toNat }
    let (s, r) := valueNumber s r
    match r with
    | [] => utf8 "%!(NOVERB)" ++ surplus s
    | '%' :: r => 0x25 :: formatFrom fuel s r
    | verb :: r =>
      match s.next? with
      | none => utf8 ("%!" ++ String.singleton verb ++ "(MISSING)") ++ formatFrom fuel s r
      | some v =>
        let shown := if verb == 'T' then st.pad (utf8 v.typeName) else st.apply verb v
        shown ++ formatFrom fuel { s with taken := s.taken + 1 } r
  | fuel + 1, s, c :: r => utf8 (String.singleton c) ++ formatFrom fuel s r

/-- A format with its values. -/
def format (f : Bytes) (values : List Value) : Bytes :=
  let chars := (lossy f).toList
  formatFrom (chars.length + 1) ⟨values, 0, false⟩ chars

end PayloadGen.Template
