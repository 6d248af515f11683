import PayloadGen.Json.Text
import PayloadGen.Number.Reader

/-!
# The structure of a JSON text

Reading a JSON text gives its structure. Atoms (names of constants, numbers, strings) keep the
characters they are written with, and every member of an object keeps the whole text of its value,
so nothing that an equal value might be written as is lost. What numbers and repeated names mean is
for each reader to say.

Two grammars are read. The strict one is that of the standard. The loose one takes every run of
number characters that reads as a decimal (`01`, `1.`), raw control characters and unknown escapes
in strings, and `null` in the place of a member name.
-/

namespace PayloadGen

/-- The structure of a JSON text. -/
inductive Json where
  /-- A constant, a number or a string with its quotes, as written. -/
  | atom (literal : List Char)
  | array (items : List Json)
  /-- Members in order: the name between its quotes as written, the text of the value, and the
  value. -/
  | object (members : List (List Char × List Char × Json))

namespace Json

open Text

/-- Which texts count as JSON. -/
inductive Grammar where
  | strict
  | loose

/-- White space between tokens. -/
def isBlank (c : Char) : Bool :=
  c == ' ' || c == '\t' || c == '\n' || c == '\r'

/-- The text after its leading white space. -/
def skip (s : List Char) : List Char :=
  s.dropWhile isBlank

/-- The characters that a loose number consists of. -/
def isNumberChar (c : Char) : Bool :=
  isAsciiDigit c || c == '.' || c == 'e' || c == 'E' || c == '+' || c == '-'

/-- Is the text a number of the standard grammar? -/
def isStrictNumber (s : List Char) : Bool :=
  let r := match s with
    | '-' :: r => r
    | r => r
  let wholeFits := match r.takeWhile isAsciiDigit with
    | [] => false
    | ['0'] => true
    | c :: _ => c != '0'
  let (fractionFits, rest) := match r.dropWhile isAsciiDigit with
    | '.' :: t => (!(t.takeWhile isAsciiDigit).isEmpty, t.dropWhile isAsciiDigit)
    | t => (true, t)
  wholeFits && fractionFits && (readExponent? rest).isSome

/-- Is the text a number of the grammar? -/
def Grammar.isNumber : Grammar → List Char → Bool
  | .strict, s => isStrictNumber s
  | .loose, s => (Binary64.read? s).isSome

/-- May the character stand in a string as it is? -/
def Grammar.isPlain : Grammar → Char → Bool
  | .strict, c => 0x20 ≤ c.toNat
  | .loose, c => c.toNat != 0

/-- May the letter follow a backslash? -/
def Grammar.isEscape : Grammar → Char → Bool
  | .strict, c => "\"\\/bfnrt".toList.contains c
  | .loose, _ => true

/-- The inside of a string after its opening quote, as written, and what follows the closing
quote. -/
def readString? (g : Grammar) : List Char → Option (List Char × List Char)
  | [] => none
  | '"' :: r => some ([], r)
  | '\\' :: 'u' :: a :: b :: c :: d :: r =>
    if (hex4? a b c d).isSome then
      (readString? g r).map fun (t, rest) => ('\\' :: 'u' :: a :: b :: c :: d :: t, rest)
    else none
  | '\\' :: 'u' :: _ => none
  | '\\' :: c :: r =>
    if g.isEscape c then (readString? g r).map fun (t, rest) => ('\\' :: c :: t, rest) else none
  | ['\\'] => none
  | c :: r => if g.isPlain c then (readString? g r).map fun (t, rest) => (c :: t, rest) else none

/-- The name of a member between its quotes, and what follows it. -/
def readName? (g : Grammar) (s : List Char) : Option (List Char × List Char) :=
  match g, s with
  | _, '"' :: r => (readString? g r).map fun (t, rest) => ('"' :: t ++ ['"'], rest)
  | .loose, 'n' :: 'u' :: 'l' :: 'l' :: r => some (['"', '"'], r)
  | _, _ => none

/-- The constant or number at the front of a text, and the rest. -/
def readConstant? (g : Grammar) (s : List Char) : Option (Json × List Char) :=
  let words := ["null".toList, "true".toList, "false".toList]
  match words.find? (·.isPrefixOf s) with
  | some w => some (.atom w, s.drop w.length)
  | none =>
    let number := s.takeWhile isNumberChar
    let begins := match s with
      | c :: _ => c == '-' || isAsciiDigit c
      | [] => false
    if begins && g.isNumber number then some (.atom number, s.drop number.length) else none

mutual

/-- The value at the front of a text, and the rest. Every call reads a character, so the length of
the text is fuel enough. -/
def readValue? (g : Grammar) : (fuel : Nat) → List Char → Option (Json × List Char)
  | 0, _ => none
  | fuel + 1, s =>
    match s with
    | '"' :: r => (readString? g r).map fun (t, rest) => (.atom ('"' :: t ++ ['"']), rest)
    | '[' :: r =>
      match skip r with
      | ']' :: rest => some (.array [], rest)
      | r => (readItems? g fuel r).map fun (items, rest) => (.array items, rest)
    | '{' :: r =>
      match skip r with
      | '}' :: rest => some (.object [], rest)
      | r => (readMembers? g fuel r).map fun (members, rest) => (.object members, rest)
    | s => readConstant? g s

/-- The items of an array up to its closing bracket. -/
def readItems? (g : Grammar) : (fuel : Nat) → List Char → Option (List Json × List Char)
  | 0, _ => none
  | fuel + 1, s =>
    match readValue? g fuel (skip s) with
    | none => none
    | some (v, r) =>
      match skip r with
      | ']' :: rest => some ([v], rest)
      | ',' :: r => (readItems? g fuel r).map fun (items, rest) => (v :: items, rest)
      | _ => none

/-- The members of an object up to its closing brace. -/
def readMembers? (g : Grammar) :
    (fuel : Nat) → List Char → Option (List (List Char × List Char × Json) × List Char)
  | 0, _ => none
  | fuel + 1, s =>
    match readName? g (skip s) with
    | none => none
    | some (name, r) =>
      match skip r with
      | ':' :: r =>
        let start := skip r
        match readValue? g fuel start with
        | none => none
        | some (v, r) =>
          let m := (name, start.take (start.length - r.length), v)
          match skip r with
          | '}' :: rest => some ([m], rest)
          | ',' :: r => (readMembers? g fuel r).map fun (members, rest) => (m :: members, rest)
          | _ => none
      | _ => none

end

/-- The structure of a whole text. -/
def read? (g : Grammar) (s : List Char) : Option Json :=
  match readValue? g (s.length + 1) (skip s) with
  | some (v, r) => if (skip r).isEmpty then some v else none
  | none => none

/-- The text of a literal between quotes. -/
def unquote (literal : List Char) : String :=
  String.ofList (decodeLiteral (literal.drop 1).dropLast)

/-- The text of a string. -/
def string? : Json → Option String
  | .atom ('"' :: r) => some (unquote ('"' :: r))
  | _ => none

/-- Is the value the constant `null`? -/
def isNull : Json → Bool
  | .atom ['n', 'u', 'l', 'l'] => true
  | _ => false

end Json

end PayloadGen
