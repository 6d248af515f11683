import PayloadGen.Text.Digit
import PayloadGen.Text.Letter
import PayloadGen.Yaml.Value.Scalar

/-!
# Writing YAML

A tree of numbers, texts and mappings as a YAML document in block style, two columns further in at
each level. A text is written plainly if it then reads back as a text; otherwise it is quoted, and a
text of several lines is written as a literal block where its characters allow it.
-/

namespace PayloadGen.Yaml

open Text

/-- What is written. -/
inductive Block where
  | int (n : Int)
  | text (s : String)
  | mapping (entries : List (String × Block))

/-! ## The form of a text -/

/-- The forms of a text. -/
inductive TextForm where
  | plain
  | singleQuoted
  | doubleQuoted
  | literal
  deriving DecidableEq

/-- Characters that may stand in a document as they are. Those beyond the first plane may not. -/
def isWritable (c : Char) : Bool :=
  let n := c.toNat
  n == 0x0A || (0x20 ≤ n && n ≤ 0x7E) ||
    (0xA0 ≤ n && n < 0x10000 && n != 0xFEFF && n != 0xFFFE && n != 0xFFFF)

/-- Characters that end a line. -/
def endsLine (c : Char) : Bool :=
  c == '\n' || c == '\r' || c == '\u0085' || c == '\u2028' || c == '\u2029'

/-- Does a text hold a mark of the block structure, given what stands before? -/
def hasMark (first : Bool) (afterBlank : Bool) : List Char → Bool
  | [] => false
  | c :: r =>
    let beforeBlank := match r with
      | [] => true
      | d :: _ => d == ' ' || d == '\t'
    let here :=
      if first then
        "#,[]\x7b\x7d&*!|>'\"%@`".toList.contains c ||
          ((c == '?' || c == ':' || c == '-') && beforeBlank)
      else (c == ':' && beforeBlank) || (c == '#' && afterBlank)
    here || hasMark false (c == ' ' || c == '\t' || endsLine c || c == '\x00') r

/-- Is there a character of one kind right before one of another? -/
def hasPair (p q : Char → Bool) : List Char → Bool
  | a :: b :: r => (p a && q b) || hasPair p q (b :: r)
  | _ => false

/-- Is the last character of a kind? -/
def endsIn (p : Char → Bool) (s : List Char) : Bool :=
  s.getLast?.any p

/-- Is the first character of a kind? -/
def beginsIn (p : Char → Bool) (s : List Char) : Bool :=
  s.head?.any p

/-- Does a text hold characters that only double quotes can express? -/
def needsEscape (s : List Char) : Bool :=
  s.any (fun c => c != '\t' && !isWritable c) || hasPair (· == ' ') endsLine s

/-- May a text be written plainly as far as its characters are concerned? -/
def allowsPlain (s : List Char) : Bool :=
  let edge (c : Char) : Bool := c == ' ' || endsLine c
  !(beginsIn edge s || endsIn edge s || s.any endsLine || s.contains '\t' || needsEscape s ||
    hasMark true true s || ['-', '-', '-'].isPrefixOf s || ['.', '.', '.'].isPrefixOf s)

/-- May a text be written between single quotes? -/
def allowsSingle (s : List Char) : Bool :=
  !(hasPair endsLine (· == ' ') s || s.contains '\t' || needsEscape s)

/-- May a text be written as a literal block? -/
def allowsLiteral (s : List Char) : Bool :=
  !(s.isEmpty || endsIn (· == ' ') s || needsEscape s)

/-- One or two digits of base sixty. -/
def sexagesimalTail : (fuel : Nat) → List Char → Bool
  | 0, _ => false
  | fuel + 1, ':' :: a :: b :: r =>
    let next (rest : List Char) : Bool := match rest with
      | [] => true
      | '.' :: f => f.all fun c => isAsciiDigit c || c == '_'
      | rest => sexagesimalTail fuel rest
    ('0' ≤ a && a ≤ '5' && isAsciiDigit b && next r) || (isAsciiDigit a && next (b :: r))
  | _, [':', a] => isAsciiDigit a
  | _, _ => false

/-- Does a text look like a number of base sixty, which some readers know? -/
def isSexagesimal (s : List Char) : Bool :=
  let digits := match s with
    | '+' :: r | '-' :: r => r
    | r => r
  beginsIn isAsciiDigit digits &&
    sexagesimalTail digits.length (digits.dropWhile fun c => isAsciiDigit c || c == '_')

/-- Words that some readers take for truth values. -/
def isTruthWord (s : String) : Bool :=
  ["y", "Y", "yes", "Yes", "YES", "on", "On", "ON", "n", "N", "no", "No", "NO", "off", "Off",
    "OFF"].contains s

/-- Does a text without quotes read back as a text? -/
def readsAsText (s : String) : Bool :=
  impliedTag s true == "!!str" && !isSexagesimal s.toList && !isTruthWord s

/-- The form that a text is written in. On one line with what follows it, as a key, it must not be a
block. -/
def formOf (s : String) : TextForm :=
  let chars := s.toList
  if chars.contains '\n' then (if allowsLiteral chars then .literal else .doubleQuoted)
  else if !readsAsText s then .doubleQuoted
  else if allowsPlain chars then .plain
  else if allowsSingle chars then .singleQuoted
  else .doubleQuoted

/-! ## The text in its form -/

/-- A character between double quotes. -/
def escapedChar (c : Char) : List Char :=
  let code (mark : Char) (width : Nat) : List Char :=
    '\\' :: mark :: (hex width c.toNat).map Char.toUpper
  if isWritable c && !endsLine c && c != '"' && c != '\\' then [c]
  else match c with
    | '\x00' => ['\\', '0']
    | '\x07' => ['\\', 'a']
    | '\x08' => ['\\', 'b']
    | '\t' => ['\\', 't']
    | '\n' => ['\\', 'n']
    | '\x0b' => ['\\', 'v']
    | '\x0c' => ['\\', 'f']
    | '\r' => ['\\', 'r']
    | '\x1b' => ['\\', 'e']
    | '"' => ['\\', '"']
    | '\\' => ['\\', '\\']
    | '\u0085' => ['\\', 'N']
    | '\u2028' => ['\\', 'L']
    | '\u2029' => ['\\', 'P']
    | c =>
      if c.toNat ≤ 0xFF then code 'x' 2 else if c.toNat ≤ 0xFFFF then code 'u' 4 else code 'U' 8

/-- Blanks up to a column. -/
def margin (indent : Nat) : List Char :=
  List.replicate indent ' '

/-- The characters of a text between single quotes; after the end of a line the next one is
indented. -/
def singleQuotedFrom (indent : Nat) (afterBreak : Bool) : List Char → List Char
  | [] => []
  | c :: r =>
    if endsLine c then c :: singleQuotedFrom indent true r
    else
      (if afterBreak && c != ' ' then margin indent else []) ++
        (if c == '\'' then ['\'', '\''] else [c]) ++ singleQuotedFrom indent
          (afterBreak && c == ' ') r

/-- The lines of a literal block, those that are not empty indented. -/
def literalFrom (indent : Nat) (atStart : Bool) : List Char → List Char
  | [] => []
  | c :: r =>
    if endsLine c then c :: literalFrom indent true r
    else (if atStart then margin indent else []) ++ c :: literalFrom indent false r

/-- The marks after the bar of a literal block: its indentation if it cannot be seen, and what is
done about the line ends at its end. -/
def literalMarks (s : List Char) : List Char :=
  let indentation := if beginsIn (fun c => c == ' ' || endsLine c) s then ['2'] else []
  let ends := match s.reverse with
    | a :: b :: _ => if !endsLine a then ['-'] else if endsLine b then ['+'] else []
    | [a] => if endsLine a then ['+'] else ['-']
    | [] => ['-']
  indentation ++ ends

/-- A text in its form; further lines of it are indented. -/
def writeText (indent : Nat) (s : String) : List Char :=
  let chars := s.toList
  match formOf s with
  | .plain => chars
  | .singleQuoted => '\'' :: singleQuotedFrom indent false chars ++ ['\'']
  | .doubleQuoted => '"' :: chars.flatMap escapedChar ++ ['"']
  | .literal => '|' :: literalMarks chars ++ '\n' :: literalFrom indent true chars

/-! ## Documents -/

/-- A text stands on one line with its value only if it is short and has no line ends. -/
def isSimpleKey (s : String) : Bool :=
  s.utf8ByteSize ≤ 128 && !s.toList.any endsLine

/-- What ends the line, unless a literal block has ended it. -/
def lineEnd (written : List Char) : List Char :=
  if written.getLast? == some '\n' then [] else ['\n']

mutual

/-- What follows the colon after a key. -/
def writeValue (indent : Nat) : Block → List Char
  | .int n => ' ' :: (ofInt n).toList ++ ['\n']
  | .text s =>
    let t := writeText (indent + 2) s
    ' ' :: t ++ lineEnd t
  | .mapping entries =>
    if entries.isEmpty then " \x7b\x7d\n".toList else '\n' :: writeEntries (indent + 2) entries

/-- The entries of a mapping. -/
def writeEntries (indent : Nat) : List (String × Block) → List Char
  | [] => []
  | (key, value) :: r =>
    let k := writeText (indent + 2) key
    let head :=
      if isSimpleKey key then margin indent ++ k ++ [':']
      else margin indent ++ '?' :: ' ' :: k ++ lineEnd k ++ margin indent ++ [':']
    head ++ writeValue indent value ++ writeEntries indent r

end

/-- A document that is a mapping. -/
def writeDocument (entries : List (String × Block)) : String :=
  String.ofList (writeEntries 0 entries)

/-! ## The order of keys -/

/-- The number that digits denote, after a digit that stood before them. -/
def digitRun (start : Int) (s : List Char) : Int :=
  (s.takeWhile isDigit).foldl (fun n c =>
    Int.bmod (n * 10 + ((c.toNat : Int) - 48)) 0x10000000000000000) start

/-- The order of the keys of a mapping: runs of digits by their value, and letters after other
characters, except after a digit. `before` holds the common front, its last character first. -/
def keyLess (before : List Char) : List Char → List Char → Bool
  | a :: r, b :: s =>
    if a == b then keyLess (a :: before) r s
    else
      let afterDigit := beginsIn isDigit before
      if isLetter a && isLetter b then a < b
      else if isLetter a || isLetter b then (if afterDigit then isLetter a else isLetter b)
      else
        let start : Int :=
          if (a == '0' || b == '0') && (before.takeWhile isDigit).any (· != '0') then 1 else 0
        let m := digitRun start (a :: r)
        let n := digitRun start (b :: s)
        let i := ((a :: r).takeWhile isDigit).length
        let j := ((b :: s).takeWhile isDigit).length
        if m != n then m < n else if i != j then i < j else a < b
  | r, s => r.length < s.length

/-- Entries in the order of their keys. -/
def sortEntries {α : Type} (entries : List (String × α)) : List (String × α) :=
  entries.mergeSort fun a b => !keyLess [] b.1.toList a.1.toList

end PayloadGen.Yaml
