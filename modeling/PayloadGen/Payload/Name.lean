import PayloadGen.Text.Basic
import PayloadGen.Text.CaseMap
import PayloadGen.Text.Letter
import PayloadGen.Text.Utf8

/-!
# Names

How names of classes, callbacks and fields are derived from the names in a specification.
-/

namespace PayloadGen.Name

open Text

/-- Title case of a text whose preceding character is a letter or not: a letter that follows no
letter goes to upper case, any other letter to lower case. -/
def titleFrom : (afterLetter : Bool) → List Char → List Char
  | _, [] => []
  | afterLetter, c :: r =>
    let letter := isLetter c
    (if letter then (if afterLetter then lower c else upper c) else c) :: titleFrom letter r

/-- The text with every word in title case. -/
def title (s : String) : String :=
  String.ofList (titleFrom false s.toList)

/-- The name of the class of an object that is a property of another class. It holds no
underscore. -/
def nestedClass (parent property : String) : String :=
  String.ofList ((parent.toList ++ titleFrom false property.toList).filter (· != '_'))

/-- The name of the handler type of a payload class. -/
def callback (className : String) : String :=
  "_" ++ className ++ "Callable"

/-- The message that a reference names: what follows its last slash. -/
def message (ref : String) : String :=
  String.ofList (afterLast '/' ref.toList)

/-- A word with its first byte in upper case. If that byte only begins a longer character the
replacement character takes its place, and the rest of the character stays behind as stray bytes. -/
def capitalized (w : List Char) : Bytes :=
  match w with
  | [] => []
  | c :: r =>
    if c.toNat < 0x80 then utf8 (String.ofList (upper c :: r))
    else utf8 (String.ofList [replacement]) ++ (utf8 (String.ofList w)).drop 1

/-- The characters between the words of a name that is to be in Pascal case. -/
def isPascalSeparator (c : Char) : Bool :=
  c == '_' || c == '-' || c == ' ' || c == '/'

/-- The words between underscores, hyphens, blanks and slashes, capitalized and joined. -/
def pascal (s : String) : Bytes :=
  (runs isPascalSeparator s.toList).flatMap capitalized

/-- The same as `capitalized` for bytes that need not be a text. -/
def capitalizedBytes : Bytes → Bytes
  | [] => []
  | b :: r =>
    utf8 (String.ofList [if b < 0x80 then upper (Char.ofNat b.toNat) else replacement]) ++ r

/-- A piece that stands between words; a stray byte belongs to a word. -/
def isPascalSeparatorPiece : Piece → Bool
  | .char c => isPascalSeparator c
  | .stray _ => false

/-- The same as `pascal` for bytes that need not be a text. -/
def pascalBytes (s : Bytes) : Bytes :=
  (runs isPascalSeparatorPiece (decode s)).flatMap fun w => capitalizedBytes (w.flatMap Piece.bytes)

/-- The ASCII words of a text in lower case. -/
def snakeWords (s : String) : List (List Char) :=
  (runs (fun c => !isAsciiLetter c && !isAsciiDigit c) s.toList).map (·.map lower)

/-- The words with underscores between them. -/
def joined (s : String) : List Char :=
  ['_'].intercalate (snakeWords s)

/-- The ASCII words of a text in lower case, joined by underscores; an underscore goes before a
leading digit. -/
def snake (s : String) : String :=
  match joined s with
  | c :: r => String.ofList (if isAsciiDigit c then '_' :: c :: r else c :: r)
  | [] => ""

end PayloadGen.Name
