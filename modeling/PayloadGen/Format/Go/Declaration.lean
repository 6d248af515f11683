import PayloadGen.Text.Basic
import PayloadGen.Text.Digit
import PayloadGen.Text.Letter

/-!
# Field declarations of Go structs

Names and types of a generated struct come from a specification and may be any text. This module
reads them as the language does: `declarations?` gives the declarations that the text of one field
amounts to, or none if the text is no Go.
-/

namespace PayloadGen.Format.Go

open Text

/-- The words that are no identifiers. -/
def keywords : List String :=
  ["break", "case", "chan", "const", "continue", "default", "defer", "else", "fallthrough",
    "for", "func", "go", "goto", "if", "import", "interface", "map", "package", "range", "return",
    "select", "struct", "switch", "type", "var"]

/-- Does the character begin an identifier? -/
def isNameStart (c : Char) : Bool :=
  c == '_' || isLetter c

/-- May the character follow in an identifier? -/
def isNamePart (c : Char) : Bool :=
  isNameStart c || isDigit c

/-- What a declaration consists of. -/
inductive Token where
  | name (s : String)
  | number (s : String)
  | mark (c : Char)
  /-- A line break; `hard` if it is written as a semicolon. -/
  | line (hard : Bool)
  deriving DecidableEq

/-- Blanks inside a line. -/
def isBlank (c : Char) : Bool :=
  c == ' ' || c == '\t' || c == '\r'

/-- The tokens of a text, if all its characters have a place in declarations. -/
def tokens? : (fuel : Nat) → List Char → Option (List Token)
  | 0, _ => none
  | _ + 1, [] => some []
  | fuel + 1, c :: r =>
    if isBlank c then tokens? fuel r
    else if c == '\n' then (tokens? fuel r).map (.line false :: ·)
    else if c == ';' then (tokens? fuel r).map (.line true :: ·)
    else if isNameStart c then
      let word := String.ofList (c :: r.takeWhile isNamePart)
      if keywords.contains word then none
      else (tokens? fuel (r.dropWhile isNamePart)).map (.name word :: ·)
    else if isAsciiDigit c then
      let digits := String.ofList (c :: r.takeWhile isAsciiDigit)
      (tokens? fuel (r.dropWhile isAsciiDigit)).map (.number digits :: ·)
    else if "*[],.-".toList.contains c then (tokens? fuel r).map (.mark c :: ·)
    else none

/-- Does a line end after this token? -/
def Token.endsLine : Token → Bool
  | .name _ | .number _ | .mark ']' | .line _ => true
  | _ => false

/-- The tokens of a text by lines; a line break inside an unfinished line is dropped. The number of
a line is that of the line breaks in front of it. -/
def lines (current : List Token) (breaks : Nat) : List Token → List (Nat × List Token)
  | [] => if current.isEmpty then [] else [(breaks, current.reverse)]
  | .line hard :: r =>
    match current with
    | [] => lines [] (breaks + 1) r
    | t :: _ =>
      if hard || t.endsLine then (breaks, current.reverse) :: lines [] 1 r
      else lines current breaks r
  | t :: r => lines (t :: current) breaks r

/-- A type at the front of a list of tokens, spelled without blanks, and the rest. -/
def readType? : (fuel : Nat) → List Token → Option (String × List Token)
  | 0, _ => none
  | _ + 1, .name a :: .mark '.' :: .name b :: r => some (a ++ "." ++ b, r)
  | _ + 1, .name a :: r => some (a, r)
  | fuel + 1, .mark '*' :: r => (readType? fuel r).map fun (t, rest) => ("*" ++ t, rest)
  | fuel + 1, .mark '[' :: .mark ']' :: r =>
    (readType? fuel r).map fun (t, rest) => ("[]" ++ t, rest)
  | fuel + 1, .mark '[' :: .mark '-' :: .number n :: .mark ']' :: r =>
    (readType? fuel r).map fun (t, rest) => ("[-" ++ n ++ "]" ++ t, rest)
  | fuel + 1, .mark '[' :: .number n :: .mark ']' :: r
  | fuel + 1, .mark '[' :: .name n :: .mark ']' :: r =>
    (readType? fuel r).map fun (t, rest) => ("[" ++ n ++ "]" ++ t, rest)
  | _, _ => none

/-- The type that a whole list of tokens spells. -/
def wholeType? (ts : List Token) : Option String :=
  match readType? (ts.length + 1) ts with
  | some (t, []) => some t
  | _ => none

/-- A declaration: the declared names (none for an embedded type) and the type. -/
structure Declaration where
  names : List String
  type : String

/-- Further names of a declaration, each after a comma, and the rest. -/
def readNames : List Token → List String × List Token
  | .mark ',' :: .name n :: r =>
    let (ns, rest) := readNames r
    (n :: ns, rest)
  | r => ([], r)

/-- The declaration that a line holds. -/
def declaration? : List Token → Option Declaration
  | [.name n] => some ⟨[], n⟩
  | [.name a, .mark '.', .name b] => some ⟨[], a ++ "." ++ b⟩
  | [.mark '*', .name n] => some ⟨[], "*" ++ n⟩
  | [.mark '*', .name a, .mark '.', .name b] => some ⟨[], "*" ++ a ++ "." ++ b⟩
  | .name n :: r =>
    let (ns, rest) := readNames r
    (wholeType? rest).map fun t => ⟨n :: ns, t⟩
  | _ => none

/-- The declarations in the text of a field, each with the number of line breaks in front of it. -/
def declarations? (text : String) : Option (List (Nat × Declaration)) := do
  let ts ← tokens? (text.toList.length + 1) text.toList
  let ls := lines [] 1 ts
  if ls.isEmpty then none else ls.mapM fun (n, l) => (declaration? l).map (n, ·)

/-- The tokens of a text from its first line with something on it. -/
def leadingTokens? (text : String) : Option (List Token) :=
  tokens? (text.toList.length + 1) (text.toList.dropWhile fun c => isBlank c || c == '\n')

/-- The identifier that a text amounts to, if a declaration goes on behind it. A line break there
would end the declaration. -/
def identifier? (text : String) : Option String :=
  match leadingTokens? text with
  | some [.name n] => some n
  | _ => none

/-- The package that a text names. A semicolon may end the clause, and line breaks may follow. -/
def packageName? (text : String) : Option String :=
  match leadingTokens? text with
  | some [.name n] => some n
  | some (.name n :: .line _ :: r) => if r.all (· == .line false) then some n else none
  | _ => none

/-- The type that a text on one line spells. -/
def type? (text : String) : Option String :=
  (tokens? (text.toList.length + 1) text.toList).bind wholeType?

end PayloadGen.Format.Go
