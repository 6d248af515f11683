import PayloadGen.Text.Letter
import PayloadGen.Text.Digit
import PayloadGen.Text.Utf8
import PayloadGen.Text.Basic

/-!
# Tokens of a template

A template is text with actions between double braces. `Token.scan` cuts it into tokens. A dash
inside a brace, with a blank next to it, takes the white space on that side out of the text around
the action.
-/

namespace PayloadGen.Template

open Text

/-- What can be wrong with a template. -/
inductive Fault where
  | unclosedAction
  | unclosedComment
  | unclosedQuote
  | unbalancedParen
  | badCharacter
  | badNumber
  | badString
  | unexpectedToken
  | unexpectedEnd
  | emptyPipeline
  | emptyCommand
  | notExecutable
  | outsideRange
  | undefinedFunction (name : String)
  | undefinedVariable (name : String)
  | undefinedTemplate (name : String)
  | repeatedDefinition (name : String)
  | tooDeep
  | argumentCount
  | argumentType
  | notAFunction
  | nilCommand
  | noField (name : String)
  | notIterable
  | badIndex
  | badComparison
  deriving DecidableEq

/-- The wording of a fault. -/
def Fault.message : Fault → String
  | unclosedAction => "unclosed action"
  | unclosedComment => "unclosed comment"
  | unclosedQuote => "unterminated quoted string"
  | unbalancedParen => "unclosed left paren"
  | badCharacter => "unrecognized character in action"
  | badNumber => "bad number syntax"
  | badString => "invalid syntax"
  | unexpectedToken => "unexpected token"
  | unexpectedEnd => "unexpected EOF"
  | emptyPipeline => "missing value for command"
  | emptyCommand => "empty command"
  | notExecutable => "non executable command in pipeline"
  | outsideRange => "outside range"
  | undefinedFunction name => "function \"" ++ name ++ "\" not defined"
  | undefinedVariable name => "undefined variable \"" ++ name ++ "\""
  | undefinedTemplate name => "template \"" ++ name ++ "\" not defined"
  | repeatedDefinition name => "multiple definition of template \"" ++ name ++ "\""
  | tooDeep => "exceeded maximum template depth"
  | argumentCount => "wrong number of args"
  | argumentType => "wrong type for value"
  | notAFunction => "can't give argument to non-function"
  | nilCommand => "nil is not a command"
  | noField name => "can't evaluate field " ++ name
  | notIterable => "range can't iterate over value"
  | badIndex => "index out of range"
  | badComparison => "incompatible types for comparison"

/-- A token. -/
inductive Token where
  /-- Text outside actions. -/
  | text (s : List Char)
  | leftBraces
  | rightBraces
  | space
  | assign
  | declare
  | bar
  | leftParen
  | rightParen
  | mark (c : Char)
  | dot
  | field (name : String)
  | variable (name : String)
  | word (name : String)
  | number (s : List Char)
  /-- A character constant without its quotes. -/
  | character (s : List Char)
  /-- A string without its quotes. -/
  | string (s : List Char)
  | rawString (s : List Char)
  deriving DecidableEq

namespace Token

/-- The white space that actions know. -/
def isBlank (c : Char) : Bool :=
  c == ' ' || c == '\t' || c == '\r' || c == '\n'

/-- A character of a name. -/
def isNameChar (c : Char) : Bool :=
  c == '_' || isLetter c || isDigit c

/-- Does the text begin with closing braces? With a dash before them, `some true`. -/
def closing? : List Char → Option Bool
  | '}' :: '}' :: _ => some false
  | c :: '-' :: '}' :: '}' :: _ => if isBlank c then some true else none
  | _ => none

/-- The text after closing braces. -/
def afterClosing (trims : Bool) (s : List Char) : List Char :=
  if trims then (s.drop 4).dropWhile isBlank else s.drop 2

/-- May a name end before this text? -/
def endsName : List Char → Bool
  | [] => true
  | c :: r =>
    isBlank c || ['.', ',', '|', ':', ')', '('].contains c || (c == '}' && r.head? == some '}')

/-- The inside of a quoted text up to the closing quote, escapes as written, and the rest. -/
def quoted? (q : Char) : List Char → Option (List Char × List Char)
  | [] => none
  | '\\' :: c :: r =>
    if c == '\n' then none else (quoted? q r).map fun (s, rest) => ('\\' :: c :: s, rest)
  | c :: r =>
    if c == q then some ([], r)
    else if c == '\n' then none
    else (quoted? q r).map fun (s, rest) => (c :: s, rest)

/-- The length of a number at the front of a text. -/
def numberLength (s : List Char) : Nat :=
  let digits10 (c : Char) := isAsciiDigit c || c == '_'
  let (sign, r) := match s with
    | '+' :: r => (1, r)
    | '-' :: r => (1, r)
    | r => (0, r)
  let (lead, isDigitOf, isTen, isSixteen) : Nat × (Char → Bool) × Bool × Bool := match r with
    | '0' :: c :: _ =>
      if c == 'x' || c == 'X' then (2, fun c => (hexValue? c).isSome || c == '_', false, true)
      else if c == 'o' || c == 'O' then (2, fun c => ('0' ≤ c && c ≤ '7') || c == '_', false, false)
      else if c == 'b' || c == 'B' then (2, fun c => c == '0' || c == '1' || c == '_', false, false)
      else (1, digits10, true, false)
    | '0' :: _ => (1, digits10, true, false)
    | _ => (0, digits10, true, false)
  let r := r.drop lead
  let whole := (r.takeWhile isDigitOf).length
  let r := r.drop whole
  let fraction := match r with
    | '.' :: t => 1 + (t.takeWhile isDigitOf).length
    | _ => 0
  let r := r.drop fraction
  let exponent := match r with
    | c :: t =>
      if (isTen && (c == 'e' || c == 'E')) || (isSixteen && (c == 'p' || c == 'P')) then
        match t with
        | d :: u =>
          if d == '+' || d == '-' then 2 + (u.takeWhile digits10).length
          else 1 + (t.takeWhile digits10).length
        | [] => 1
      else 0
    | [] => 0
  sign + lead + whole + fraction + exponent

/-- The token at the front of the inside of an action, and the rest. -/
def next (s : List Char) : Except Fault (Token × List Char) :=
  match s with
  | [] => .error .unclosedAction
  | c :: r =>
    if isBlank c then
      let blanks := (c :: r).takeWhile isBlank
      let rest := (c :: r).drop blanks.length
      -- The last blank may belong to closing braces with a dash.
      if 1 < blanks.length && (closing? (blanks.getLast?.toList ++ rest)).isSome then
        .ok (.space, blanks.getLast?.toList ++ rest)
      else .ok (.space, rest)
    else if c == '=' then .ok (.assign, r)
    else if c == ':' then
      match r with
      | '=' :: r => .ok (.declare, r)
      | _ => .error .badCharacter
    else if c == '|' then .ok (.bar, r)
    else if c == '"' then
      match quoted? '"' r with
      | some (t, rest) => .ok (.string t, rest)
      | none => .error .unclosedQuote
    else if c == '\'' then
      match quoted? '\'' r with
      | some (t, rest) => .ok (.character t, rest)
      | none => .error .unclosedQuote
    else if c == '`' then
      match cut? '`' r with
      | some (t, rest) => .ok (.rawString t, rest)
      | none => .error .unclosedQuote
    else if c == '(' then .ok (.leftParen, r)
    else if c == ')' then .ok (.rightParen, r)
    else if c == '$' || (c == '.' && !(r.head?.any isAsciiDigit)) then
      let name := r.takeWhile isNameChar
      let rest := r.drop name.length
      if !endsName rest then .error .badCharacter
      else if c == '$' then .ok (.variable (String.ofList ('$' :: name)), rest)
      else if name.isEmpty then .ok (.dot, rest)
      else .ok (.field (String.ofList name), rest)
    else if c == '+' || c == '-' || c == '.' || isAsciiDigit c then
      let n := numberLength s
      let rest := s.drop n
      if n == 0 || rest.head?.any isNameChar then .error .badNumber
      else .ok (.number (s.take n), rest)
    else if isNameChar c then
      let name := s.takeWhile isNameChar
      let rest := s.drop name.length
      if endsName rest then .ok (.word (String.ofList name), rest) else .error .badCharacter
    else if 0x20 < c.toNat && c.toNat < 0x7F then .ok (.mark c, r)
    else .error .badCharacter

/-- The tokens of an action up to its closing braces, and the text after them. -/
def action : (fuel : Nat) → (parens : Nat) → List Char → Except Fault (List Token × List Char)
  | 0, _, _ => .error .unclosedAction
  | fuel + 1, parens, s =>
    match closing? s with
    | some trims =>
      if parens == 0 then .ok ([.rightBraces], afterClosing trims s) else .error .unbalancedParen
    | none => do
      let (t, rest) ← next s
      let parens ← match t with
        | .leftParen => pure (parens + 1)
        | .rightParen => if parens == 0 then throw .unbalancedParen else pure (parens - 1)
        | _ => pure parens
      let (ts, rest) ← action fuel parens rest
      return (t :: ts, rest)

/-- The text after a comment, which must fill its action. -/
def afterComment (s : List Char) : Except Fault (List Char) :=
  let rec skip : List Char → Option (List Char)
    | '*' :: '/' :: r => some r
    | _ :: r => skip r
    | [] => none
  match skip s with
  | none => .error .unclosedComment
  | some r =>
    match closing? r with
    | some trims => .ok (afterClosing trims r)
    | none => .error .unclosedComment

/-- The text before opening braces, and what follows them. -/
def untilOpen : List Char → List Char × Option (List Char)
  | '{' :: '{' :: r => ([], some r)
  | c :: r =>
    let (t, rest) := untilOpen r
    (c :: t, rest)
  | [] => ([], none)

/-- The tokens of a template. -/
def scanFrom : (fuel : Nat) → List Char → Except Fault (List Token)
  | 0, _ => .ok []
  | fuel + 1, s =>
    match untilOpen s with
    | (lead, none) => .ok (if lead.isEmpty then [] else [.text lead])
    | (lead, some r) => do
      let trims := match r with
        | '-' :: c :: _ => isBlank c
        | _ => false
      let lead := if trims then trimRightWhere isBlank lead else lead
      let before := if lead.isEmpty then [] else [Token.text lead]
      let r := if trims then r.drop 2 else r
      match r with
      | '/' :: '*' :: r =>
        let rest ← afterComment r
        return before ++ (← scanFrom fuel rest)
      | r =>
        let (ts, rest) ← action (r.length + 1) 0 r
        return before ++ .leftBraces :: ts ++ (← scanFrom fuel rest)

/-- The tokens of a template. -/
def scan (s : String) : Except Fault (List Token) :=
  scanFrom (s.length + 1) s.toList

end Token

end PayloadGen.Template
