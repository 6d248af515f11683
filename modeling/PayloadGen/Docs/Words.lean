import PayloadGen.Text.Basic

/-!
# Command lines as words

`Words.split` cuts a command line into words the way a shell does, quotes and backslashes included;
`Words.join` puts words together again so that a shell would cut them the same way.
-/

namespace PayloadGen.Words

open Text

/-- Why a command line cannot be cut. -/
inductive Fault where
  | openSingleQuote
  | openDoubleQuote
  | openEscape

/-- The wording of a fault. -/
def Fault.message : Fault → String
  | openSingleQuote => "Unterminated single-quoted string"
  | openDoubleQuote => "Unterminated double-quoted string"
  | openEscape => "Unterminated backslash-escape"

/-- Characters between words. -/
def isBlank (c : Char) : Bool :=
  c == ' ' || c == '\n' || c == '\t'

/-- Where in a command line one is. -/
inductive Mode where
  /-- Between words. -/
  | outside
  | inside
  | singleQuoted
  | doubleQuoted

/-- The words of a command line, given the word at hand, its last character first. -/
def splitFrom : Mode → (word : List Char) → List Char → Except Fault (List String)
  | .outside, _, [] => .ok []
  | .inside, word, [] => .ok [String.ofList word.reverse]
  | .singleQuoted, _, [] => .error .openSingleQuote
  | .doubleQuoted, _, [] => .error .openDoubleQuote
  | .outside, _, ['\\'] => .error .openEscape
  | .inside, _, ['\\'] => .error .openEscape
  | .outside, word, '\\' :: c :: r =>
    if c == '\n' then splitFrom .outside word r else splitFrom .inside (c :: word) r
  | .inside, word, '\\' :: c :: r => splitFrom .inside (if c == '\n' then word else c :: word) r
  | .doubleQuoted, word, '\\' :: c :: r =>
    if c == '\n' then splitFrom .doubleQuoted word r
    else if ['$', '`', '"', '\\'].contains c then splitFrom .doubleQuoted (c :: word) r
    else splitFrom .doubleQuoted (c :: '\\' :: word) r
  | mode, word, c :: r =>
    match mode with
    | .singleQuoted =>
      if c == '\'' then splitFrom .inside word r else splitFrom .singleQuoted (c :: word) r
    | .doubleQuoted =>
      if c == '"' then splitFrom .inside word r else splitFrom .doubleQuoted (c :: word) r
    | .inside =>
      if c == '\'' then splitFrom .singleQuoted word r
      else if c == '"' then splitFrom .doubleQuoted word r
      else if isBlank c then (splitFrom .outside [] r).map (String.ofList word.reverse :: ·)
      else splitFrom .inside (c :: word) r
    | .outside =>
      if c == '\'' then splitFrom .singleQuoted word r
      else if c == '"' then splitFrom .doubleQuoted word r
      else if isBlank c then splitFrom .outside word r
      else splitFrom .inside (c :: word) r

/-- The words of a command line. -/
def split (line : String) : Except Fault (List String) :=
  splitFrom .outside [] line.toList

/-- Characters that need a backslash. -/
def isSpecial (c : Char) : Bool :=
  "\\'\"`$\x7b[|&;<>()*?!".toList.contains c

/-- A word with a backslash before special characters. -/
def escaped (first : Bool) : List Char → List Char
  | [] => []
  | c :: r => (if isSpecial c || (first && c == '~') then ['\\', c] else [c]) ++ escaped false r

/-- A word between single quotes, which end before each single quote in it and begin after it. -/
def quoted (inQuote : Bool) : List Char → List Char
  | [] => if inQuote then ['\''] else []
  | c :: r =>
    if c == '\'' then (if inQuote then ['\''] else []) ++ ['\\', '\''] ++ quoted false r
    else (if inQuote then [] else ['\'']) ++ c :: quoted true r

/-- A word as a shell reads it back. -/
def quote (word : String) : String :=
  let chars := word.toList
  if chars.isEmpty then "''"
  else String.ofList (if chars.any isBlank then quoted false chars else escaped true chars)

/-- A command line. -/
def join (words : List String) : String :=
  " ".intercalate (words.map quote)

end PayloadGen.Words
