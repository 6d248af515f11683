import PayloadGen.Yaml.Error

/-!
# A place in a YAML text

A `Cursor` is what is left of a text together with the number of characters, lines and columns
before it. The classes of characters that YAML distinguishes are here as well, and so is the folding
of line breaks that quoted and plain scalars share (`BlankRun.fold`).
-/

namespace PayloadGen.Yaml

open Text

/-- A space or a tab. -/
def isBlank (c : Char) : Bool :=
  c == ' ' || c == '\t'

/-- A line break. -/
def isBreak (c : Char) : Bool :=
  c == '\n' || c == '\r' || c == '\x85' || c == '\u2028' || c == '\u2029'

/-- A character of a name. -/
def isNameChar (c : Char) : Bool :=
  isAsciiLetter c || isAsciiDigit c || c == '_' || c == '-'

/-- May the character stand in a document? -/
def isAllowed (c : Char) : Bool :=
  let n := c.toNat
  n == 9 || n == 10 || n == 13 || (0x20 ≤ n && n ≤ 0x7E) || n == 0x85 ||
    (0xA0 ≤ n && n ≤ 0xD7FF) || (0xE000 ≤ n && n ≤ 0xFFFD) || 0x10000 ≤ n

/-- Does the text end here, or go on with a blank or a line break? -/
def atGap : List Char → Bool
  | [] => true
  | c :: _ => isBlank c || isBreak c

/-- Does the line end here? -/
def atLineEnd : List Char → Bool
  | [] => true
  | c :: _ => isBreak c

/-- A place in a text. -/
structure Cursor where
  /-- What follows. -/
  rest : List Char
  /-- Characters before. -/
  index : Nat
  /-- Line breaks before. -/
  line : Nat
  /-- Characters before on the same line. -/
  column : Nat

namespace Cursor

/-- The place after `n` more characters of the line. -/
def advance (c : Cursor) (n : Nat) : Cursor :=
  { c with rest := c.rest.drop n, index := c.index + n, column := c.column + n }

/-- The place after the line break that stands here, and the text that the break counts as. -/
def takeBreak (c : Cursor) : List Char × Cursor :=
  let next (n : Nat) : Cursor := ⟨c.rest.drop n, c.index + n, c.line + 1, 0⟩
  match c.rest with
  | '\r' :: '\n' :: _ => (['\n'], next 2)
  | '\u2028' :: _ => (['\u2028'], next 1)
  | '\u2029' :: _ => (['\u2029'], next 1)
  | d :: _ => if isBreak d then (['\n'], next 1) else ([], c)
  | [] => ([], c)

/-- The place after all characters of a class. -/
def skipWhile (p : Char → Bool) (c : Cursor) : Cursor :=
  c.advance (c.rest.takeWhile p).length

/-- The place before the next line break. -/
def toLineEnd (c : Cursor) : Cursor :=
  c.skipWhile (!isBreak ·)

/-- Does a line begin here with a mark of three characters that bounds a document? -/
def atDocumentMark (c : Cursor) : Bool :=
  c.column == 0 && match c.rest with
    | '-' :: '-' :: '-' :: r => atGap r
    | '.' :: '.' :: '.' :: r => atGap r
    | _ => false

end Cursor

/-- A fault of the text. The line reported is that of the construct which is being read, or else
that of the cursor; the first line has no number. -/
def faultIn (start : Cursor) (here : Cursor) (p : Problem) : Error :=
  if start.line ≠ 0 then .malformed (some (start.line + 1)) p
  else if here.line ≠ 0 then .malformed (some (here.line + 1)) p
  else .malformed none p

/-- Blanks and line breaks between two words of a scalar. -/
structure BlankRun where
  /-- The blanks, if no line break has been met. -/
  blanks : List Char
  /-- The first line break. -/
  first : Option (List Char)
  /-- The line breaks after it. -/
  more : List Char

namespace BlankRun

/-- Nothing between two words. -/
def empty : BlankRun := ⟨[], none, []⟩

/-- What stands for the run in the scalar: a single line break becomes a space, of several the first
is dropped. -/
def fold (r : BlankRun) : List Char :=
  match r.first with
  | none => r.blanks
  | some ['\n'] => if r.more.isEmpty then [' '] else r.more
  | some b => b ++ r.more

end BlankRun

/-- The run of blanks and breaks that stands here. With `tabLimit`, a tab left of that column on a
later line is refused. -/
def Cursor.takeBlanks (tabLimit : Option Int) :
    (fuel : Nat) → BlankRun → Cursor → Option (BlankRun × Cursor)
  | 0, run, c => some (run, c)
  | fuel + 1, run, c =>
    match c.rest with
    | [] => some (run, c)
    | d :: _ =>
      if isBlank d then
        match run.first with
        | none => takeBlanks tabLimit fuel { run with blanks := run.blanks ++ [d] } (c.advance 1)
        | some _ =>
          if d == '\t' && tabLimit.any (fun n => (c.column : Int) < n) then none
          else takeBlanks tabLimit fuel run (c.advance 1)
      else if isBreak d then
        let (text, next) := c.takeBreak
        match run.first with
        | none => takeBlanks tabLimit fuel ⟨[], some text, run.more⟩ next
        | some _ => takeBlanks tabLimit fuel { run with more := run.more ++ text } next
      else some (run, c)

end PayloadGen.Yaml
