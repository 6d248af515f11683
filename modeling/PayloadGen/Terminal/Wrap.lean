import PayloadGen.Text.Basic
import PayloadGen.Text.Utf8
import PayloadGen.Text.Width

/-!
# Breaking and cutting lines

Two ways to break a text into lines of a limited width: `flow` breaks between words only, `fold`
breaks words that are too long as well. A hyphen ends a word. `truncate` cuts a line and marks the
cut.
-/

namespace PayloadGen.Terminal

open Text

/-- The columns of characters, one by one. -/
def columns (s : List Char) : Nat :=
  s.foldl (fun n c => n + charWidth c) 0

/-- A text that is being broken: what is finished, the blanks after it, and the word after them, all
with the last character first. -/
structure Breaking where
  done : List Char
  space : List Char
  word : List Char
  /-- The columns of the line that is finished. -/
  column : Nat

namespace Breaking

/-- Nothing has been read. -/
def start : Breaking := ⟨[], [], [], 0⟩

/-- The bytes of the blanks. -/
def spaceSize (b : Breaking) : Nat :=
  (utf8 (String.ofList b.space)).length

/-- The columns of the word. -/
def wordWidth (b : Breaking) : Nat :=
  columns b.word

/-- The blanks belong to the line. -/
def addSpace (b : Breaking) : Breaking :=
  { b with done := b.space ++ b.done, space := [], column := b.column + b.spaceSize }

/-- The word belongs to the line, with the blanks before it. -/
def addWord (b : Breaking) : Breaking :=
  if b.word.isEmpty then b
  else
    let width := b.wordWidth
    let b := b.addSpace
    { b with done := b.word ++ b.done, word := [], column := b.column + width }

/-- The line ends; the blanks are dropped. -/
def newline (b : Breaking) : Breaking :=
  { b with done := '\n' :: b.done, space := [], column := 0 }

/-- The blanks at the end of a line are kept if they fit. -/
def keepSpace (limit : Nat) (b : Breaking) : Breaking :=
  if !b.word.isEmpty then b
  else if limit < b.column + b.spaceSize then { b with space := [], column := 0 }
  else { b with done := b.space ++ b.done, space := [] }

end Breaking

/-- One character more of a text that is broken between words. -/
def flowStep (limit : Nat) (b : Breaking) (c : Char) : Breaking :=
  if c = '\n' then (b.keepSpace limit).addWord.newline
  else if isSpace c then
    let b := b.addWord
    { b with space := c :: b.space }
  else if c = '-' then
    let b := b.addSpace.addWord
    { b with done := c :: b.done }
  else
    let b := { b with word := c :: b.word }
    if limit < b.column + b.spaceSize + b.wordWidth && b.wordWidth < limit then b.newline else b

/-- A text broken between words. A limit of zero is no limit. -/
def flow (limit : Nat) (s : String) : String :=
  if limit = 0 then s
  else String.ofList (s.toList.foldl (flowStep limit) .start).addWord.done.reverse

/-- One character more of a text in which long words are broken. -/
def foldStep (limit : Nat) (b : Breaking) (c : Char) : Breaking :=
  let width := charWidth c
  let push (b : Breaking) : Breaking :=
    let b := if limit < b.wordWidth + width then b.addWord else b
    let b := { b with word := c :: b.word }
    if limit < b.column + b.wordWidth + b.spaceSize then b.newline else b
  if c = '\n' then (b.keepSpace limit).addWord.newline
  else if width = 0 then { b with word := c :: b.word }
  else if c = ' ' then
    let b := b.addWord
    { b with space := c :: b.space }
  else if c = '-' then
    let b := b.addSpace
    if b.column + b.wordWidth + 1 ≤ limit then
      let b := b.addWord
      { b with done := c :: b.done, column := b.column + 1 }
    else push b
  else push b

/-- A text broken between words, and in words that are too long. -/
def fold (limit : Nat) (s : String) : String :=
  if limit = 0 then s
  else String.ofList ((s.toList.foldl (foldStep limit) .start).keepSpace limit).addWord.done.reverse

/-- As many characters as fit the columns. -/
def fitting : (room : Nat) → List Char → List Char
  | _, [] => []
  | room, c :: r => if room < charWidth c then [] else c :: fitting (room - charWidth c) r

/-- A line cut to a width, with a mark at the cut. If there is no room for the mark nothing is
left. -/
def truncate (width : Int) (mark : String) (s : String) : String :=
  if (displayWidth s : Int) ≤ width then s
  else if width - displayWidth mark < 0 then ""
  else String.ofList (fitting (width - displayWidth mark).toNat s.toList) ++ mark

end PayloadGen.Terminal
