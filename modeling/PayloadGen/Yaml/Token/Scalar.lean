import PayloadGen.Yaml.Token.Cursor

/-!
# Scalars of a YAML text

Readers of the three ways to write a scalar: indented blocks (`blockScalar`), quoted text
(`quotedScalar`) and plain text (`plainScalar`). Each takes the cursor at its first character and
gives the text and the cursor after it.
-/

namespace PayloadGen.Yaml

open Text

/-! ## Blocks -/

/-- The empty lines that stand here, and the cursor at the first line with text. The indentation of
a block is known, or found from the deepest of these lines; `outer` is that of the surrounding
collection. -/
def blockBreaks (start : Cursor) (outer : Int) :
    (fuel : Nat) → (indent : Nat) → (deepest : Nat) → (breaks : List Char) → Cursor →
      Except Error (Nat × List Char × Cursor)
  | 0, indent, _, breaks, c => .ok (indent, breaks, c)
  | fuel + 1, indent, deepest, breaks, c =>
    let spaces := (c.rest.takeWhile (· == ' ')).length
    let c := c.advance (if indent == 0 then spaces else min spaces (indent - c.column))
    let deepest := max deepest c.column
    let isShallow := indent == 0 || c.column < indent
    match c.rest with
    | '\t' :: _ => if isShallow then .error (faultIn start c .blockTab) else .ok (indent, breaks, c)
    | d :: _ =>
      if isBreak d then
        let (text, next) := c.takeBreak
        blockBreaks start outer fuel indent deepest (breaks ++ text) next
      else .ok (found indent deepest, breaks, c)
    | [] => .ok (found indent deepest, breaks, c)
where
  /-- The indentation of the block. -/
  found (indent deepest : Nat) : Nat :=
    if indent == 0 then max (max deepest (outer + 1).toNat) 1 else indent

/-- The lines of a block. `lead` is the break before the next line, `breaks` the empty lines before
it, and `indented` says whether the line before began with a blank. -/
def blockLines (start : Cursor) (outer : Int) (isLiteral : Bool) (indent : Nat) :
    (fuel : Nat) → (text lead breaks : List Char) → (indented : Bool) → Cursor →
      Except Error (List Char × List Char × List Char × Cursor)
  | 0, text, lead, breaks, _, c => .ok (text, lead, breaks, c)
  | fuel + 1, text, lead, breaks, indented, c =>
    if c.column == indent && !c.rest.isEmpty then do
      let blank := match c.rest with
        | d :: _ => isBlank d
        | [] => false
      let joint :=
        if !isLiteral && !indented && !blank && lead.head? == some '\n' then
          if breaks.isEmpty then [' '] else []
        else lead
      let line := c.rest.takeWhile (!isBreak ·)
      let (lead', next) := c.toLineEnd.takeBreak
      let (_, breaks', next) ← blockBreaks start outer (next.rest.length + 1) indent 0 [] next
      blockLines start outer isLiteral indent fuel (text ++ joint ++ breaks ++ line) lead'
        breaks' blank next
    else .ok (text, lead, breaks, c)

/-- What happens to the line breaks at the end of a block. -/
inductive Chomp where
  | strip
  | clip
  | keep

/-- The chomping sign that stands here. -/
def chompSign? : List Char → Option Chomp
  | '+' :: _ => some .keep
  | '-' :: _ => some .strip
  | _ => none

/-- The header of a block: how it is chomped, the indentation it asks for, and the cursor after
it. -/
def blockHeader (start c : Cursor) : Except Error (Chomp × Nat × Cursor) :=
  let digit? (c : Cursor) : Except Error (Nat × Cursor) :=
    match c.rest with
    | d :: _ =>
      if d == '0' then .error (faultIn start c .zeroIndent)
      else if isAsciiDigit d then .ok (d.toNat - 48, c.advance 1) else .ok (0, c)
    | [] => .ok (0, c)
  match chompSign? c.rest with
  | some chomp => do
    let (n, c) ← digit? (c.advance 1)
    return (chomp, n, c)
  | none => do
    let (n, next) ← digit? c
    if n == 0 then return (.clip, 0, next)
    match chompSign? next.rest with
    | some chomp => return (chomp, n, next.advance 1)
    | none => return (.clip, n, next)

/-- The block that begins here with its indicator. -/
def blockScalar (outer : Int) (isLiteral : Bool) (start : Cursor) :
    Except Error (List Char × Cursor) := do
  let (chomp, increment, c) ← blockHeader start (start.advance 1)
  let c := c.skipWhile isBlank
  let c := if c.rest.head? == some '#' then c.toLineEnd else c
  if !atLineEnd c.rest then throw (faultIn start c .blockHeader)
  let c := c.takeBreak.2
  let given := if increment == 0 then 0 else (max outer 0).toNat + increment
  let fuel := c.rest.length + 1
  let (indent, breaks, c) ← blockBreaks start outer fuel given 0 [] c
  let (text, lead, breaks, c) ← blockLines start outer isLiteral indent fuel [] [] breaks false c
  return match chomp with
    | .strip => (text, c)
    | .clip => (text ++ lead, c)
    | .keep => (text ++ lead ++ breaks, c)

/-! ## Quoted text -/

/-- The character of a one-letter escape. -/
def escape? : Char → Option Char
  | '0' => some '\x00'
  | 'a' => some '\x07'
  | 'b' => some '\x08'
  | 't' | '\t' => some '\t'
  | 'n' => some '\n'
  | 'v' => some '\x0b'
  | 'f' => some '\x0c'
  | 'r' => some '\r'
  | 'e' => some '\x1b'
  | ' ' => some ' '
  | '"' => some '"'
  | '\'' => some '\''
  | '\\' => some '\\'
  | 'N' => some '\x85'
  | '_' => some '\xa0'
  | 'L' => some '\u2028'
  | 'P' => some '\u2029'
  | _ => none

/-- The number of hexadecimal digits that an escape letter takes. -/
def escapeWidth? : Char → Option Nat
  | 'x' => some 2
  | 'u' => some 4
  | 'U' => some 8
  | _ => none

/-- The character at the front of double-quoted text after a backslash, and the characters it
takes. -/
def escaped (start c : Cursor) (letter : Char) (r : List Char) : Except Error (Char × Nat) :=
  match escape? letter with
  | some d => .ok (d, 2)
  | none =>
    match escapeWidth? letter with
    | none => .error (faultIn start c .quotedEscape)
    | some width =>
      match (r.take width).mapM hexValue? with
      | none => .error (faultIn start c .quotedHex)
      | some digits =>
        let code := digits.foldl (fun n d => 16 * n + d) 0
        if digits.length < width then .error (faultIn start c .quotedHex)
        else if (0xD800 ≤ code && code ≤ 0xDFFF) || 0x10FFFF < code then
          .error (faultIn start c .quotedCode)
        else .ok (Char.ofNat code, 2 + width)

/-- The characters up to the next blank, break or closing quote. The second component says whether a
line break after a backslash ended them. -/
def quotedWord (isDouble : Bool) (start : Cursor) :
    (fuel : Nat) → (text : List Char) → Cursor → Except Error (List Char × Bool × Cursor)
  | 0, text, c => .ok (text, false, c)
  | fuel + 1, text, c =>
    if atGap c.rest then .ok (text, false, c)
    else match isDouble, c.rest with
      | false, '\'' :: '\'' :: _ => quotedWord isDouble start fuel (text ++ ['\'']) (c.advance 2)
      | false, '\'' :: _ => .ok (text, false, c)
      | true, '"' :: _ => .ok (text, false, c)
      | true, '\\' :: d :: r =>
        if isBreak d then .ok (text, true, (c.advance 1).takeBreak.2)
        else do
          let (e, n) ← escaped start c d r
          quotedWord isDouble start fuel (text ++ [e]) (c.advance n)
      | true, ['\\'] => .error (faultIn start c .quotedEscape)
      | _, d :: _ => quotedWord isDouble start fuel (text ++ [d]) (c.advance 1)
      | _, [] => .ok (text, false, c)

/-- The inside of quoted text up to its closing quote, and the cursor after that. -/
def quotedText (isDouble : Bool) (start : Cursor) :
    (fuel : Nat) → (text : List Char) → Cursor → Except Error (List Char × Cursor)
  | 0, _, c => .error (faultIn start c .quotedEnd)
  | fuel + 1, text, c => do
    if c.atDocumentMark then throw (faultIn start c .quotedIndicator)
    if c.rest.isEmpty then throw (faultIn start c .quotedEnd)
    let (text, broken, c) ← quotedWord isDouble start (c.rest.length + 1) text c
    if c.rest.head? == some (if isDouble then '"' else '\'') then return (text, c.advance 1)
    let run := if broken then ⟨[], some [], []⟩ else BlankRun.empty
    match c.takeBlanks none (c.rest.length + 1) run with
    | some (run, c) => quotedText isDouble start fuel (text ++ run.fold) c
    | none => throw (faultIn start c .quotedEnd)

/-- The quoted text that begins here with its quote. -/
def quotedScalar (isDouble : Bool) (start : Cursor) : Except Error (List Char × Cursor) :=
  quotedText isDouble start (start.rest.length + 1) [] (start.advance 1)

/-! ## Plain text -/

/-- Does a plain scalar end before this character? A colon ends it before a gap; inside brackets the
marks of collections end it as well. -/
def endsPlain (inFlow : Bool) (c : Char) (r : List Char) : Bool :=
  isBlank c || isBreak c || (c == ':' && atGap r) || (inFlow && ",?[]\x7b\x7d".toList.contains c)

/-- The characters of a plain scalar up to the next gap or mark. -/
def plainWord (inFlow : Bool) : List Char → List Char
  | [] => []
  | c :: r => if endsPlain inFlow c r then [] else c :: plainWord inFlow r

/-- The rest of a plain scalar. `run` is the gap before the cursor; it counts only if a word
follows. The last component says whether the scalar is followed by a line break. -/
def plainText (inFlow : Bool) (indent : Int) (start : Cursor) :
    (fuel : Nat) → (text : List Char) → BlankRun → Cursor → Except Error (List Char × Cursor × Bool)
  | 0, text, run, c => .ok (text, c, run.first.isSome)
  | fuel + 1, text, run, c =>
    if c.atDocumentMark || c.rest.head? == some '#' then .ok (text, c, run.first.isSome)
    else
      let word := plainWord inFlow c.rest
      let text := if word.isEmpty then text else text ++ run.fold ++ word
      let run := if word.isEmpty then run else .empty
      let c := c.advance word.length
      if c.rest.isEmpty || !atGap c.rest then .ok (text, c, run.first.isSome)
      else match c.takeBlanks (some indent) (c.rest.length + 1) run with
        | none => .error (faultIn start c .plainTab)
        | some (run, c) =>
          if !inFlow && (c.column : Int) < indent then .ok (text, c, run.first.isSome)
          else plainText inFlow indent start fuel text run c

/-- The plain scalar that begins here. -/
def plainScalar (inFlow : Bool) (outer : Int) (start : Cursor) :
    Except Error (List Char × Cursor × Bool) :=
  plainText inFlow (outer + 1) start (start.rest.length + 1) [] .empty start

end PayloadGen.Yaml
