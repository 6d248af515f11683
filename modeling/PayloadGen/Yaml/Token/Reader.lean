import PayloadGen.Yaml.Token.Basic
import PayloadGen.Yaml.Token.Scalar

/-!
# Cutting a YAML text into tokens

`Token.scan` gives the tokens of a text in order. A key is recognised only at the colon after it, so
the reader remembers where a key may have begun (`PossibleKey`) and marks it afterwards, together
with the start of the mapping to which it belongs. If the text is faulty, the tokens before the
fault are given together with it: whoever needs no more of them does not meet the fault.
-/

namespace PayloadGen.Yaml

open Text

/-- A place where a key may have begun. -/
structure PossibleKey where
  /-- The number of tokens before it. -/
  token : Nat
  /-- Must a key begin here, because the place lies on the indentation of a block mapping? -/
  required : Bool
  place : Cursor

/-- How far a text has been read. -/
structure Reader where
  cursor : Cursor
  /-- The tokens read so far, the last one first. -/
  tokens : List Token
  /-- The column of the innermost block collection, or -1. -/
  indent : Int
  /-- The columns of the collections around it. -/
  outer : List Int
  /-- For each bracket that is open, and for the text outside all brackets, where a key may have
  begun. -/
  keys : List (Option PossibleKey)
  /-- May a key begin at the cursor? -/
  keyAllowed : Bool

namespace Reader

/-- A result of reading on. -/
abbrev Step := Except Error Reader

/-- Brackets that are open. -/
def depth (r : Reader) : Nat :=
  r.keys.length - 1

/-- Is the cursor inside brackets? -/
def inFlow (r : Reader) : Bool :=
  0 < r.depth

/-- A fault at the cursor. -/
def fault (r : Reader) (p : Problem) : Error :=
  faultIn r.cursor r.cursor p

/-- A token added at the end. -/
def push (r : Reader) (kind : Token.Kind) (place : Cursor) : Reader :=
  { r with tokens := ⟨kind, place.line, place.column⟩ :: r.tokens }

/-- A token added after the first `n`. -/
def insert (r : Reader) (n : Nat) (kind : Token.Kind) (place : Cursor) : Reader :=
  { r with tokens := r.tokens.insertIdx (r.tokens.length - n) ⟨kind, place.line, place.column⟩ }

/-- The deepest nesting that is read. -/
def maxDepth : Nat := 10000

/-- A block collection begins at `place`, before token number `n`, if the place lies deeper than the
innermost one. -/
def enterBlock (r : Reader) (n : Nat) (kind : Token.Kind) (place : Cursor) : Step :=
  if r.inFlow || (place.column : Int) ≤ r.indent then .ok r
  else if maxDepth ≤ r.outer.length then .error (faultIn place r.cursor .tooDeep)
  else .ok (insert { r with indent := place.column, outer := r.indent :: r.outer } n kind place)

/-- The block collections that lie deeper than a column end. -/
def leaveBlocks (r : Reader) (column : Int) (place : Cursor) : Reader :=
  if r.inFlow then r
  else
    let deeper := (r.indent :: r.outer).takeWhile (column < ·)
    match (r.indent :: r.outer).dropWhile (column < ·) with
    | indent :: outer => deeper.foldl (fun r _ => r.push .blockEnd place) { r with indent, outer }
    | [] => r

/-- The key that may have begun is none after all. -/
def dropKey (r : Reader) : Step :=
  match r.keys with
  | some k :: ks =>
    if k.required then .error (faultIn k.place r.cursor .noColon)
    else .ok { r with keys := none :: ks }
  | _ => .ok r

/-- A key may begin at the cursor. -/
def markKey (r : Reader) : Step :=
  if r.keyAllowed then do
    let required := !r.inFlow && r.indent == (r.cursor.column : Int)
    let k : PossibleKey := ⟨r.tokens.length, required, r.cursor⟩
    let r ← r.dropKey
    return { r with keys := some k :: r.keys.drop 1 }
  else .ok r

/-- A key begins and ends on one line and is no longer than this. -/
def maxKeyLength : Nat := 1024

/-- The key that ends at the cursor, if one may have begun before. -/
def currentKey (r : Reader) : Except Error (Option PossibleKey) :=
  match r.keys with
  | some k :: _ =>
    if k.place.line < r.cursor.line || k.place.index + maxKeyLength < r.cursor.index then
      if k.required then .error (faultIn k.place r.cursor .noColon) else .ok none
    else .ok (some k)
  | _ => .ok none

/-- The cursor moved on. -/
def skip (r : Reader) (n : Nat) : Reader :=
  { r with cursor := r.cursor.advance n }

/-! ## Blanks and comments -/

/-- How far the reader looks for a comment after a comment. -/
def commentReach : Nat := 512

/-- The comment that stands here and those that follow it with nothing but blanks and breaks
between. -/
def skipComments : (fuel : Nat) → Cursor → Cursor
  | 0, c => c
  | fuel + 1, c =>
    let c := c.toLineEnd
    let gap := c.rest.takeWhile fun d => isBlank d || isBreak d
    if gap.length < commentReach && (c.rest.drop gap.length).head? == some '#' then
      skipComments fuel (crossGap (gap.length + 1) c)
    else c
where
  /-- The cursor after all blanks and breaks. -/
  crossGap : (fuel : Nat) → Cursor → Cursor
    | 0, c => c
    | fuel + 1, c =>
      match c.rest with
      | d :: _ =>
        if isBlank d then crossGap fuel (c.advance 1)
        else if isBreak d then crossGap fuel c.takeBreak.2
        else c
      | [] => c

/-- The reader at the next token. Tabs are no indentation, so outside brackets they are skipped only
where no key may begin. -/
def toToken : (fuel : Nat) → Reader → Reader
  | 0, r => r
  | fuel + 1, r =>
    let c := r.cursor
    let c := c.skipWhile fun d => d == ' ' || (d == '\t' && (r.inFlow || !r.keyAllowed))
    let c := if c.rest.head? == some '#' then skipComments (c.rest.length + 1) c else c
    match c.rest with
    | d :: _ =>
      if isBreak d then
        toToken fuel { r with cursor := c.takeBreak.2, keyAllowed := r.keyAllowed || !r.inFlow }
      else { r with cursor := c }
    | [] => { r with cursor := c }

/-! ## Directives, anchors and tags -/

/-- The octets of one percent-escaped character in a tag. -/
def tagEscape (start c : Cursor) : Except Error (Bytes × Cursor) :=
  let octet? (c : Cursor) : Option UInt8 :=
    match c.rest with
    | '%' :: a :: b :: _ =>
      match hexValue? a, hexValue? b with
      | some a, some b => some (UInt8.ofNat (16 * a + b))
      | _, _ => none
    | _ => none
  let rec tail : Nat → Bytes → Cursor → Except Error (Bytes × Cursor)
    | 0, bytes, c => .ok (bytes, c)
    | n + 1, bytes, c =>
      match octet? c with
      | none => .error (faultIn start c .tagEscape)
      | some b =>
        if isContinuation b then tail n (bytes ++ [b]) (c.advance 3)
        else .error (faultIn start c .tagTail)
  match octet? c with
  | none => .error (faultIn start c .tagEscape)
  | some b =>
    if b < 0x80 then .ok ([b], c.advance 3)
    else if b &&& 0xE0 == 0xC0 then tail 1 [b] (c.advance 3)
    else if b &&& 0xF0 == 0xE0 then tail 2 [b] (c.advance 3)
    else if b &&& 0xF8 == 0xF0 then tail 3 [b] (c.advance 3)
    else .error (faultIn start c .tagCharacter)

/-- The characters of the part of a tag that is an address. -/
def isTagChar (c : Char) : Bool :=
  isNameChar c || ";/?:@&=+$,.!~*'()[]".toList.contains c

/-- The address part of a tag. -/
def tagAddress (start : Cursor) : (fuel : Nat) → Bytes → Cursor → Except Error (Bytes × Cursor)
  | 0, bytes, c => .ok (bytes, c)
  | fuel + 1, bytes, c =>
    match c.rest with
    | '%' :: _ => do
      let (octets, c) ← tagEscape start c
      tagAddress start fuel (bytes ++ octets) c
    | d :: _ =>
      if isTagChar d then tagAddress start fuel (bytes ++ utf8 (String.singleton d)) (c.advance 1)
      else .ok (bytes, c)
    | [] => .ok (bytes, c)

/-- The handle of a tag: an exclamation mark, a name, and perhaps another mark. -/
def tagHandle (start c : Cursor) : Except Error (List Char × Cursor) :=
  match c.rest with
  | '!' :: r =>
    let name := '!' :: r.takeWhile isNameChar
    let c := c.advance name.length
    if c.rest.head? == some '!' then .ok (name ++ ['!'], c.advance 1) else .ok (name, c)
  | _ => .error (faultIn start c .tagMark)

/-- The tag that begins here. -/
def readTag (start : Cursor) : Except Error (Token.Kind × Cursor) := do
  let fuel := start.rest.length + 1
  let (handle, suffix, c) ← (match start.rest with
    | '!' :: '<' :: _ => do
      let (address, c) ← tagAddress start fuel [] (start.advance 2)
      if address.isEmpty then throw (faultIn start c .tagAddress)
      if c.rest.head? != some '>' then throw (faultIn start c .tagClose)
      return ("", lossy address, c.advance 1)
    | _ => do
      let (handle, c) ← tagHandle start start
      if 1 < handle.length && handle.getLast? == some '!' then
        let (address, c) ← tagAddress start fuel [] c
        if address.isEmpty then throw (faultIn start c .tagAddress)
        return (String.ofList handle, lossy address, c)
      else
        let (address, c) ← tagAddress start fuel (utf8 (String.ofList (handle.drop 1))) c
        return if address.isEmpty then ("", "!", c) else ("!", lossy address, c) :
    Except Error (String × String × Cursor))
  if !atGap c.rest then throw (faultIn start c .tagLineEnd)
  return (.tag handle suffix, c)

/-- The name of the anchor or alias that begins here. -/
def readAnchor (start : Cursor) : Except Error (String × Cursor) :=
  let name := (start.rest.drop 1).takeWhile isNameChar
  let c := start.advance (1 + name.length)
  let ends := atGap c.rest || (c.rest.head?.any ("?:,]\x7d%@`".toList.contains ·))
  if name.isEmpty || !ends then .error (faultIn start c .anchorName)
  else .ok (String.ofList name, c)

/-- A number of a version. -/
def readVersionNumber (start c : Cursor) : Except Error (Nat × Cursor) :=
  let digits := c.rest.takeWhile isAsciiDigit
  if 9 < digits.length then .error (faultIn start c .versionLong)
  else if digits.isEmpty then .error (faultIn start c .versionMissing)
  else .ok (decimalValue digits, c.advance digits.length)

/-- The value of the directive that begins here. -/
def readDirectiveValue (start c : Cursor) (name : String) : Except Error (Token.Kind × Cursor) :=
  match name with
  | "YAML" => do
    let (major, c) ← readVersionNumber start (c.skipWhile isBlank)
    if c.rest.head? != some '.' then throw (faultIn start c .versionPoint)
    let (minor, c) ← readVersionNumber start (c.advance 1)
    return (.version major minor, c)
  | "TAG" => do
    let (handle, c) ← tagHandle start (c.skipWhile isBlank)
    if handle.getLast? != some '!' then throw (faultIn start c .tagMark)
    if !(c.rest.head?.any isBlank) then throw (faultIn start c .tagBlank)
    let (address, c) ← tagAddress start (c.rest.length + 1) [] (c.skipWhile isBlank)
    if address.isEmpty then throw (faultIn start c .tagAddress)
    if !atGap c.rest then throw (faultIn start c .tagLineEnd)
    return (.tagHandle (String.ofList handle) (lossy address), c)
  | _ => .error (faultIn start c .directiveUnknown)

/-- The directive that begins here, to the end of its line. -/
def readDirective (start : Cursor) : Except Error (Token.Kind × Cursor) := do
  let name := (start.rest.drop 1).takeWhile isNameChar
  let c := start.advance (1 + name.length)
  if name.isEmpty then throw (faultIn start c .directiveName)
  if !atGap c.rest then throw (faultIn start c .directiveLetter)
  let (kind, c) ← readDirectiveValue start c (String.ofList name)
  let c := c.skipWhile isBlank
  let c := if c.rest.head? == some '#' then c.toLineEnd else c
  if !atLineEnd c.rest then throw (faultIn start c .directiveEnd)
  return (kind, c.takeBreak.2)

/-! ## One token -/

/-- The end of the text. -/
def readEnd (r : Reader) : Step := do
  let c := r.cursor
  let c := if c.column == 0 then c else { c with column := 0, line := c.line + 1 }
  let r := leaveBlocks { r with cursor := c } (-1) c
  let r ← r.dropKey
  return { r.push .streamEnd c with keyAllowed := false }

/-- A token that no block collection contains. -/
def readTopLevel (r : Reader) (read : Cursor → Except Error (Token.Kind × Cursor)) : Step := do
  let start := r.cursor
  let r ← (r.leaveBlocks (-1) start).dropKey
  let (kind, c) ← read start
  return { r.push kind start with cursor := c, keyAllowed := false }

/-- An opening bracket. -/
def readOpen (r : Reader) (kind : Token.Kind) : Step := do
  let start := r.cursor
  let r ← r.markKey
  if maxDepth ≤ r.depth then throw (r.fault .tooDeep)
  return { (r.push kind start).skip 1 with keys := none :: r.keys, keyAllowed := true }

/-- A closing bracket. -/
def readClose (r : Reader) (kind : Token.Kind) : Step := do
  let start := r.cursor
  let r ← r.dropKey
  let keys := if r.inFlow then r.keys.drop 1 else r.keys
  return { (r.push kind start).skip 1 with keys, keyAllowed := false }

/-- A comma inside brackets. -/
def readComma (r : Reader) : Step := do
  let start := r.cursor
  let r ← r.dropKey
  return { (r.push .flowEntry start).skip 1 with keyAllowed := true }

/-- The dash before an item. -/
def readDash (r : Reader) : Step := do
  let start := r.cursor
  if !r.inFlow && !r.keyAllowed then throw (r.fault .entryNotAllowed)
  let r ← r.enterBlock r.tokens.length .blockSequenceStart start
  let r ← r.dropKey
  return { (r.push .blockEntry start).skip 1 with keyAllowed := true }

/-- The question mark before a key. -/
def readQuestion (r : Reader) : Step := do
  let start := r.cursor
  if !r.inFlow && !r.keyAllowed then throw (r.fault .keyNotAllowed)
  let r ← r.enterBlock r.tokens.length .blockMappingStart start
  let r ← r.dropKey
  return { (r.push .key start).skip 1 with keyAllowed := !r.inFlow }

/-- The colon after a key. -/
def readColon (r : Reader) : Step := do
  let start := r.cursor
  match ← r.currentKey with
  | some k =>
    let r := r.insert k.token .key k.place
    let r ← r.enterBlock k.token .blockMappingStart k.place
    return { (r.push .value start).skip 1 with keys := none :: r.keys.drop 1, keyAllowed := false }
  | none =>
    if !r.inFlow && !r.keyAllowed then throw (r.fault .valueNotAllowed)
    let r ← r.enterBlock r.tokens.length .blockMappingStart start
    return { (r.push .value start).skip 1 with
      keys := none :: r.keys.drop 1, keyAllowed := !r.inFlow }

/-- A token that may begin a key. -/
def readKeyPart (r : Reader) (read : Cursor → Except Error (Token.Kind × Cursor)) : Step := do
  let start := r.cursor
  let r ← r.markKey
  let (kind, c) ← read start
  return { r.push kind start with cursor := c, keyAllowed := false }

/-- A block scalar. -/
def readBlock (r : Reader) (isLiteral : Bool) : Step := do
  let start := r.cursor
  let r ← r.dropKey
  let (text, c) ← blockScalar r.indent isLiteral start
  let kind := Token.Kind.scalar (String.ofList text) (if isLiteral then .literal else .folded)
  return { r.push kind start with cursor := c, keyAllowed := true }

/-- A plain scalar. A key may begin on the line after it. -/
def readPlain (r : Reader) : Step := do
  let start := r.cursor
  let r ← r.markKey
  let (text, c, broken) ← plainScalar r.inFlow r.indent start
  return { r.push (.scalar (String.ofList text) .plain) start with
    cursor := c, keyAllowed := broken }

/-- May a plain scalar begin with this text? -/
def beginsPlain (inFlow : Bool) : List Char → Bool
  | [] => false
  | c :: r =>
    let nextIsBlank := match r with
      | d :: _ => isBlank d
      | [] => false
    (!isBlank c && !isBreak c && !"-?:,[]\x7b\x7d#&*!|>'\"%@`".toList.contains c) ||
      (c == '-' && !nextIsBlank) || (!inFlow && (c == '?' || c == ':') && !atGap r)

/-- The next token. -/
def readToken (r : Reader) : Step :=
  let before := r.cursor
  let r := toToken (r.cursor.rest.length + 1) r
  let r := r.leaveBlocks r.cursor.column before
  let start := r.cursor
  let isMark (c : Char) := start.atDocumentMark && start.rest.head? == some c
  if isMark '-' then r.readTopLevel fun c => .ok (.documentStart, c.advance 3)
  else if isMark '.' then r.readTopLevel fun c => .ok (.documentEnd, c.advance 3)
  else match start.rest with
    | [] => r.readEnd
    | c :: rest =>
      let gap := atGap rest
      if c == '%' && start.column == 0 then r.readTopLevel readDirective
      else if c == '[' then r.readOpen .flowSequenceStart
      else if c == '{' then r.readOpen .flowMappingStart
      else if c == ']' then r.readClose .flowSequenceEnd
      else if c == '}' then r.readClose .flowMappingEnd
      else if c == ',' then r.readComma
      else if c == '-' && gap then r.readDash
      else if c == '?' && (r.inFlow || gap) then r.readQuestion
      else if c == ':' && (r.inFlow || gap) then r.readColon
      else if c == '*' then r.readKeyPart fun c => (readAnchor c).map fun (n, c) => (.aliasOf n, c)
      else if c == '&' then r.readKeyPart fun c => (readAnchor c).map fun (n, c) => (.anchor n, c)
      else if c == '!' then r.readKeyPart readTag
      else if c == '|' && !r.inFlow then r.readBlock true
      else if c == '>' && !r.inFlow then r.readBlock false
      else if c == '\'' then r.readKeyPart fun c =>
        (quotedScalar false c).map fun (t, c) => (.scalar (String.ofList t) .singleQuoted, c)
      else if c == '"' then r.readKeyPart fun c =>
        (quotedScalar true c).map fun (t, c) => (.scalar (String.ofList t) .doubleQuoted, c)
      else if beginsPlain r.inFlow start.rest then r.readPlain
      else .error (r.fault .noToken)

/-- The tokens that follow, in order, and the fault that ends them if there is one. Every token but
the last takes a character, so one more than the length of the text is fuel enough. -/
def readAll : (fuel : Nat) → Reader → List Token × Option Error
  | 0, r => (r.tokens.reverse, none)
  | fuel + 1, r =>
    match r.readToken with
    | .error e => (r.tokens.reverse, some e)
    | .ok next =>
      match next.tokens with
      | ⟨.streamEnd, _, _⟩ :: _ => (next.tokens.reverse, none)
      | _ => readAll fuel next

end Reader

/-- The text without a byte order mark at its start. -/
def dropByteOrderMark : List Char → List Char
  | '\ufeff' :: r => r
  | chars => chars

/-- The tokens of a text, and the fault that ends them if there is one. A byte order mark at the
start is no part of the text. -/
def Token.scan (text : String) : List Token × Option Error :=
  let chars := dropByteOrderMark text.toList
  if chars.all isAllowed then
    let start : Cursor := ⟨chars, 0, 0, 0⟩
    Reader.readAll (chars.length + 1) ⟨start, [], -1, [], [none], true⟩
  else ([], some (.malformed none .controlCharacter))

end PayloadGen.Yaml
