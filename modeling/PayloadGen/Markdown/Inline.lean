import PayloadGen.Text.Basic
import PayloadGen.Text.Digit
import PayloadGen.Text.Letter

/-!
# The text of a Markdown line

A line is read into `Span`s: plain text, code, emphasis, links and tags. First the line is cut into
items, among them the marks that may begin or end emphasis (`scan`); then every mark that ends
emphasis is matched with the nearest one that can begin it (`settle`).
-/

namespace PayloadGen.Markdown

open Text

/-- A piece of a line. Escapes in it are kept as they are written. -/
inductive Span where
  | text (s : String)
  | code (s : String)
  | emphasis (strong : Bool) (inner : List Span)
  | strike (inner : List Span)
  | link (target title : String) (inner : List Span)
  | image (target title : String) (inner : List Span)
  /-- An address that stands for itself. -/
  | address (target : String) (mail : Bool)
  | tag

mutual

/-- The text of a piece without its marks. -/
def Span.plain : Span → String
  | .text s => s
  | .code s => s
  | .emphasis _ inner => plainOf inner
  | .strike inner => plainOf inner
  | .link _ _ inner => plainOf inner
  | .image _ _ inner => plainOf inner
  | .address _ _ => ""
  | .tag => ""

/-- The text of pieces without their marks. -/
def plainOf : List Span → String
  | [] => ""
  | s :: r => s.plain ++ plainOf r

end

/-- A part of a line that is being read. -/
inductive Item where
  | span (s : Span)
  /-- Marks of emphasis: how many are left, how many there were, and what they can do. -/
  | marks (c : Char) (left total : Nat) (opens closes : Bool)
  /-- An opening bracket, of an image or a link. -/
  | bracket (image : Bool)

/-- A character of ASCII that is neither a letter nor a digit nor a blank. -/
def isAsciiPunctuation (c : Char) : Bool :=
  0x20 < c.toNat && c.toNat < 0x7F && !isAsciiLetter c && !isAsciiDigit c

/-- A punctuation character or a symbol. -/
def isPunctuation (c : Char) : Bool :=
  if c.toNat < 0x80 then isAsciiPunctuation c
  else !isLetter c && !isDigit c && !isSpace c && 0xA0 < c.toNat

/-- The item of a run of marks between two characters. -/
def marksItem (c : Char) (count : Nat) (before after : Char) : Item :=
  let left := !isSpace after && (!isPunctuation after || isSpace before || isPunctuation before)
  let right := !isSpace before && (!isPunctuation before || isSpace after || isPunctuation after)
  if c = '_' then
    .marks c count count (left && (!right || isPunctuation before))
      (right && (!left || isPunctuation after))
  else .marks c count count left right

/-! ## Matching marks -/

/-- The text that an item stands for if it has no other meaning. -/
def Item.asSpan : Item → Span
  | .span s => s
  | .marks c left _ _ _ => .text (String.ofList (List.replicate left c))
  | .bracket image => .text (if image then "![" else "[")

/-- Pieces in which text that stands together is one piece. -/
def joined : List Span → List Span
  | [] => []
  | .text s :: r =>
    match joined r with
    | .text t :: r => .text (s ++ t) :: r
    | r => .text s :: r
  | s :: r => s :: joined r

/-- The nearest marks that can begin what other marks end: the items after them, their numbers, and
the items before them. The list begins with the nearest item. -/
def opener? (c : Char) (total : Nat) (opens : Bool) :
    List Item → Option (List Item × Nat × Nat × Bool × List Item)
  | [] => none
  | item :: rest =>
    let further := (opener? c total opens rest).map fun (above, found) => (item :: above, found)
    match item with
    | .marks d left total' true closes =>
      let clash := (closes || opens) && (total' + total) % 3 = 0 && total % 3 ≠ 0
      if d = c && !clash then some ([], left, total', closes, rest) else further
    | _ => further

/-- The piece between matching marks. -/
def between (c : Char) (used : Nat) (inner : List Item) : Item :=
  let spans := joined (inner.map Item.asSpan)
  .span (if c = '~' then .strike spans else .emphasis (used = 2) spans)

/-- Every mark that ends emphasis is matched. The items before are given with the nearest first. -/
def settle : (fuel : Nat) → (before : List Item) → List Item → List Item
  | 0, before, items => before.reverse ++ items
  | _, before, [] => before.reverse
  | fuel + 1, before, item :: rest =>
    match item with
    | .marks c left total opens true =>
      match opener? c total opens before with
      | some (inner, found, total', closes, below) =>
        let used := if 2 ≤ found && 2 ≤ left then 2 else 1
        let below := if found - used = 0 then below
          else .marks c (found - used) total' true closes :: below
        let before := between c used inner.reverse :: below
        if left - used = 0 then settle fuel before rest
        else settle fuel before (.marks c (left - used) total opens true :: rest)
      | none => settle fuel (item :: before) rest
    | _ => settle fuel (item :: before) rest

/-- The number of marks in items. -/
def marksIn (items : List Item) : Nat :=
  items.foldl (fun n i => n + match i with
    | .marks _ left _ _ _ => left
    | _ => 1) 0

/-- The pieces that items make. -/
def spansOf (items : List Item) : List Span :=
  joined ((settle (marksIn items + items.length + 1) [] items).map Item.asSpan)

/-! ## Code, addresses and tags -/

/-- The text up to a run of exactly so many back quotes, and what follows them. -/
def untilQuotes (count : Nat) :
    (fuel : Nat) → List Char → List Char → Option (List Char × List Char)
  | 0, _, _ => none
  | _, _, [] => none
  | fuel + 1, done, c :: r =>
    if c = '`' then
      let run := (c :: r).takeWhile (· == '`')
      let rest := (c :: r).dropWhile (· == '`')
      if run.length = count then some (done.reverse, rest)
      else untilQuotes count fuel (run ++ done) rest
    else untilQuotes count fuel (c :: done) r

/-- The content of code: without one blank at either end if there is more than blanks. -/
def codeContent (s : List Char) : String :=
  let s := s.map fun c => if c = '\n' then ' ' else c
  String.ofList (if s.head? == some ' ' && s.getLast? == some ' ' && !s.all (· == ' ') then
    (s.drop 1).dropLast else s)

/-- A character of the name of a scheme. -/
def isSchemeChar (c : Char) : Bool :=
  isAsciiLetter c || isAsciiDigit c || c == '+' || c == '.' || c == '-'

/-- A character of the part of a mail address before the at sign. -/
def isMailboxChar (c : Char) : Bool :=
  isAsciiLetter c || isAsciiDigit c || ".!#$%&'*+/=?^_`\x7b|\x7d~-".toList.contains c

/-- A character of the name of a host. -/
def isHostChar (c : Char) : Bool :=
  isAsciiLetter c || isAsciiDigit c || c == '-' || c == '.'

/-- An address between angle brackets, without them. -/
def bracketedAddress? (s : List Char) : Option Span :=
  let scheme := s.takeWhile isSchemeChar
  let rest := s.drop scheme.length
  let begins := s.head?.any isAsciiLetter
  if begins && 2 ≤ scheme.length && scheme.length ≤ 32 && rest.head? == some ':' &&
      !rest.any (fun c => isSpace c || c == '<') then
    some (.address (String.ofList s) false)
  else
    let mailbox := s.takeWhile isMailboxChar
    let host := (s.drop mailbox.length).drop 1
    if !mailbox.isEmpty && (s.drop mailbox.length).head? == some '@' && !host.isEmpty &&
        host.all isHostChar then
      some (.address (String.ofList s) true)
    else none

/-- The name of a tag or an attribute at the front of a text, and what follows it. -/
def tagName? (isFirst isNext : Char → Bool) : List Char → Option (List Char)
  | [] => none
  | c :: r => if isFirst c then some (r.dropWhile isNext) else none

/-- What follows the value of an attribute. -/
def afterValue? : List Char → Option (List Char)
  | '"' :: r => if r.contains '"' then some ((r.dropWhile (· != '"')).drop 1) else none
  | '\'' :: r => if r.contains '\'' then some ((r.dropWhile (· != '\'')).drop 1) else none
  | s =>
    let isPlain (c : Char) : Bool := 0x20 < c.toNat && !"\"'=<>`".toList.contains c
    if s.head?.any isPlain then some (s.dropWhile isPlain) else none

/-- What follows the attributes of a tag and its end. -/
def afterAttributes? : (fuel : Nat) → List Char → Option (List Char)
  | 0, _ => none
  | fuel + 1, s =>
    let rest := s.dropWhile isSpace
    match rest with
    | '>' :: r => some r
    | '/' :: '>' :: r => some r
    | _ =>
      if rest.length = s.length then none
      else do
        let r ← tagName? (fun c => isAsciiLetter c || c == '_' || c == ':')
          (fun c => isAsciiLetter c || isAsciiDigit c || ":._-".toList.contains c) rest
        match r.dropWhile isSpace with
        | '=' :: v => do afterAttributes? fuel (← afterValue? (v.dropWhile isSpace))
        | _ => afterAttributes? fuel r

/-- What follows a tag, without the bracket that opens it. -/
def afterTag? (s : List Char) : Option (List Char) :=
  let nameChar (c : Char) : Bool := isAsciiLetter c || isAsciiDigit c || c == '-'
  match s with
  | '/' :: r => do
    let r ← tagName? isAsciiLetter nameChar r
    match r.dropWhile isSpace with
    | '>' :: r => some r
    | _ => none
  | _ => do afterAttributes? (s.length + 1) (← tagName? isAsciiLetter nameChar s)

/-! ## Bare addresses -/

/-- A character of the path of a bare address. -/
def isPathChar (c : Char) : Bool :=
  isAsciiLetter c || isAsciiDigit c || "-@:%_+.~#$!?&/=();,'\">^\x7b\x7d[]`".toList.contains c

/-- The characters at the end of a bare address that do not belong to it. -/
def isTrailing (c : Char) : Bool :=
  "?!.,:*_~".toList.contains c

/-- A bare address after a scheme, as far as it goes. It needs a host with a dot in it. -/
def hostAndPath (s : List Char) : Option (List Char) :=
  let host := s.takeWhile fun c =>
    isAsciiLetter c || isAsciiDigit c || "-@:%._+~#=".toList.contains c
  let body := trimRightWhere (fun c => !('a' ≤ c && c ≤ 'z')) host
  let top := afterLast '.' body
  if !body.contains '.' || top.isEmpty || !top.all (fun c => 'a' ≤ c && c ≤ 'z') then none
  else
    let rest := s.drop body.length
    let path := match rest with
      | c :: _ => if c = '/' || c = '#' || c = '?' then rest.takeWhile isPathChar else []
      | [] => []
    some (trimRightWhere isTrailing (body ++ path))

/-- A bare address at the front of a text. -/
def bareAddress? (s : List Char) : Option (List Char) :=
  let schemes := ["http://", "https://", "ftp://"].map String.toList
  match schemes.find? (·.isPrefixOf s) with
  | some scheme => (hostAndPath (s.drop scheme.length)).map (scheme ++ ·)
  | none => if "www.".toList.isPrefixOf s then hostAndPath s else none

/-! ## Links -/

/-- The target of a link at the front of a text, and what follows it. -/
def bareTarget : (depth : Nat) → List Char → List Char → List Char × List Char
  | _, done, [] => (done.reverse, [])
  | depth, done, '\\' :: c :: r =>
    if isAsciiPunctuation c then bareTarget depth (c :: '\\' :: done) r
    else if isSpace c then (('\\' :: done).reverse, c :: r)
    else bareTarget depth (c :: '\\' :: done) r
  | depth, done, c :: r =>
    if c = '(' then bareTarget (depth + 1) (c :: done) r
    else if c = ')' then
      match depth with
      | 0 => (done.reverse, c :: r)
      | depth + 1 => bareTarget depth (c :: done) r
    else if isSpace c then (done.reverse, c :: r)
    else bareTarget depth (c :: done) r

/-- The target of a link, and what follows it. -/
def target? (s : List Char) : Option (List Char × List Char) :=
  match s with
  | '<' :: r =>
    if r.contains '>' then some (r.takeWhile (· != '>'), (r.dropWhile (· != '>')).drop 1) else none
  | s =>
    let (t, rest) := bareTarget 0 [] s
    if t.isEmpty then none else some (t, rest)

/-- The title of a link, and what follows it. -/
def title? (s : List Char) : Option (List Char × List Char) :=
  match s with
  | c :: r =>
    let close := if c = '(' then ')' else c
    if (c = '"' || c = '\'' || c = '(') && r.contains close then
      some (r.takeWhile (· != close), (r.dropWhile (· != close)).drop 1)
    else none
  | [] => none

/-- The target and the title of a link after its text, and what follows them. -/
def linkEnd? (s : List Char) : Option (String × String × List Char) :=
  match s with
  | '(' :: r =>
    match r.dropWhile isSpace with
    | ')' :: rest => some ("", "", rest)
    | r => do
      let (target, r) ← target? r
      let next := r.dropWhile isSpace
      match next with
      | ')' :: rest => some (String.ofList target, "", rest)
      | _ =>
        if next.length = r.length then none
        else do
          let (title, r) ← title? next
          match r.dropWhile isSpace with
          | ')' :: rest => some (String.ofList target, String.ofList title, rest)
          | _ => none
  | _ => none

/-- The items after the nearest opening bracket, what it opens, and the items before it. The list
begins with the nearest item. -/
def bracket? : List Item → Option (List Item × Bool × List Item)
  | [] => none
  | .bracket image :: rest => some ([], image, rest)
  | item :: rest => (bracket? rest).map fun (above, found) => (item :: above, found)

/-- Opening brackets of links are text: a link cannot stand in another. -/
def closeBrackets (items : List Item) : List Item :=
  items.map fun
    | .bracket false => .span (.text "[")
    | i => i

/-! ## Reading a line -/

/-- A line is cut into items. The items before are given with the nearest first. -/
def scan : (fuel : Nat) → (before : Char) → List Item → List Char → List Item
  | 0, _, done, s => (.span (.text (String.ofList s)) :: done).reverse
  | _, _, done, [] => done.reverse
  | fuel + 1, before, done, c :: r =>
    let plain (s rest : List Char) : List Item :=
      scan fuel (s.getLastD c) (.span (.text (String.ofList s)) :: done) rest
    let linkable := isSpace before || before == '('
    match c, r, (if linkable then bareAddress? (c :: r) else none) with
    | _, _, some address =>
      scan fuel (address.getLastD c) (.span (.address (String.ofList address) false) :: done)
        ((c :: r).drop address.length)
    | '\\', d :: rest, _ => if isAsciiPunctuation d then plain [c, d] rest else plain [c] r
    | '`', _, _ =>
      let run := (c :: r).takeWhile (· == '`')
      let rest := (c :: r).dropWhile (· == '`')
      match untilQuotes run.length (rest.length + 1) [] rest with
      | some (content, rest) => scan fuel '`' (.span (.code (codeContent content)) :: done) rest
      | none => plain run rest
    | '<', _, _ =>
      let inner := r.takeWhile (· != '>')
      match (if r.contains '>' then bracketedAddress? inner else none), afterTag? r with
      | some address, _ => scan fuel '>' (.span address :: done) (r.drop (inner.length + 1))
      | none, some rest => scan fuel '>' (.span .tag :: done) rest
      | none, none => plain [c] r
    | '!', '[' :: rest, _ => scan fuel '[' (.bracket true :: done) rest
    | '[', _, _ => scan fuel '[' (.bracket false :: done) r
    | ']', _, _ =>
      match bracket? done, linkEnd? r with
      | some (inner, image, below), some (target, title, rest) =>
        let spans := spansOf inner.reverse
        let span := if image then Span.image target title spans else Span.link target title spans
        scan fuel ')' (.span span :: (if image then below else closeBrackets below)) rest
      | some (inner, image, below), none =>
        scan fuel ']' (.span (.text "]") :: (inner ++ .span (Item.bracket image).asSpan :: below)) r
      | none, _ => plain [c] r
    | c, _, _ =>
      if c = '*' || c = '_' || c = '~' then
        let run := (c :: r).takeWhile (· == c)
        let rest := (c :: r).dropWhile (· == c)
        if c = '~' && 2 < run.length then plain run rest
        else scan fuel c (marksItem c run.length before (rest.headD '\n') :: done) rest
      else plain [c] r

/-- The pieces of a line. -/
def readSpans (s : String) : List Span :=
  spansOf (scan (s.length + 1) '\n' [] s.toList)

end PayloadGen.Markdown
