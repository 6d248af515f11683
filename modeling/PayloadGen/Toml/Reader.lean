import PayloadGen.Text.Basic
import PayloadGen.Toml.Basic

/-!
# Reading TOML

`Toml.read` gives the statements of a document up to the first fault, and says whether there is one.
The digits of numbers and of points in time are not checked.
-/

namespace PayloadGen.Toml

open Text

/-- Blanks and tabs are passed over. -/
def skipBlanks (s : List Char) : List Char :=
  s.dropWhile fun c => c == ' ' || c == '\t'

/-- Characters that may stand in comments and strings. -/
def isAllowed (c : Char) : Bool :=
  c == '\t' || (0x20 ≤ c.toNat && c.toNat ≠ 0x7F)

/-- What follows a comment: the end of its line. -/
def skipComment? : List Char → Option (List Char)
  | [] => some []
  | '\n' :: r => some ('\n' :: r)
  | '\r' :: '\n' :: r => some ('\r' :: '\n' :: r)
  | c :: r => if isAllowed c then skipComment? r else none

/-- What follows the end of a line. -/
def lineEnd? : List Char → Option (List Char)
  | '\n' :: r => some r
  | '\r' :: '\n' :: r => some r
  | _ => none

/-! ## Strings -/

/-- A literal string after its opening quote. -/
def literal? : List Char → Option (String × List Char)
  | [] => none
  | '\'' :: r => some ("", r)
  | c :: r =>
    if isAllowed c then (literal? r).map fun (s, rest) => (String.singleton c ++ s, rest) else none

/-- The quotes at the end of a string of several lines: three close it, and up to two before them
belong to it. -/
def closing (q : Char) (s : List Char) : Option (List Char × List Char) :=
  let n := (s.takeWhile (· == q)).length
  if n < 3 then none
  else
    let inside := min (n - 3) 2
    some (List.replicate inside q, s.drop (inside + 3))

/-- A literal string of several lines after its opening quotes. -/
def longLiteral? : List Char → Option (List Char × List Char)
  | [] => none
  | '\r' :: '\n' :: r => (longLiteral? r).map fun (s, rest) => ('\r' :: '\n' :: s, rest)
  | c :: r =>
    if c == '\'' then
      match closing '\'' (c :: r) with
      | some done => some done
      | none => (longLiteral? r).map fun (s, rest) => (c :: s, rest)
    else if isAllowed c || c == '\n' then (longLiteral? r).map fun (s, rest) => (c :: s, rest)
    else none

/-- The character of so many hexadecimal digits, if it is one. -/
def codePoint? (width : Nat) (s : List Char) : Option Char := do
  let ds := s.take width
  guard (ds.length == width)
  let n ← ds.foldlM (fun n c => (hexValue? c).map (16 * n + ·)) 0
  guard (n < 0xD800 || (0xE000 ≤ n && n < 0x110000))
  return Char.ofNat n

/-- What an escape stands for, and how many characters it takes after the backslash. -/
def escape? : List Char → Option (Char × Nat)
  | '"' :: _ => some ('"', 1)
  | '\\' :: _ => some ('\\', 1)
  | 'b' :: _ => some ('\x08', 1)
  | 'f' :: _ => some ('\x0c', 1)
  | 'n' :: _ => some ('\n', 1)
  | 'r' :: _ => some ('\r', 1)
  | 't' :: _ => some ('\t', 1)
  | 'e' :: _ => some ('\x1b', 1)
  | 'u' :: r => (codePoint? 4 r).map (·, 5)
  | 'U' :: r => (codePoint? 8 r).map (·, 9)
  | _ => none

/-- A basic string after its opening quote. -/
def basic? : (fuel : Nat) → List Char → Option (List Char × List Char)
  | 0, _ => none
  | _, [] => none
  | _, '"' :: r => some ([], r)
  | fuel + 1, '\\' :: r => do
    let (c, n) ← escape? r
    let (s, rest) ← basic? fuel (r.drop n)
    return (c :: s, rest)
  | fuel + 1, c :: r =>
    if isAllowed c then (basic? fuel r).map fun (s, rest) => (c :: s, rest) else none

/-- Is there nothing but blanks up to the end of the line? -/
def endsLine (s : List Char) : Bool :=
  match s.dropWhile fun c => c == ' ' || c == '\t' || c == '\r' with
  | '\n' :: _ => true
  | _ => false

/-- A basic string of several lines after its opening quotes. A backslash at the end of a line joins
the lines. -/
def longBasic? : (fuel : Nat) → List Char → Option (List Char × List Char)
  | 0, _ => none
  | _, [] => none
  | fuel + 1, '"' :: r =>
    match closing '"' ('"' :: r) with
    | some done => some done
    | none => (longBasic? fuel r).map fun (s, rest) => ('"' :: s, rest)
  | fuel + 1, '\\' :: r =>
    if endsLine r then
      longBasic? fuel (r.dropWhile fun c => c == ' ' || c == '\t' || c == '\r' || c == '\n')
    else do
      let (c, n) ← escape? r
      let (s, rest) ← longBasic? fuel (r.drop n)
      return (c :: s, rest)
  | fuel + 1, '\r' :: '\n' :: r =>
    (longBasic? fuel r).map fun (s, rest) => ('\r' :: '\n' :: s, rest)
  | fuel + 1, c :: r =>
    if isAllowed c || c == '\n' then (longBasic? fuel r).map fun (s, rest) => (c :: s, rest)
    else none

/-- A line end right after the opening quotes does not count. -/
def skipFirstLineEnd (s : List Char) : List Char :=
  (lineEnd? s).getD s

/-! ## Keys -/

/-- Characters of bare keys. -/
def isKeyChar (c : Char) : Bool :=
  isAsciiLetter c || isAsciiDigit c || c == '-' || c == '_'

/-- One part of a key. -/
def keyPart? : List Char → Option (String × List Char)
  | '\'' :: r => literal? r
  | '"' :: r => (basic? (r.length + 1) r).map fun (s, rest) => (String.ofList s, rest)
  | s =>
    let word := s.takeWhile isKeyChar
    if word.isEmpty then none else some (String.ofList word, s.drop word.length)

/-- A key: parts with dots between them. -/
def key? : (fuel : Nat) → List Char → Option (List String × List Char)
  | 0, _ => none
  | fuel + 1, s => do
    let (part, r) ← keyPart? s
    match skipBlanks r with
    | '.' :: r => (key? fuel (skipBlanks r)).map fun (ps, rest) => (part :: ps, rest)
    | r => some ([part], r)

/-! ## Values -/

/-- The part of a number that its sign or digits begin. -/
def number? (s : List Char) : Option (List Char) :=
  let isWordStart (w : String) (t : List Char) : Bool := w.toList.isPrefixOf t
  match s with
  | '0' :: c :: d :: r =>
    if c == 'x' then some ((d :: r).dropWhile fun c => (hexValue? c).isSome || c == '_')
    else if c == 'o' then some ((d :: r).dropWhile fun c => ('0' ≤ c && c ≤ '7') || c == '_')
    else if c == 'b' then some ((d :: r).dropWhile fun c => c == '0' || c == '1' || c == '_')
    else if c == '.' || c == 'e' || c == 'E' then plain s isWordStart
    else some (c :: d :: r)
  | s => plain s isWordStart
where
  /-- A decimal number. -/
  plain (s : List Char) (isWordStart : String → List Char → Bool) : Option (List Char) :=
    let isNumeric (c : Char) : Bool :=
      isAsciiDigit c || c == '+' || c == '-' || c == '_' || c == '.' || c == 'e' || c == 'E'
    match s.dropWhile isNumeric with
    | 'i' :: r => if isWordStart "nf" r then some (r.drop 2) else none
    | 'n' :: r => if isWordStart "an" r then some (r.drop 2) else none
    | r => if r.length < s.length then some r else none

/-- What follows a point in time. One blank may stand between its date and its time. -/
def skipTime (spaceAllowed : Bool) : List Char → List Char
  | ' ' :: c :: r => if spaceAllowed && isAsciiDigit c then skipTime false r else ' ' :: c :: r
  | c :: r =>
    if isAsciiDigit c || "-+Tt:.Zz".toList.contains c then skipTime spaceAllowed r else c :: r
  | [] => []

/-- Does a point in time begin here? -/
def beginsTime (s : List Char) : Bool :=
  let digits := (s.takeWhile isAsciiDigit).length
  (digits == 2 && s[2]? == some ':') || (digits == 4 && s[4]? == some '-')

/-- What follows blanks, comments and line ends. -/
def skipLines? : (fuel : Nat) → List Char → Option (List Char)
  | 0, s => some s
  | fuel + 1, s =>
    match skipBlanks s with
    | '#' :: r => (skipComment? r).bind (skipLines? fuel)
    | '\n' :: r => skipLines? fuel r
    | '\r' :: '\n' :: r => skipLines? fuel r
    | '\r' :: _ => none
    | r => some r

mutual

/-- A value. -/
def value? : (fuel : Nat) → List Char → Option (Value × List Char)
  | 0, _ => none
  | fuel + 1, s =>
    match s with
    | [] => none
    | '"' :: '"' :: '"' :: r =>
      (longBasic? (r.length + 1) (skipFirstLineEnd r)).map fun (t, rest) =>
        (.text (String.ofList t), rest)
    | '"' :: r => (basic? (r.length + 1) r).map fun (t, rest) => (.text (String.ofList t), rest)
    | '\'' :: '\'' :: '\'' :: r =>
      (longLiteral? (skipFirstLineEnd r)).map fun (t, rest) => (.text (String.ofList t), rest)
    | '\'' :: r => (literal? r).map fun (t, rest) => (.text t, rest)
    | 't' :: r => if "rue".toList.isPrefixOf r then some (.other, r.drop 3) else none
    | 'f' :: r => if "alse".toList.isPrefixOf r then some (.other, r.drop 4) else none
    | 'i' :: r => if "nf".toList.isPrefixOf r then some (.other, r.drop 2) else none
    | 'n' :: r => if "an".toList.isPrefixOf r then some (.other, r.drop 2) else none
    | '[' :: r => (items? fuel true r).map fun (vs, rest) => (.list vs, rest)
    | '\x7b' :: r => (entries? fuel true (skipBlanks r)).map fun (es, rest) => (.table es, rest)
    | s =>
      if beginsTime s then some (.other, skipTime true s)
      else (number? s).map fun rest => (.other, rest)
termination_by structural fuel => fuel

/-- The items of a list after its bracket, or after an item. -/
def items? : (fuel : Nat) → (first : Bool) → List Char → Option (List Value × List Char)
  | 0, _, _ => none
  | fuel + 1, first, s => do
    match ← skipLines? s.length s with
    | ']' :: r => some ([], r)
    | ',' :: r =>
      if first then none
      else
        match ← skipLines? r.length r with
        | ']' :: rest => some ([], rest)
        | r => itemThen? fuel r
    | r => if first then itemThen? fuel r else none
termination_by structural fuel => fuel

/-- An item of a list and those after it. -/
def itemThen? : (fuel : Nat) → List Char → Option (List Value × List Char)
  | 0, _ => none
  | fuel + 1, s => do
    let (v, r) ← value? fuel s
    let (vs, rest) ← items? fuel false r
    return (v :: vs, rest)
termination_by structural fuel => fuel

/-- The entries of a table on one line, after its brace or after an entry. -/
def entries? :
    (fuel : Nat) → (first : Bool) → List Char → Option (List (List String × Value) × List Char)
  | 0, _, _ => none
  | fuel + 1, first, s => do
    match skipBlanks s with
    | '\x7d' :: r => some ([], r)
    | ',' :: r => if first then none else entryThen? fuel (skipBlanks r)
    | r => if first then entryThen? fuel r else none
termination_by structural fuel => fuel

/-- An entry of a table and those after it. -/
def entryThen? : (fuel : Nat) → List Char → Option (List (List String × Value) × List Char)
  | 0, _ => none
  | fuel + 1, s => do
    let (e, r) ← keyValue? fuel s
    let (es, rest) ← entries? fuel false r
    return (e :: es, rest)
termination_by structural fuel => fuel

/-- A key with its value. -/
def keyValue? : (fuel : Nat) → List Char → Option ((List String × Value) × List Char)
  | 0, _ => none
  | fuel + 1, s => do
    let (k, r) ← key? (s.length + 1) s
    match skipBlanks r with
    | '=' :: r =>
      let (v, rest) ← value? fuel (skipBlanks r)
      return ((k, v), rest)
    | _ => none
termination_by structural fuel => fuel

end

/-! ## Documents -/

/-- The header of a table. -/
def header? (s : List Char) : Option (Statement × List Char) :=
  match s with
  | '[' :: '[' :: r => do
    let (k, r) ← key? (s.length + 1) (skipBlanks r)
    match skipBlanks r with
    | ']' :: ']' :: rest => return (.listHeader k, rest)
    | _ => none
  | '[' :: r => do
    let (k, r) ← key? (s.length + 1) (skipBlanks r)
    match skipBlanks r with
    | ']' :: rest => return (.header k, rest)
    | _ => none
  | s => do
    let ((k, v), rest) ← keyValue? (3 * s.length + 4) s
    return (.entry k v, rest)

/-- What a line says, if it says something, and what follows it. -/
def statement? (s : List Char) : Option (Option Statement × List Char) :=
  match skipBlanks s with
  | [] => some (none, [])
  | '#' :: r => (skipComment? r).map (none, ·)
  | '\n' :: r => some (none, '\n' :: r)
  | '\r' :: r => some (none, '\r' :: r)
  | s => do
    let (st, r) ← header? s
    match skipBlanks r with
    | '#' :: r => (skipComment? r).map (some st, ·)
    | r => some (some st, r)

/-- The statements up to the first fault, and whether there is none. -/
def readFrom : (fuel : Nat) → List Char → List Statement × Bool
  | 0, _ => ([], false)
  | fuel + 1, s =>
    match statement? s with
    | none => ([], false)
    | some (st, []) => (st.toList, true)
    | some (st, r) =>
      match lineEnd? r with
      | none => (st.toList, false)
      | some [] => (st.toList, true)
      | some r =>
        let (sts, fine) := readFrom fuel r
        (st.toList ++ sts, fine)

/-- The statements of a document up to the first fault, and whether there is none. -/
def read (text : String) : List Statement × Bool :=
  readFrom (text.length + 1) text.toList

end PayloadGen.Toml
