import PayloadGen.Payload.Compile
import PayloadGen.Template.Token
import PayloadGen.Template.Verb

/-!
# Functions of templates

`applyFunction` gives the result of a function that gets all its arguments evaluated. The two that
stop at the first argument that decides, `and` and `or`, are part of the evaluation of pipelines.
-/

namespace PayloadGen.Template

open Text

/-! ## Escaping -/

/-- A byte in a document of markup. -/
def markupByte (b : UInt8) : Bytes :=
  if b = 0 then utf8 (String.singleton replacement)
  else if b = 0x22 then utf8 "&#34;"
  else if b = 0x27 then utf8 "&#39;"
  else if b = 0x26 then utf8 "&amp;"
  else if b = 0x3C then utf8 "&lt;"
  else if b = 0x3E then utf8 "&gt;"
  else [b]

/-- A character in a string of a script. -/
def scriptPiece : Piece → Bytes
  | .stray b => [b]
  | .char c =>
    let code (width : Nat) : Bytes :=
      utf8 ("\\u" ++ String.ofList ((hex width c.toNat).map Char.toUpper))
    if c == '\\' || c == '\'' || c == '"' then utf8 (String.ofList ['\\', c])
    else if c == '<' || c == '>' || c == '&' || c == '=' || c.toNat < 0x20 then code 4
    else if c.toNat < 0x80 || isPrintable c then utf8 (String.singleton c)
    else code (if c.toNat < 0x10000 then 4 else if c.toNat < 0x100000 then 5 else 6)

/-- A byte in a query of an address. -/
def queryByte (b : UInt8) : Bytes :=
  let c := Char.ofNat b.toNat
  if b = 0x20 then [0x2B]
  else if isAsciiLetter c || isAsciiDigit c || c == '-' || c == '_' || c == '.' || c == '~' then [b]
  else utf8 (String.ofList ('%' :: (hex 2 b.toNat).map Char.toUpper))

/-- The text of arguments, a missing one as it shows in a template. -/
def argumentText (vs : List Value) : Bytes :=
  Value.joined (vs.map fun
    | .missing => .text (Value.printed .missing)
    | v => v)

/-! ## Positions -/

/-- A position in something of a certain length; its end counts. -/
def position (length : Nat) (v : Value) : Except Fault Nat :=
  let within (n : Int) : Except Fault Nat := if 0 ≤ n && n ≤ length then .ok n.toNat
    else .error .badIndex
  match v with
  | .int n => within n
  | .byte b => within b.toNat
  | _ => .error .argumentType

/-- What stands at a position, or under a key. A map has the empty text under every other key. -/
def itemAt (v index : Value) : Except Fault Value :=
  match v with
  | .list _ items => do
    match items[← position items.length index]? with
    | some item => .ok item
    | none => .error .badIndex
  | .text s => do
    match s[← position s.length index]? with
    | some b => .ok (.byte b)
    | none => .error .badIndex
  | .map entries =>
    match index with
    | .text k => .ok (.text (((entries.find? (·.1 == k)).map (·.2)).getD []))
    | _ => .error .argumentType
  | _ => .error .argumentType

/-- The part of a list between positions that are in order. -/
def part {α : Type} (items : List α) (bounds : List Nat) : Except Fault (List α) :=
  let start := bounds[0]?.getD 0
  let stop := bounds[1]?.getD items.length
  let limit := bounds[2]?.getD items.length
  if start ≤ stop && stop ≤ limit then .ok ((items.take stop).drop start) else .error .badIndex

/-- A part of a text or a list. -/
def slice (v : Value) (indexes : List Value) : Except Fault Value :=
  match v with
  | .text s => do
    if 2 < indexes.length then throw .argumentCount
    return .text (← part s (← indexes.mapM (position s.length)))
  | .list item items => do
    if 3 < indexes.length then throw .argumentCount
    return .list item (← part items (← indexes.mapM (position items.length)))
  | _ => .error .argumentType

/-! ## Comparison -/

/-- The exact value of a finite number as a quotient. -/
def signedRatio (negative : Bool) (m : Nat) (e : Int) : Int × Nat :=
  let (num, den) := Binary64.ratio m e
  (if negative then -(num : Int) else num, den)

/-- Is the first number less than the second? -/
def floatLess : Binary64 → Binary64 → Bool
  | .nan, _ | _, .nan => false
  | .infinite a, .infinite b => a && !b
  | .infinite a, .finite .. => a
  | .finite .., .infinite b => !b
  | .finite n m e _, .finite n' m' e' _ =>
    let a := signedRatio n m e
    let b := signedRatio n' m' e'
    decide (a.1 * b.2 < b.1 * a.2)

/-- Are two numbers equal? -/
def floatEqual (x y : Binary64) : Bool :=
  x ≠ .nan && y ≠ .nan && !floatLess x y && !floatLess y x

/-- Is the first byte sequence before the second? -/
def bytesLess : Bytes → Bytes → Bool
  | _, [] => false
  | [], _ :: _ => true
  | a :: r, b :: s => a < b || (a == b && bytesLess r s)

/-- Are the two records equal, all of whose fields are texts? -/
def sameFields : List (String × Value) → List (String × Value) → Bool
  | [], [] => true
  | (_, .text s) :: r, (_, .text t) :: u => s == t && sameFields r u
  | _, _ => false

/-- Are all fields texts? Only records of this kind can be compared. -/
def hasTextFields (fields : List (String × Value)) : Bool :=
  fields.all (·.2.isText)

/-- Are two values equal? -/
def equal : Value → Value → Except Fault Bool
  | .missing, .missing => .ok true
  | .missing, _ | _, .missing => .ok false
  | .bool a, .bool b => .ok (a == b)
  | .int a, .int b => .ok (a == b)
  | .int a, .byte b => .ok (a == b.toNat)
  | .byte a, .int b => .ok (b == a.toNat)
  | .byte a, .byte b => .ok (a == b)
  | .float a, .float b => .ok (floatEqual a b)
  | .text a, .text b => .ok (a == b)
  | .record t fs, .record u gs =>
    if hasTextFields gs then .ok (t == u && sameFields fs gs) else .error .badComparison
  | _, _ => .error .badComparison

/-- Is a value equal to one of the others? The first that is equal decides. -/
def equalsAny (v : Value) : List Value → Except Fault Bool
  | [] => .ok false
  | w :: r => do if ← equal v w then return true else equalsAny v r

/-- Is the first value less than the second? -/
def less : Value → Value → Except Fault Bool
  | .int a, .int b => .ok (a < b)
  | .int a, .byte b => .ok (a < b.toNat)
  | .byte a, .int b => .ok ((a.toNat : Int) < b)
  | .byte a, .byte b => .ok (a < b)
  | .float a, .float b => .ok (floatLess a b)
  | .text a, .text b => .ok (bytesLess a b)
  | _, _ => .error .badComparison

/-- Is the first value less than the second or equal to it? -/
def lessOrEqual (a b : Value) : Except Fault Bool := do
  if ← less a b then return true else equal a b

/-! ## Functions -/

/-- The number of things in a value. -/
def size : Value → Except Fault Int
  | .text s => .ok s.length
  | .list _ items => .ok items.length
  | .map entries => .ok entries.length
  | _ => .error .argumentType

/-- A function from texts to texts. -/
def onText (f : Bytes → Bytes) : List Value → Except Fault Value
  | [.text s] => .ok (.text (f s))
  | [_] => .error .argumentType
  | _ => .error .argumentCount

/-- The texts of a list; no value is an empty list. -/
def textsOf? : Value → Option (List Bytes)
  | .missing => some []
  | .list _ items => items.mapM fun
    | .text s => some s
    | _ => none
  | _ => none

/-- The result of a function. -/
def applyFunction (name : String) (args : List Value) : Except Fault Value :=
  match name, args with
  | "not", [v] => .ok (.bool (!v.isTrue))
  | "len", [v] => return .int (← size v)
  | "index", .missing :: _ => .error .argumentType
  | "index", v :: indexes => indexes.foldlM itemAt v
  | "slice", v :: indexes => slice v indexes
  | "html", vs => .ok (.text ((argumentText vs).flatMap markupByte))
  | "js", vs => .ok (.text ((decode (argumentText vs)).flatMap scriptPiece))
  | "urlquery", vs => .ok (.text ((argumentText vs).flatMap queryByte))
  | "print", vs => .ok (.text (Value.joined vs))
  | "println", vs => .ok (.text (Value.line vs))
  | "printf", .text f :: vs => .ok (.text (format f vs))
  | "printf", _ :: _ => .error .argumentType
  | "eq", [_] => .error .argumentCount
  | "eq", v :: vs => return .bool (← equalsAny v vs)
  | "ne", [a, b] => return .bool (!(← equal a b))
  | "lt", [a, b] => return .bool (← less a b)
  | "le", [a, b] => return .bool (← lessOrEqual a b)
  | "gt", [a, b] => return .bool (!(← lessOrEqual a b))
  | "ge", [a, b] => return .bool (!(← less a b))
  | "call", _ :: _ => .error .notAFunction
  | "title", vs => onText (fun s => utf8 (Name.title (lossy s))) vs
  | "pascal", vs => onText Name.pascalBytes vs
  | "snake", vs => onText (fun s => utf8 (Name.snake (lossy s))) vs
  | "callback", vs => onText (fun s => utf8 "_" ++ s ++ utf8 "Callable") vs
  | "join", [texts, .text between] =>
    match textsOf? texts with
    | some ts => .ok (.text (between.intercalate ts))
    | none => .error .argumentType
  | "join", [_, _] => .error .argumentType
  | "payloads", [.missing] => .ok (.ofTexts [])
  | "payloads", [.map entries] =>
    .ok (.ofTexts (payloadClasses (entries.map fun e => (lossy e.1, lossy e.2))))
  | "payloads", [_] => .error .argumentType
  | _, _ => .error .argumentCount

end PayloadGen.Template
