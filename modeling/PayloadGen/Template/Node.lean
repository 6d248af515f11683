import PayloadGen.Number.Literal
import PayloadGen.Template.Token

/-!
# Templates as trees

The tree of a template, and the literals of its actions.
-/

namespace PayloadGen.Template

open Text

mutual

/-- A value as it is written. -/
inductive Operand where
  | dot
  | nil
  | bool (b : Bool)
  | int (n : Int)
  | float (x : Binary64)
  | string (s : Bytes)
  /-- Fields of the current value. -/
  | field (names : List String)
  | variable (name : String) (fields : List String)
  | function (name : String)
  | pipeline (p : Pipeline)
  /-- Fields of another value. -/
  | chain (of : Operand) (fields : List String)

/-- Commands, each of which gets the result of the one before as its last argument. -/
inductive Pipeline where
  /-- The variables that take the result, and whether they exist already. -/
  | mk (assigns : Bool) (vars : List String) (commands : List (List Operand))

end

/-- The variables that take the result of a pipeline. -/
def Pipeline.vars : Pipeline → List String
  | mk _ vs _ => vs

/-- Do the variables of a pipeline exist already? -/
def Pipeline.assigns : Pipeline → Bool
  | mk a _ _ => a

/-- Which values a branch is taken for. -/
inductive Branch where
  | ifTrue
  | withValue
  | rangeOver

/-- A part of a template. -/
inductive Node where
  | text (s : List Char)
  | action (p : Pipeline)
  | branch (kind : Branch) (p : Pipeline) (body : List Node) (otherwise : Option (List Node))
  | call (name : Bytes) (argument : Option Pipeline)
  | leaveLoop
  | nextRound

/-! ## Literals -/

/-- The value of hexadecimal or octal digits, if there are exactly `width` of them. -/
def codeOf? (base width : Nat) (s : List Char) : Option Nat :=
  if s.length < width then none
  else (s.take width).foldlM (fun n c => (hexValue? c).bind fun d =>
    if d < base then some (base * n + d) else none) 0

/-- The bytes of the inside of a quoted literal. Of the two quotes, only the one that encloses the
literal is escaped. -/
def unquote? (q : Char) : (fuel : Nat) → List Char → Option Bytes
  | 0, _ => none
  | _, [] => some []
  | fuel + 1, '\\' :: c :: r =>
    let one (b : Nat) := (unquote? q fuel r).map (UInt8.ofNat b :: ·)
    let code (width : Nat) := do
      let n ← codeOf? 16 width r
      guard (n < 0x110000 && !(0xD800 ≤ n && n < 0xE000))
      let rest ← unquote? q fuel (r.drop width)
      return utf8 (String.singleton (Char.ofNat n)) ++ rest
    match c with
    | 'a' => one 7
    | 'b' => one 8
    | 'f' => one 12
    | 'n' => one 10
    | 'r' => one 13
    | 't' => one 9
    | 'v' => one 11
    | '\\' => one 92
    | 'x' => do
      let n ← codeOf? 16 2 r
      let rest ← unquote? q fuel (r.drop 2)
      return UInt8.ofNat n :: rest
    | 'u' => code 4
    | 'U' => code 8
    | c =>
      if c == q then one q.toNat
      else if '0' ≤ c && c ≤ '7' then do
        let n ← codeOf? 8 3 (c :: r)
        guard (n < 256)
        let rest ← unquote? q fuel (r.drop 2)
        return UInt8.ofNat n :: rest
      else none
  | fuel + 1, c :: r =>
    if c == q || c == '\n' then none else (unquote? q fuel r).map (utf8 (String.singleton c) ++ ·)

/-- The code of a character constant. -/
def characterCode? (s : List Char) : Option Int :=
  match s with
  | [c] => if c == '\'' || c == '\\' then none else some c.toNat
  | '\\' :: 'x' :: r => if r.length == 2 then (codeOf? 16 2 r).map Int.ofNat else none
  | '\\' :: 'u' :: r => if r.length == 4 then (codeOf? 16 4 r).map Int.ofNat else none
  | '\\' :: 'U' :: r => if r.length == 8 then (codeOf? 16 8 r).map Int.ofNat else none
  | '\\' :: r =>
    match unquote? '\'' 4 ('\\' :: r) with
    | some [b] => some b.toNat
    | _ => none
  | _ => none

/-- The number that a literal denotes. -/
def number (s : List Char) : Except Fault Operand :=
  match wholeNumber? s with
  | some n => if fits64 n then .ok (.int n) else .error .badNumber
  | none =>
    match (plainDigits? false s).bind Binary64.read? with
    | some x =>
      if s.any (fun c => c == '.' || c == 'e' || c == 'E') then .ok (.float x)
      else .error .badNumber
    | none => .error .badNumber

end PayloadGen.Template
