import PayloadGen.Template.Node

/-!
# Reading templates

`Templates.read` reads a text into a set of templates: the text itself under its own name, and the
templates that it defines. A template that consists of nothing but white space does not replace
another one.
-/

namespace PayloadGen.Template

open Text

/-- Templates by name. -/
abbrev Templates := List (Bytes × List Node)

/-- Does a template consist of nothing but white space? -/
def isBare (body : List Node) : Bool :=
  body.all fun
    | .text s => s.all isSpace
    | _ => false

/-- A template added to a set. -/
def Templates.add (ts : Templates) (name : Bytes) (body : List Node) : Except Fault Templates :=
  match ts.find? (·.1 == name) with
  | none => .ok (ts ++ [(name, body)])
  | some (_, old) =>
    if isBare old then .ok (ts.map fun t => if t.1 == name then (name, body) else t)
    else if isBare body then .ok ts
    else .error (.repeatedDefinition (lossy name))

/-- How reading stands. -/
structure ReadState where
  tokens : List Token
  /-- The variables that exist, the last one first. -/
  vars : List String
  /-- Loops around. -/
  loops : Nat
  defined : Templates

/-- A reader of tokens. -/
abbrev TokenReader := StateT ReadState (Except Fault)

/-- The functions that templates may call. -/
def functionNames : List String :=
  ["and", "call", "html", "index", "slice", "js", "len", "not", "or", "print", "printf",
    "println", "urlquery", "eq", "ge", "gt", "le", "lt", "ne", "title", "pascal", "snake",
    "callback", "join", "payloads"]

/-- Words that are no names of functions. -/
def keywords : List String :=
  ["block", "break", "continue", "define", "else", "end", "if", "range", "nil", "template", "with"]

namespace TokenReader

/-- The token at hand, if there is one. -/
def peek? : TokenReader (Option Token) := do
  return (← get).tokens.head?

/-- The next token is at hand. -/
def drop : TokenReader Unit :=
  modify fun s => { s with tokens := s.tokens.drop 1 }

/-- White space is passed over. -/
def skipSpace : TokenReader Unit :=
  modify fun s => { s with tokens := s.tokens.dropWhile (· == .space) }

/-- The token at hand after white space. -/
def peekSolid : TokenReader Token := do
  skipSpace
  match ← peek? with
  | some t => return t
  | none => throw .unexpectedEnd

/-- A certain token must be at hand after white space. -/
def expect (t : Token) : TokenReader Unit := do
  if (← peekSolid) == t then drop else throw .unexpectedToken

/-- A name of a template. -/
def templateName : TokenReader Bytes := do
  match ← peekSolid with
  | .string s =>
    drop
    match unquote? '"' (s.length + 1) s with
    | some b => return b
    | none => throw .badString
  | .rawString s => drop; return utf8 (String.ofList s)
  | _ => throw .unexpectedToken

/-- A variable exists from here on. -/
def declare (name : String) : TokenReader Unit :=
  modify fun s => { s with vars := name :: s.vars }

/-- The variables that a pipeline sets. A loop may set two. -/
def pipelineVars (inLoop : Bool) : TokenReader (Bool × List String) := do
  let s ← get
  let solid := s.tokens.dropWhile (· == .space)
  match solid with
  | .variable v :: after =>
    match after.dropWhile (· == .space) with
    | .assign :: r => set { s with tokens := r, vars := v :: s.vars }; return (true, [v])
    | .declare :: r => set { s with tokens := r, vars := v :: s.vars }; return (false, [v])
    | .mark ',' :: r =>
      if !inLoop then throw .unexpectedToken
      match r.dropWhile (· == .space) with
      | .variable w :: r =>
        let vars := w :: v :: s.vars
        match r.dropWhile (· == .space) with
        | .assign :: r => set { s with tokens := r, vars := vars }; return (true, [v, w])
        | .declare :: r => set { s with tokens := r, vars := vars }; return (false, [v, w])
        | _ => throw .unexpectedToken
      | _ => throw .unexpectedToken
    | _ => return (false, [])
  | _ => return (false, [])

/-- The fields that follow a value directly. -/
def fields : (fuel : Nat) → TokenReader (List String)
  | 0 => return []
  | fuel + 1 => do
    match ← peek? with
    | some (.field f) => drop; return f :: (← fields fuel)
    | _ => return []

/-- Fields after a value. -/
def withFields (o : Operand) (fs : List String) : Except Fault Operand :=
  match fs, o with
  | [], o => .ok o
  | fs, .field names => .ok (.field (names ++ fs))
  | fs, .variable v names => .ok (.variable v (names ++ fs))
  | _, .bool _ | _, .string _ | _, .int _ | _, .float _ | _, .nil | _, .dot =>
    .error .unexpectedToken
  | fs, o => .ok (.chain o fs)

/-- Does a command begin with something that can be evaluated with an argument? -/
def isExecutable : List Operand → Bool
  | .bool _ :: _ | .dot :: _ | .nil :: _ | .int _ :: _ | .float _ :: _ | .string _ :: _ => false
  | _ => true

/-- May the token begin a command? -/
def beginsCommand : Token → Bool
  | .dot | .field _ | .variable _ | .number _ | .character _ | .string _ | .rawString _
  | .leftParen => true
  | .word w => w == "nil" || !keywords.contains w
  | _ => false

mutual

/-- A pipeline up to its last token. -/
def pipeline (inLoop : Bool) (last : Token) : (fuel : Nat) → TokenReader Pipeline
  | 0 => throw .unexpectedEnd
  | fuel + 1 => do
    let (assigns, vars) ← pipelineVars inLoop
    let commands ← commandList last fuel
    if commands.isEmpty then throw .emptyPipeline
    if !(commands.drop 1).all isExecutable then throw .notExecutable
    return .mk assigns vars commands
termination_by structural fuel => fuel

/-- The commands up to the last token. -/
def commandList (last : Token) : (fuel : Nat) → TokenReader (List (List Operand))
  | 0 => throw .unexpectedEnd
  | fuel + 1 => do
    let t ← peekSolid
    if t == last then
      drop
      return []
    else if beginsCommand t then
      let c ← command fuel
      if c.isEmpty then throw .emptyCommand
      return c :: (← commandList last fuel)
    else throw .unexpectedToken
termination_by structural fuel => fuel

/-- The operands of a command. -/
def command : (fuel : Nat) → TokenReader (List Operand)
  | 0 => throw .unexpectedEnd
  | fuel + 1 => do
    skipSpace
    let o ← operand fuel
    match ← peek? with
    | some .space => drop; return o.toList ++ (← command fuel)
    | some .rightBraces | some .rightParen => return o.toList
    | some .bar => drop; return o.toList
    | _ => throw .unexpectedToken
termination_by structural fuel => fuel

/-- An operand with the fields that follow it, if one stands here. -/
def operand : (fuel : Nat) → TokenReader (Option Operand)
  | 0 => throw .unexpectedEnd
  | fuel + 1 => do
    match ← term fuel with
    | none => return none
    | some o =>
      let fs ← fields (← get).tokens.length
      return some (← withFields o fs)
termination_by structural fuel => fuel

/-- An operand without fields. -/
def term : (fuel : Nat) → TokenReader (Option Operand)
  | 0 => throw .unexpectedEnd
  | fuel + 1 => do
    match ← peek? with
    | some .dot => drop; return some .dot
    | some (.field f) => drop; return some (.field [f])
    | some (.variable v) =>
      drop
      if (← get).vars.contains v then return some (.variable v [])
      else throw (.undefinedVariable v)
    | some (.number n) => drop; return some (← number n)
    | some (.character c) =>
      drop
      match characterCode? c with
      | some n => return some (.int n)
      | none => throw .badNumber
    | some (.string s) =>
      drop
      match unquote? '"' (s.length + 1) s with
      | some b => return some (.string b)
      | none => throw .badString
    | some (.rawString s) => drop; return some (.string (utf8 (String.ofList s)))
    | some .leftParen => drop; return some (.pipeline (← pipeline false .rightParen fuel))
    | some (.word w) =>
      if w == "true" || w == "false" then do drop; return some (.bool (w == "true"))
      else if w == "nil" then do drop; return some .nil
      else if keywords.contains w then return none
      else if functionNames.contains w then do drop; return some (.function w)
      else throw (.undefinedFunction w)
    | _ => return none
termination_by structural fuel => fuel

end

/-- How a list of nodes ends. -/
inductive Ending where
  | finish
  | otherwise

/-- The keyword of an action at hand. -/
def keywordHere : TokenReader (Option String) := do
  match ← peekSolid with
  | .word w => return if keywords.contains w then some w else none
  | _ => return none

mutual

/-- The nodes up to the action that ends them. -/
def body : (fuel : Nat) → TokenReader (List Node × Ending)
  | 0 => throw .unexpectedEnd
  | fuel + 1 => do
    skipSpace
    match ← peek? with
    | none => throw .unexpectedEnd
    | some (.text s) =>
      drop
      let (rest, e) ← body fuel
      return (.text s :: rest, e)
    | some .leftBraces =>
      drop
      match ← keywordHere with
      | some "end" => drop; expect .rightBraces; return ([], .finish)
      | some "else" =>
        drop
        match ← keywordHere with
        | some "if" | some "with" => return ([], .otherwise)
        | _ => expect .rightBraces; return ([], .otherwise)
      | k =>
        let n ← action k fuel
        let (rest, e) ← body fuel
        return (n :: rest, e)
    | some _ => throw .unexpectedToken
termination_by structural fuel => fuel

/-- An action after its opening braces, at a keyword or at a pipeline. -/
def action (k : Option String) : (fuel : Nat) → TokenReader Node
  | 0 => throw .unexpectedEnd
  | fuel + 1 => do
    match k with
    | some "if" => drop; control .ifTrue fuel
    | some "with" => drop; control .withValue fuel
    | some "range" => drop; control .rangeOver fuel
    | some "break" =>
      drop
      expect .rightBraces
      if (← get).loops == 0 then throw .outsideRange
      return .leaveLoop
    | some "continue" =>
      drop
      expect .rightBraces
      if (← get).loops == 0 then throw .outsideRange
      return .nextRound
    | some "template" =>
      drop
      let name ← templateName
      if (← peekSolid) == .rightBraces then
        drop
        return .call name none
      else return .call name (some (← pipeline false .rightBraces fuel))
    | some "block" =>
      drop
      let name ← templateName
      let argument ← pipeline false .rightBraces fuel
      define name fuel
      return .call name (some argument)
    | some "nil" => return .action (← pipeline false .rightBraces fuel)
    | some _ => throw .unexpectedToken
    | none => return .action (← pipeline false .rightBraces fuel)
termination_by structural fuel => fuel

/-- A branch after its keyword. -/
def control (kind : Branch) : (fuel : Nat) → TokenReader Node
  | 0 => throw .unexpectedEnd
  | fuel + 1 => do
    let outer := (← get).vars
    let isLoop := match kind with
      | .rangeOver => true
      | _ => false
    let p ← pipeline isLoop .rightBraces fuel
    if isLoop then modify fun s => { s with loops := s.loops + 1 }
    let (list, e) ← body fuel
    if isLoop then modify fun s => { s with loops := s.loops - 1 }
    let otherwise ← match e with
      | .finish => pure none
      | .otherwise =>
        match kind, ← peek? with
        | .ifTrue, some (.word "if") => do drop; pure (some [← control .ifTrue fuel])
        | .withValue, some (.word "with") => do drop; pure (some [← control .withValue fuel])
        | _, _ => do
          let (list, e) ← body fuel
          match e with
          | .finish => pure (some list)
          | .otherwise => throw .unexpectedToken
    modify fun s => { s with vars := outer }
    return .branch kind p list otherwise
termination_by structural fuel => fuel

/-- The body of a template that is defined in another one. -/
def define (name : Bytes) : (fuel : Nat) → TokenReader Unit
  | 0 => throw .unexpectedEnd
  | fuel + 1 => do
    let outer ← get
    set { outer with vars := ["$"], loops := 0 }
    let (list, e) ← body fuel
    match e with
    | .otherwise => throw .unexpectedToken
    | .finish =>
      let s ← get
      let defined ← s.defined.add name list
      set { s with vars := outer.vars, loops := outer.loops, defined }
termination_by structural fuel => fuel

end

/-- The nodes of a whole template. Definitions stand only here, outside all branches. -/
def whole : (fuel : Nat) → TokenReader (List Node)
  | 0 => throw .unexpectedEnd
  | fuel + 1 => do
    match ← peek? with
    | none => return []
    | some (.text s) => drop; return .text s :: (← whole fuel)
    | some .leftBraces =>
      drop
      match ← keywordHere with
      | some "define" =>
        drop
        let name ← templateName
        expect .rightBraces
        define name fuel
        whole fuel
      | some "end" | some "else" => throw .unexpectedToken
      | k =>
        let n ← action k fuel
        return n :: (← whole fuel)
    | some _ => throw .unexpectedToken

end TokenReader

/-- The templates of a text, added to others. -/
def Templates.read (ts : Templates) (name text : String) : Except Fault Templates := do
  let tokens ← Token.scan text
  let (nodes, s) ← (TokenReader.whole (4 * tokens.length + 10)).run ⟨tokens, ["$"], 0, []⟩
  let own ← s.defined.add (utf8 name) nodes
  -- Definitions of one text replace those of another, unless they are bare.
  return own.foldl (fun ts (n, b) =>
    if ts.any (·.1 == n) then
      (if isBare b then ts else ts.map fun t => if t.1 == n then (n, b) else t)
    else ts ++ [(n, b)]) ts

end PayloadGen.Template
