import PayloadGen.Template.Function
import PayloadGen.Template.Reader

/-!
# Rendering templates

`Templates.render` executes a template of a set. Evaluation follows the tree; only a call of another
template leaves it, and those calls are counted down, so that templates which call each other
without end are a fault.
-/

namespace PayloadGen.Template

open Text

/-- How an execution stands. -/
structure RenderState where
  /-- The variables with their values, the last one first. -/
  vars : List (String × Value)
  /-- What has been written, the last part first. -/
  written : List Bytes

/-- An execution. -/
abbrev Render := StateT RenderState (Except Fault)

/-- How the execution of a list of nodes ends. -/
inductive Flow where
  | onward
  | leaveLoop
  | nextRound

namespace Render

/-- A text is written. -/
def write (s : Bytes) : Render Unit :=
  modify fun st => { st with written := s :: st.written }

/-- The value of a variable. -/
def lookUp (name : String) : Render Value := do
  match (← get).vars.find? (·.1 == name) with
  | some (_, v) => return v
  | none => throw (.undefinedVariable name)

/-- A new variable. -/
def declare (name : String) (v : Value) : Render Unit :=
  modify fun st => { st with vars := (name, v) :: st.vars }

/-- The variables with another value for the last one of a name. -/
def assigned? (name : String) (v : Value) : List (String × Value) → Option (List (String × Value))
  | [] => none
  | e :: r => if e.1 == name then some ((name, v) :: r) else (assigned? name v r).map (e :: ·)

/-- Another value for a variable. -/
def assign (name : String) (v : Value) : Render Unit := do
  let st ← get
  match assigned? name v st.vars with
  | some vs => set { st with vars := vs }
  | none => throw (.undefinedVariable name)

/-- The variables that an action makes go when it is done. -/
def locally {α : Type} (act : Render α) : Render α := do
  let before := (← get).vars.length
  let a ← act
  modify fun st => { st with vars := st.vars.drop (st.vars.length - before) }
  return a

/-- A field of a value. Something that is no value has no fields, and they are no values either. -/
def field (v : Value) (name : String) (hasArguments : Bool) : Except Fault Value :=
  match v with
  | .missing => .ok .missing
  | .record _ fields =>
    match fields.find? (·.1 == name) with
    | some (_, v) => if hasArguments then .error .notAFunction else .ok v
    | none => .error (.noField name)
  | .map entries =>
    if hasArguments then .error .notAFunction
    else .ok (((entries.find? (·.1 == utf8 name)).map fun e => .text e.2).getD .missing)
  | _ => .error (.noField name)

/-- Fields of fields. Only the last one could have arguments. -/
def fieldChain (hasArguments : Bool) : Value → List String → Except Fault Value
  | v, [] => .ok v
  | v, [name] => field v name hasArguments
  | v, name :: r => do fieldChain hasArguments (← field v name false) r

/-- Something that is no function gets no arguments. -/
def withoutArguments (hasArguments : Bool) (v : Value) : Except Fault Value :=
  if hasArguments then .error .notAFunction else .ok v

/-! ## Pipelines -/

mutual

/-- The value of a pipeline, which its variables take. -/
def pipeline (dot : Value) : Pipeline → Render Value
  | .mk assigns vars commands => do
    let v ← commandList dot none commands
    vars.forM fun x => if assigns then assign x v else declare x v
    return v

/-- The value of the last command; every command gets the value of the one before it. -/
def commandList (dot : Value) (final : Option Value) : List (List Operand) → Render Value
  | [] => return final.getD .missing
  | c :: r => do
    let v ← command dot final c
    commandList dot (some v) r

/-- The value of a command: a function with arguments, or an operand alone. -/
def command (dot : Value) (final : Option Value) : List Operand → Render Value
  | [] => throw .emptyCommand
  | .function "and" :: args => shortCircuit dot false none final args
  | .function "or" :: args => shortCircuit dot true none final args
  | .function f :: args => do
    let vs ← operandList dot args
    applyFunction f (vs ++ final.toList)
  | .field names :: args => fieldChain (!args.isEmpty || final.isSome) dot names
  | .variable x names :: args => do
    let v ← lookUp x
    if names.isEmpty then withoutArguments (!args.isEmpty || final.isSome) v
    else fieldChain (!args.isEmpty || final.isSome) v names
  | .chain o names :: args => do
    fieldChain (!args.isEmpty || final.isSome) (← operand dot o) names
  | .nil :: _ => throw .nilCommand
  | o :: args => do
    if !args.isEmpty || final.isSome then throw .notAFunction
    operand dot o

/-- The first operand that decides, or the last one. -/
def shortCircuit (dot : Value) (decides : Bool) (last final : Option Value) :
    List Operand → Render Value
  | [] =>
    match final, last with
    | some v, _ | none, some v => return v
    | none, none => throw .argumentCount
  | o :: r => do
    let v ← operand dot o
    if v.isTrue == decides then return v else shortCircuit dot decides (some v) final r

/-- The values of operands. -/
def operandList (dot : Value) : List Operand → Render (List Value)
  | [] => return []
  | o :: r => do
    let v ← operand dot o
    return v :: (← operandList dot r)

/-- The value of an operand. -/
def operand (dot : Value) : Operand → Render Value
  | .dot => return dot
  | .nil => return .missing
  | .bool b => return .bool b
  | .int n => return .int n
  | .float x => return .float x
  | .string s => return .text s
  | .field names => fieldChain false dot names
  | .variable x names => do fieldChain false (← lookUp x) names
  | .function f => if f == "and" || f == "or" then throw .argumentCount else applyFunction f []
  | .pipeline p => pipeline dot p
  | .chain o names => do fieldChain false (← operand dot o) names

end

/-! ## Templates -/

/-- The rounds of a loop over a value, each with its key and its item. A number has rounds without
keys. -/
def rounds (vars : List String) : Value → Except Fault (List (Value × Value))
  | .missing => .ok []
  | .list _ items => .ok (items.zipIdx.map fun (v, i) => (.int i, v))
  | .map entries => .ok (entries.map fun e => (.text e.1, .text e.2))
  | .int n =>
    if 1 < vars.length then .error .notIterable
    else .ok ((List.range n.toNat).map fun i => (.missing, .int (i : Nat)))
  | .byte b =>
    if 1 < vars.length then .error .notIterable
    else .ok ((List.range b.toNat).map fun i => (.missing, .byte (UInt8.ofNat i)))
  | _ => .error .notIterable

/-- The variables of a loop take the key and the item of a round. -/
def bindRound (p : Pipeline) (key item : Value) : Render Unit :=
  match p.vars with
  | [x] => assign x item
  | [k, x] => do
    assign k key
    assign x item
  | _ => return

/-- Rounds until one leaves the loop. -/
def loop (round : Value → Value → Render Flow) : List (Value × Value) → Render Unit
  | [] => return
  | (key, item) :: r => do
    match ← locally (round key item) with
    | .leaveLoop => return
    | _ => loop round r

mutual

/-- A node is executed. -/
def node (call : Bytes → Value → Except Fault (List Bytes)) (dot : Value) : Node → Render Flow
  | .text s => do
    write (utf8 (String.ofList s))
    return .onward
  | .action p => do
    let v ← pipeline dot p
    if p.vars.isEmpty then write v.printed
    return .onward
  | .leaveLoop => return .leaveLoop
  | .nextRound => return .nextRound
  | .call name argument => do
    let v ← match argument with
      | some p => pipeline dot p
      | none => pure .missing
    let out ← call name v
    modify fun st => { st with written := out ++ st.written }
    return .onward
  | .branch .ifTrue p body otherwise => locally do
    let v ← pipeline dot p
    if v.isTrue then nodeList call dot body else elseBranch call dot otherwise
  | .branch .withValue p body otherwise => locally do
    let v ← pipeline dot p
    if v.isTrue then nodeList call v body else elseBranch call dot otherwise
  | .branch .rangeOver p body otherwise => locally do
    let v ← pipeline dot p
    let rs ← rounds p.vars v
    if rs.isEmpty then elseBranch call dot otherwise
    else
      loop (fun key item => do
        bindRound p key item
        nodeList call item body) rs
      return .onward

/-- The branch for the other case, if there is one. -/
def elseBranch (call : Bytes → Value → Except Fault (List Bytes)) (dot : Value) :
    Option (List Node) → Render Flow
  | none => return .onward
  | some body => nodeList call dot body

/-- Nodes are executed up to one that leaves a round. -/
def nodeList (call : Bytes → Value → Except Fault (List Bytes)) (dot : Value) :
    List Node → Render Flow
  | [] => return .onward
  | n :: r => do
    match ← node call dot n with
    | .onward => nodeList call dot r
    | f => return f

end

end Render

/-- What a template of a set writes for a value, the last part first. Templates call each other to a
limited depth. -/
def Templates.written (ts : Templates) : (depth : Nat) → Bytes → Value → Except Fault (List Bytes)
  | 0, _, _ => .error .tooDeep
  | depth + 1, name, v =>
    match ts.find? (·.1 == name) with
    | none => .error (.undefinedTemplate (lossy name))
    | some (_, body) => do
      let (_, st) ← (Render.nodeList (ts.written depth) v body).run ⟨[("$", v)], []⟩
      return st.written

/-- The depth to which templates call each other. -/
def greatestDepth : Nat := 2000

/-- What a template of a set writes for a value. -/
def Templates.render (ts : Templates) (name : String) (v : Value) : Except Fault Bytes := do
  return (← ts.written greatestDepth (utf8 name) v).reverse.flatten

end PayloadGen.Template
