import PayloadGen.Log.Basic
import PayloadGen.Number.Layout
import PayloadGen.Payload.Error
import PayloadGen.Payload.Name
import PayloadGen.Payload.Type
import PayloadGen.Spec.Basic

/-!
# Compilation of specifications

`Schema.resolve` gives the type of a property, together with the classes of the objects inside it,
and `Schema.classes` the classes of a whole payload. `compile` puts the classes of all messages
together, binds the topics and checks that names are distinct and known.
-/

namespace PayloadGen

/-- The literal of a bound: all digits in their places. -/
def boundLiteral (x : Binary64) : String :=
  x.render .positionalOnly

/-- The annotation of a number, if its rule constrains it. A default of `null` counts as none. -/
def NumberRule.constraint (r : NumberRule) : Option Constraint :=
  if r.isConstrained then
    let literal := (r.default?.map Text.trim).filter fun d => d != "" && d != "null"
    some ⟨literal, r.minimum.map boundLiteral, r.maximum.map boundLiteral, none, none⟩
  else none

namespace Schema

/-- The classes of an object: those of its properties, and last its own. Only a closed object makes
a class. -/
def declare (name : String) (closed : Bool)
    (parts : Except CompileError (List Field × List ClassDef)) :
    Except CompileError (List ClassDef) :=
  if closed then parts.map fun (fields, hoisted) => hoisted ++ [⟨name, fields⟩]
  else .error (.openObject name)

/-- The shape of an array whose items have a type: a tuple if its length is fixed. -/
def arrayShape (elem : FieldType) (least greatest : Option Int) : Shape :=
  match fixedLength? least greatest with
  | some n => .tuple (some elem) n
  | none => .list (some elem)

/-- The annotation of an array. Inside another array (`nested`) there is none. -/
def arrayConstraint (nested : Bool) (least greatest : Option Int) : Option Constraint :=
  if !nested && (least.isSome || greatest.isSome) then some ⟨none, none, none, least, greatest⟩
  else none

/-- The type of a property in a class: what its schema gives, or may be missing if it is not
required. -/
def propertyType (required : List String) (property : String) (type : FieldType) : FieldType :=
  if required.contains property then type else type.asOptional

mutual

/-- The type of a schema that stands at a property of a class, and the classes of the objects inside
it. Inside an array (`nested`) types carry no annotation. -/
def resolve (property parent : String) (nested : Bool) :
    Schema → Except CompileError (FieldType × List ClassDef)
  | .string _ [] => .ok (.plain (.scalar .string), [])
  | .string _ (l :: ls) => .ok (.mk .literal (l :: ls) false none, [])
  | .number _ rule =>
    let kind := if rule.integral then .integer else .number
    .ok (.mk (.scalar kind) [] false (if nested then none else rule.constraint), [])
  | .boolean _ => .ok (.plain (.scalar .boolean), [])
  | .object _ properties required closed => do
    let name := Name.nestedClass parent property
    let defs ← declare name closed (resolveProperties name required properties)
    .ok (.plain (.ofClass name), defs)
  | .array _ items least greatest => do
    let (elem, defs) ← resolve property parent true items
    match (fixedLength? least greatest).filter (· < 0) with
    | some n => .error (.negativeCount parent property n)
    | none =>
      let shape := arrayShape elem least greatest
      .ok (.mk shape [] false (arrayConstraint nested least greatest), defs)
  | .unknown _ tag => .error (.unsupportedType parent property tag)
  | .absent => .error (.missingSchema parent property)

/-- The fields of the properties of a class, and the classes of the objects inside them: those of
each property go before those of the properties above it. -/
def resolveProperties (parent : String) (required : List String) :
    List (String × Schema) → Except CompileError (List Field × List ClassDef)
  | [] => .ok ([], [])
  | (property, schema) :: rest => do
    let (type, nested) ← resolve property parent false schema
    let (fields, hoisted) ← resolveProperties parent required rest
    let field := ⟨property, propertyType required property type, schema.description⟩
    .ok (field :: fields, hoisted ++ nested)

end

/-- The type of a property that is required or not. -/
def resolveProperty (required : Bool) (property parent : String) (nested : Bool) (s : Schema) :
    Except CompileError (FieldType × List ClassDef) := do
  let (type, defs) ← s.resolve property parent nested
  .ok (if required then type else type.asOptional, defs)

/-- The classes of a payload whose own class has the given name. -/
def classes (name : String) : Schema → Except CompileError (List ClassDef)
  | .object _ properties required closed =>
    declare name closed (resolveProperties name required properties)
  | s => .error (.notAnObject name s.kindName)

end Schema

/-- The operation of a channel that counts: its subscription, else its publication. -/
def Channel.operation? (c : Channel) : Option Operation :=
  c.subscribe.or c.publish

/-- The message that a channel carries. -/
def Channel.message (c : Channel) : Except CompileError String :=
  match c.operation? with
  | none => .error (.missingDirection c.topic)
  | some op =>
    if op.messageRef = "" then .error (.missingMessageRef c.topic)
    else .ok (Name.message op.messageRef)

/-- The payload class of each topic. Of two channels of one topic the later counts. -/
def bindTopics (channels : List Channel) : Except CompileError (Dict String) :=
  channels.foldlM (fun topics c => return topics.insert c.topic (← c.message)) .empty

/-- The distinct classes bound to topics, in ascending order. -/
def payloadClasses (topics : Pairs String) : List String :=
  sortTexts (distinct (topics.map (·.2)))

/-- One handler signature per distinct class name, in ascending order. -/
def callbacks (classNames : List String) : List Callback :=
  (sortTexts (distinct classNames)).map fun c => ⟨Name.callback c, c⟩

/-- The first class name that occurs twice. -/
def firstRepeated? (seen : List String) : List String → Option String
  | [] => none
  | n :: r => if seen.contains n then some n else firstRepeated? (n :: seen) r

/-- The classes of a message. -/
def Message.classes (m : Message) : Except CompileError (List ClassDef) :=
  (m.payload.classes m.name).mapError (.inMessage m.name)

/-- How a compilation runs. -/
structure CompileOptions where
  /-- With two workers or more the messages are compiled side by side. -/
  workers : Int
  /-- The run is cancelled before it begins. -/
  canceled : Bool

/-- The entry that announces a message. -/
def announcement (m : Message) : Log.Entry :=
  ⟨.debug, "building code for message", [("message", .text m.name)]⟩

/-- The classes of all messages one after the other, up to the first fault, and what is logged. -/
def compileInTurn : List Message → List Log.Entry × Except CompileError (List ClassDef)
  | [] => ([], .ok [])
  | m :: r =>
    match m.classes with
    | .error e => ([announcement m], .error e)
    | .ok defs =>
      let (log, result) := compileInTurn r
      (announcement m :: log, result.map (defs ++ ·))

/-- The classes of all messages, each compiled on its own; the first fault in message order
counts. -/
def compileSideBySide (messages : List Message) :
    List Log.Entry × Except CompileError (List ClassDef) :=
  (messages.map announcement, (messages.mapM Message.classes).map List.flatten)

/-- The classes of all messages, unless two have one name. -/
def distinctClasses (defs : List ClassDef) : Except CompileError (List ClassDef) :=
  match firstRepeated? [] (defs.map (·.name)) with
  | some n => .error (.nameCollision n)
  | none => .ok defs

/-- The classes of all messages, in message order, and what is logged. -/
def compileMessages (options : CompileOptions) (messages : List Message) :
    List Log.Entry × Except CompileError (List ClassDef) :=
  if options.canceled then ([], .error .canceled)
  else
    let (log, result) :=
      if options.workers < 2 then compileInTurn messages else compileSideBySide messages
    (log, result.bind distinctClasses)

/-- Every topic carries a message that is known. -/
def checkBound (messages : List Message) (topics : Dict String) : Except CompileError Unit :=
  match List.find? (fun t => !messages.any (·.name == t.2)) topics.entries with
  | some (topic, m) => .error (.unknownMessage topic m)
  | none => .ok ()

/-- The compiled unit of a specification, and what is logged. -/
def compile (options : CompileOptions) (spec : Spec) :
    List Log.Entry × Except CompileError CompiledUnit :=
  match bindTopics spec.channels with
  | .error e => ([], .error e)
  | .ok topics =>
    match compileMessages options spec.messages with
    | (log, .error e) => (log, .error e)
    | (log, .ok classes) =>
      match checkBound spec.messages topics with
      | .error e => (log, .error e)
      | .ok _ =>
        let summary : Log.Entry :=
          ⟨.info, "compiled spec", [("messages", .int spec.messages.length),
            ("classes", .int classes.length), ("topics", .int topics.entries.length)]⟩
        (log ++ [summary], .ok ⟨spec.info.title, spec.info.version, classes, topics,
          callbacks (payloadClasses topics.entries)⟩)

end PayloadGen
