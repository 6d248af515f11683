import PayloadGen.Schema.OfJsonSchema
import PayloadGen.Spec.Reference
import PayloadGen.Spec.Basic
import PayloadGen.Text.CaseMap
import PayloadGen.Yaml.Decode
import PayloadGen.Yaml.Json

/-!
# Reading specifications

A specification is a YAML document, or a JSON document, which is YAML too. `Spec.read` takes the
metadata and the channels as they stand, replaces the references of every message, and reads its
payload as a schema.
-/

namespace PayloadGen

open Text Yaml

/-- Why a payload is no schema. -/
inductive PayloadError where
  | yaml (e : Yaml.Error)
  /-- A value that JSON does not have. -/
  | notJson
  /-- A keyword with a value of the wrong type. -/
  | notSchema
  | schema (e : SchemaError)

/-- The wording of the error. -/
def PayloadError.message : PayloadError → Bytes
  | yaml e => e.message
  | notJson => utf8 "json: unsupported value"
  | notSchema => utf8 "json: cannot unmarshal into jsonschema.Schema"
  | schema e => utf8 e.message

/-- Why a document is no specification. -/
inductive SpecError where
  | noReader
  | readFailed
  | unknownFormat (extension : String)
  | file (e : FileError)
  | notJson
  | yaml (e : Yaml.Error)
  | emptyDocument
  | rootNotMapping
  | channelsNotMapping
  | channel (topic : String) (e : Yaml.Error)
  | messagesNotMapping
  | reference (message : String) (e : ReferenceError)
  | message (name : String) (e : Yaml.Error)
  | noPayload (message : String)
  | payload (message : String) (e : PayloadError)

/-- The wording of the error. -/
def SpecError.text : SpecError → Bytes
  | noReader => utf8 "nil reader"
  | readFailed => utf8 "read failed"
  | unknownFormat e => utf8 ("unsupported spec format " ++ quote e)
  | file e => utf8 e.message
  | notJson => utf8 "invalid JSON: unexpected character"
  | yaml e => e.message
  | emptyDocument => utf8 "empty document"
  | rootNotMapping => utf8 "document root must be a mapping"
  | channelsNotMapping => utf8 "channels must be a mapping"
  | channel topic e => utf8 ("channel " ++ quote topic ++ ": ") ++ e.message
  | messagesNotMapping => utf8 "components.messages must be a mapping"
  | reference name e => utf8 ("message " ++ quote name ++ ": ") ++ e.message
  | message name e => utf8 ("message " ++ quote name ++ ": ") ++ e.message
  | noPayload name => utf8 ("message " ++ quote name ++ ": no payload")
  | payload name e => utf8 ("message " ++ quote name ++ ": payload: ") ++ e.message

/-- How a specification is written. -/
inductive Spec.Markup where
  | yaml
  | json
  deriving DecidableEq

namespace Spec

/-- The markup of a file, by the ending of its name. -/
def Markup.ofName (name : String) : Except SpecError Markup :=
  match String.ofList ((Path.extension name).toList.map lower) with
  | ".yaml" | ".yml" => .ok .yaml
  | ".json" => .ok .json
  | _ => .error (.unknownFormat (Path.extension name))

/-! ## What is read as it stands -/

/-- The shape of the metadata. -/
def infoShape : Yaml.Shape :=
  .record "asyncapi.rawInfo" [("title", .text), ("version", .text), ("description", .text)]

/-- The shape of a document. -/
def headShape : Yaml.Shape :=
  .record "asyncapi.rawSpec" [("asyncapi", .text), ("info", infoShape)]

/-- The shape of one direction of a channel. -/
def operationShape : Yaml.Shape :=
  .record "asyncapi.rawOperation"
    [("summary", .text),
      ("message", .record "struct \x7b Ref string \"yaml:\\\"$ref\\\"\" \x7d" [("$ref", .text)])]

/-- The shape of a channel. -/
def channelShape : Yaml.Shape :=
  .record "asyncapi.rawChannel"
    [("description", .text), ("subscribe", .optional operationShape),
      ("publish", .optional operationShape)]

/-- The shape of a message, its payload apart. -/
def messageShape : Yaml.Shape :=
  .record "asyncapi.rawMessage" [("title", .text), ("description", .text)]

/-- The metadata that has been read. -/
def infoOf (f : Filled) : Info :=
  match f.field? "info" with
  | some i => ⟨i.textOf "title", i.textOf "version", i.textOf "description"⟩
  | none => ⟨"", "", ""⟩

/-- The direction of a channel that has been read. -/
def operationOf (f : Filled) : Operation :=
  ⟨f.textOf "summary", ((f.field? "message").map (·.textOf "$ref")).getD ""⟩

/-- A channel. -/
def readChannel (l : Library) (topic : String) (n : Node) : Except SpecError Channel := do
  let f ← (l.fill channelShape n).mapError (.channel topic)
  return {
    topic
    description := f.textOf "description"
    subscribe := (f.inside? "subscribe").map operationOf
    publish := (f.inside? "publish").map operationOf }

/-- The channels of a document, if it has any. -/
def readChannels (l : Library) (root : Node) : Except SpecError (List Channel) :=
  match root.entryAt? "channels" with
  | none => .ok []
  | some (.mapping _ _ entries) => entries.mapM fun (k, v) => readChannel l k.label v
  | some _ => .error .channelsNotMapping

/-! ## Messages -/

/-- The schema that a payload is. Its properties are in document order. -/
def readPayload (l : Library) (n : Node) : Except PayloadError Schema := do
  let value ← (l.value n).mapError .yaml
  match value.toJson? with
  | none => throw .notJson
  | some json =>
    match JsonSchema.ofJson? json with
    | none => throw .notSchema
    | some s => (s.toSchemaAt (KeyOrder.ofNode "" n) "").mapError .schema

/-- A message, after its references have been replaced. -/
def readMessage (l : Library) (name : String) (n : Node) : Except SpecError Message := do
  let f ← (l.fill messageShape n).mapError (.message name)
  match n.entryAt? "payload" with
  | none => throw (.noPayload name)
  | some p =>
    let payload ← (readPayload l p).mapError (.payload name)
    return ⟨name, f.textOf "title", f.textOf "description", payload⟩

/-- Messages one after the other. Documents that references lead to stay in the library. -/
def readMessages (files : Option FileSource) (file : String) :
    Library → List (Node × Node) → Except SpecError (List Message)
  | _, [] => .ok []
  | l, (k, v) :: r => do
    let (n, l) := References.replace files file v l
    let m ← readMessage l k.label (← n.mapError (.reference k.label))
    return m :: (← readMessages files file l r)

/-- The node of the messages, if the document has any. -/
def messagesNode? (root : Node) : Option Node :=
  (root.entryAt? "components").bind (Node.entryAt? "messages")

/-- The messages of a document, if it has any. -/
def messagesOf (files : Option FileSource) (file : String) (l : Library) (root : Node) :
    Except SpecError (List Message) :=
  match messagesNode? root with
  | none => .ok []
  | some (.mapping _ _ entries) => readMessages files file l entries
  | some _ => .error .messagesNotMapping

/-! ## Documents -/

/-- The specification of a document. -/
def ofDocument (files : Option FileSource) (name : String)
    (d : Document) : Except SpecError Spec := do
  match d.root with
  | .mapping .. =>
    let l : Library := [(name, d)]
    let head ← (l.fill headShape d.root).mapError .yaml
    let channels ← readChannels l d.root
    let messages ← messagesOf files name l d.root
    return { asyncapi := head.textOf "asyncapi", info := infoOf head, channels, messages }
  | _ => throw .rootNotMapping

/-- The document of a text. -/
def documentOf (name text : String) : Except SpecError Document := do
  match ← (Document.read name text).mapError .yaml with
  | none => throw .emptyDocument
  | some d => return d

/-- The specification of a text. The name is that of its file, and empty for a text that has
none. -/
def read (form : Markup) (files : Option FileSource)
    (name text : String) : Except SpecError Spec := do
  match form with
  | .yaml => pure ()
  | .json => if (Json.read? .loose text.toList).isNone then throw .notJson
  ofDocument files name (← documentOf name text)

/-- The specification in a file. -/
def load (files : FileSource) (name : String) : Except SpecError Spec := do
  let form ← Markup.ofName name
  let text ← (files.read name).mapError .file
  read form (some files) name text

end Spec

end PayloadGen
