import PayloadGen.Payload.Type
import PayloadGen.Payload.Name
import PayloadGen.Text.Quoted

/-!
# What a generated file says

Every text format shows the same things: types with their fields, topics and callbacks. A `Sheet`
holds them with all names and types already spelled for one format, and a `Dialect` is the spelling
of a format.
-/

namespace PayloadGen.Format

/-- Why a unit cannot be written in a format. -/
inductive Error where
  /-- There is no unit to write. -/
  | noUnit
  /-- A sequence type of a field without a type of its elements. -/
  | noElement (className field : String)
  /-- A field of no kind of type. -/
  | unknownKind (className field : String) (code : Nat)
  /-- A sequence type of negative length, for which there is no spelling. -/
  | negativeLength
  /-- A sequence of sequences in a format that has none. -/
  | nestedArrays (className field : String)
  /-- A file that is no source text of its language. -/
  | malformedSource
  /-- A default that is not a JSON value. -/
  | malformedDefault
  /-- The values of a field that are not spelled as JSON. -/
  | malformedSymbols (className field : String)
  /-- A format of an unknown name. -/
  | unknownFormat (name : String) (available : List String)

/-- The text of an error. -/
def Error.message : Error → String
  | noUnit => "failed to prepare schema data: nil unit"
  | noElement c f =>
    "failed to prepare schema data: " ++ c ++ "." ++ f ++ ": array type without element"
  | unknownKind c f n =>
    "failed to prepare schema data: " ++ c ++ "." ++ f ++ ": unsupported type kind " ++ Text.ofInt n
  | negativeLength => ""
  | nestedArrays c f => c ++ "." ++ f ++ ": nested arrays are not supported by proto3"
  | malformedSource => "failed to format generated code: syntax error"
  | malformedDefault => "failed to marshal Avro schema: invalid default"
  | malformedSymbols c f => c ++ "." ++ f ++ ": decoding enum symbols: invalid JSON"
  | unknownFormat name available =>
    "unknown format " ++ Text.quote name ++ " (available: [" ++ " ".intercalate available ++ "])"

/-- A field as a format shows it. -/
structure FieldRow where
  name : String
  type : String
  /-- The field may be missing. -/
  nullable : Bool
  /-- An annotation in the language of the format. -/
  tag : String
  description : String
  constraint : Option Constraint
  /-- The values that the field is limited to. -/
  literals : List String

/-- A type as a format shows it. -/
structure TypeRow where
  name : String
  fields : List FieldRow

/-- All that a generated file shows. -/
structure Sheet where
  title : String
  version : String
  types : List TypeRow
  /-- Topics with the name of their type, in ascending order. -/
  topics : List (String × String)
  callbacks : List Callback

/-- The spelling of types and names in a format. -/
structure Dialect where
  scalar : Scalar → String
  literal : List String → String
  list : String → String
  tuple : String → Int → Except Error String
  classRef : String → String
  typeName : String → String
  callbackName : String → String
  /-- The last touch on a field whose type is spelled. -/
  finish : FieldRow → FieldRow

namespace Dialect

mutual

/-- The spelling of the type of a field. -/
def spell (d : Dialect) (className field : String) : FieldType → Except Error String
  | .mk shape literals _ _ => d.spellShape className field literals shape

/-- The spelling of a shape with its literals. -/
def spellShape (d : Dialect) (className field : String) (literals : List String) :
    Shape → Except Error String
  | .scalar k => .ok (d.scalar k)
  | .literal => .ok (d.literal literals)
  | .ofClass c => .ok (d.classRef c)
  | .list (some e) => (d.spell className field e).map d.list
  | .tuple (some e) n => (d.spell className field e).bind (d.tuple · n)
  | .list none | .tuple none _ => .error (.noElement className field)
  | .invalid code => .error (.unknownKind className field code)

end

/-- A field with its type spelled. -/
def row (d : Dialect) (className : String) (f : Field) : Except Error FieldRow := do
  let type ← d.spell className f.name f.type
  return d.finish ⟨f.name, type, f.type.optional, "", f.doc, f.type.constraint, f.type.literals⟩

/-- The sheet of a unit. -/
def sheet (d : Dialect) (u : CompiledUnit) : Except Error Sheet := do
  let types ← u.classes.mapM fun c => return ⟨d.typeName c.name, ← c.fields.mapM (d.row c.name)⟩
  return ⟨u.title, u.version, types, u.topics.entries.map fun (t, c) => (t, d.typeName c),
    u.callbacks.map fun c => ⟨d.callbackName c.payload, d.typeName c.payload⟩⟩

end Dialect

/-- A text after its label, if there is one. -/
def present (label : String) : Option String → List String
  | some s => [label ++ s]
  | none => []

/-- The texts of the bounds of a constraint, each after its label, in the order least, greatest,
fewest items, most items. -/
def bounds (least greatest fewest most : String) (c : Constraint) : List String :=
  present least c.least ++ present greatest c.greatest ++
    present fewest (c.minItems.map Text.ofInt) ++ present most (c.maxItems.map Text.ofInt)

end PayloadGen.Format
