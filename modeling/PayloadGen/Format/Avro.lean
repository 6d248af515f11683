import PayloadGen.Format.Sheet
import PayloadGen.Json.Writer

/-!
# Avro schemas

A JSON file with one record per class. A closed set of strings becomes an enum if every value is an
Avro name, and a string otherwise; the name of an enum is made of those of its record and field.
-/

namespace PayloadGen.Format.Avro

open Text

/-- The namespace of records that are given none. -/
def defaultNamespace : String := "payloads"

/-- A name of the format: ASCII letters, digits and underscores, not beginning with a digit. -/
def isName (s : String) : Bool :=
  match s.toList with
  | [] => false
  | c :: r =>
    (isAsciiLetter c || c == '_') && r.all fun d => isAsciiLetter d || isAsciiDigit d || d == '_'

/-- The type of a field. -/
inductive Schema where
  /-- A scalar, or the record of a name. -/
  | named (name : String)
  | array (items : Schema)
  /-- An enum, which is defined where it stands. The name is a byte sequence, for capitals are
  formed byte by byte. -/
  | enum (name : Bytes) (symbols : List String)
  /-- Null or a value of the type. -/
  | nullable (type : Schema)

/-- A field of a record. -/
structure RecordField where
  name : String
  type : Schema
  doc : String
  /-- The default, spelled as JSON. -/
  default? : Option String

/-- A record. -/
structure Record where
  name : String
  namespaceName : String
  fields : List RecordField

/-- The spelling of types. Marks tell classes, arrays and enums from scalars, so that the schema of
a type can be read off its spelling. -/
def dialect : Dialect where
  scalar
    | .integer => "long"
    | .number => "double"
    | .boolean => "boolean"
    | .string => "string"
  literal ls := "enum:" ++ String.ofList (Json.array (ls.map Json.ofString)).compact
  list e := "array:" ++ e
  tuple e _ := .ok ("array:" ++ e)
  classRef c := "ref:" ++ c
  typeName c := c
  callbackName c := c
  finish f := { f with description := trim f.description }

/-- The symbols of an enum, which are spelled as a JSON array. -/
def symbols? (spelling : List Char) : Option (List String) :=
  match Json.read? .loose spelling with
  | some (.array items) => items.mapM Json.string?
  | _ => none

/-! ## Records -/

/-- The type that is spelled, if it is one; `name` is for an enum inside it. -/
def schema? (name : Bytes) : (spelling : List Char) → Option Schema
  | 'r' :: 'e' :: 'f' :: ':' :: c => some (.named (String.ofList c))
  | 'a' :: 'r' :: 'r' :: 'a' :: 'y' :: ':' :: e => (schema? name e).map .array
  | 'e' :: 'n' :: 'u' :: 'm' :: ':' :: ls =>
    (symbols? ls).map fun symbols => if symbols.all isName then .enum name symbols
      else .named "string"
  | scalar => some (.named (String.ofList scalar))

/-- The name of an enum in a field of a record. -/
def enumName (className field : String) : Bytes :=
  utf8 className ++ Name.pascal field ++ utf8 "Enum"

/-- A field of a record. One that may be missing admits null, which is its default. -/
def recordField (className : String) (f : FieldRow) : Except Error RecordField :=
  match schema? (enumName className f.name) f.type.toList with
  | none => .error (.malformedSymbols className f.name)
  | some type =>
    if f.nullable then .ok ⟨f.name, .nullable type, f.description, some "null"⟩
    else .ok ⟨f.name, type, f.description, f.constraint.bind (·.default?)⟩

/-- The records of a unit, one for each class. -/
def records (package : String) (u : CompiledUnit) : Except Error (List Record) := do
  let namespaceName := if package = "" then defaultNamespace else package
  let s ← dialect.sheet u
  s.types.mapM fun t => return ⟨t.name, namespaceName, ← t.fields.mapM (recordField t.name)⟩

/-! ## Their text -/

/-- A type as JSON. -/
def Schema.toJson : Schema → Json
  | named name => .ofString name
  | array items => .ofMembers [("type", .ofString "array"), ("items", items.toJson)]
  | enum name symbols => .object [(Json.quoted "type", [], .ofString "enum"),
      (Json.quoted "name", [], .atom (Json.quotedBytes name)),
      (Json.quoted "symbols", [], .array (symbols.map Json.ofString))]
  | nullable type => .array [.ofString "null", type.toJson]

/-- A field as JSON. Its default must be a JSON value. -/
def RecordField.toJson (f : RecordField) : Except Error Json :=
  let members := [("name", Json.ofString f.name), ("type", f.type.toJson)] ++
    (if f.doc = "" then [] else [("doc", .ofString f.doc)])
  match f.default? with
  | none => .ok (.ofMembers members)
  | some d =>
    match Json.read? .loose d.toList with
    | some v => .ok (.ofMembers (members ++ [("default", v)]))
    | none => .error .malformedDefault

/-- A record as JSON. -/
def Record.toJson (r : Record) : Except Error Json := do
  return .ofMembers [("type", .ofString "record"), ("name", .ofString r.name),
    ("namespace", .ofString r.namespaceName),
    ("fields", .array (← r.fields.mapM RecordField.toJson))]

/-- The file of a unit. -/
def render (package : String) (u : CompiledUnit) : Except Error String := do
  let records ← records package u
  return String.ofList ((Json.array (← records.mapM Record.toJson)).indented 0 ++ ['\n'])

end PayloadGen.Format.Avro
