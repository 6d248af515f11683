import PayloadGen.Schema.Basic
import PayloadGen.Schema.JsonSchema
import PayloadGen.Schema.KeyOrder
import PayloadGen.Text.Quoted

/-!
# Payload schemas from schema documents

`JsonSchema.toSchema` keeps of a schema document what payloads use. The properties of an object are
listed in the order that the document gives them, as far as it is recorded.
-/

namespace PayloadGen

/-- Why a schema document is no payload schema. -/
inductive SchemaError where
  | missing
  | noItems
  | inProperty (name : String) (cause : SchemaError)
  | inItems (cause : SchemaError)

/-- The wording of the error. -/
def SchemaError.message : SchemaError → String
  | missing => "nil schema"
  | noItems => "array schema has no items"
  | inProperty name cause => "property " ++ Text.quote name ++ ": " ++ cause.message
  | inItems cause => "items: " ++ cause.message

namespace JsonSchema

/-- The type of a schema; several types are joined by bars. -/
def typeName (type : String) (types : Option (List String)) : String :=
  if type ≠ "" then type else "|".intercalate (types.getD [])

/-- The result under a name; what is not listed is missing. -/
def pick (results : List (String × Except SchemaError Schema)) (name : String) :
    Except SchemaError (String × Schema) :=
  match results.find? (·.1 == name) with
  | some (_, .ok s) => .ok (name, s)
  | some (_, .error e) => .error (.inProperty name e)
  | none => .error (.inProperty name .missing)

mutual

/-- The payload schema of a document that stands at a path. -/
def toSchemaAt (order : KeyOrder) (path : String) : JsonSchema → Except SchemaError Schema
  | ⟨type, types, description, literals, default?, minimum, maximum, minItems, maxItems, required,
      properties, items, additional, _, _⟩ =>
    match typeName type types with
    | "string" => .ok (.string description literals)
    | "number" => .ok (.number description ⟨false, default?, minimum, maximum⟩)
    | "integer" => .ok (.number description ⟨true, default?, minimum, maximum⟩)
    | "boolean" => .ok (.boolean description)
    | "object" => do
      let here := KeyOrder.join [path, KeyOrder.propertiesKey]
      let results := toProperties order here properties
      let listed ← (order.arrange here (properties.map (·.1))).mapM (pick results)
      return .object description listed required (additional.any isNever)
    | "array" => do
      match toItems order (KeyOrder.join [path, "items"]) items with
      | none => throw .noItems
      | some (.error e) => throw (.inItems e)
      | some (.ok s) => return .array description s minItems maxItems
    | other => .ok (.unknown description other)

/-- The payload schema of a place that may be empty. -/
def toItems (order : KeyOrder) (path : String) :
    Option JsonSchema → Option (Except SchemaError Schema)
  | none => none
  | some s => some (toSchemaAt order path s)

/-- The payload schemas of properties, each with its name. -/
def toProperties (order : KeyOrder) (path : String) :
    List (String × Option JsonSchema) → List (String × Except SchemaError Schema)
  | [] => []
  | (name, p) :: r =>
    (name, (toItems order (KeyOrder.join [path, name]) p).getD (.error .missing)) ::
      toProperties order path r

end

/-- The payload schema of a document. -/
def toSchema (order : KeyOrder) (s : Option JsonSchema) : Except SchemaError Schema :=
  match s with
  | none => .error .missing
  | some s => toSchemaAt order "" s

end JsonSchema

end PayloadGen
