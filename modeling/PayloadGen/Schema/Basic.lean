import PayloadGen.Number.Binary64

/-!
# Payload schemas

`Schema` is the part of JSON Schema that payloads use: strings with an optional closed set of
values, numbers with bounds, booleans, objects and arrays. A schema whose type lies outside is kept
as `unknown`, so that a later stage can say where it stands, and `absent` marks a place where a
schema is missing.
-/

namespace PayloadGen

/-- What a numeric schema asks for. -/
structure NumberRule where
  /-- Only whole numbers. -/
  integral : Bool
  /-- The literal default as JSON text. -/
  default? : Option String
  /-- The least value. -/
  minimum : Option Binary64
  /-- The greatest value. -/
  maximum : Option Binary64

/-- Does the rule ask for anything beyond a number? -/
def NumberRule.isConstrained (r : NumberRule) : Bool :=
  r.default?.isSome || r.minimum.isSome || r.maximum.isSome

/-- A payload schema. -/
inductive Schema where
  /-- A string; if `literals` is not empty, one of these. -/
  | string (description : String) (literals : List String)
  | number (description : String) (rule : NumberRule)
  | boolean (description : String)
  /-- An object with properties in declared order; a closed one admits no others. -/
  | object (description : String) (properties : List (String × Schema)) (required : List String)
      (closed : Bool)
  | array (description : String) (items : Schema) (minItems maxItems : Option Int)
  /-- A schema of a type that payloads do not support. -/
  | unknown (description : String) (tag : String)
  | absent

namespace Schema

/-- The documentation of the schema. -/
def description : Schema → String
  | string d _ | number d _ | boolean d | object d _ _ _ | array d _ _ _ | unknown d _ => d
  | absent => ""

/-- How messages name the kind of a schema. -/
def kindName : Schema → String
  | string .. => "*schema.String"
  | number .. => "*schema.Number"
  | boolean .. => "*schema.Boolean"
  | object .. => "*schema.Object"
  | array .. => "*schema.Array"
  | unknown .. => "*schema.Unknown"
  | absent => "<nil>"

end Schema

/-- The number of items that an array must have, if its least and greatest counts agree. -/
def fixedLength? (minItems maxItems : Option Int) : Option Int :=
  match minItems, maxItems with
  | some a, some b => if a = b then some a else none
  | _, _ => none

end PayloadGen
