import PayloadGen.Dict

/-!
# Compiled payload types

A payload is compiled to classes whose fields have types. A compiled unit holds the classes of a
whole specification, each declared before it is used, the class bound to each topic, and one handler
signature per bound class.
-/

namespace PayloadGen

/-- The annotation of a constrained field. -/
structure Constraint where
  /-- The literal default; a field without one is mandatory. -/
  default? : Option String
  /-- The literal of the least value. -/
  least : Option String
  /-- The literal of the greatest value. -/
  greatest : Option String
  minItems : Option Int
  maxItems : Option Int

/-- The types without parts. -/
inductive Scalar where
  | string
  | integer
  | number
  | boolean

mutual

/-- What the values of a type are. -/
inductive Shape where
  | scalar (kind : Scalar)
  /-- One of the literals of the type. -/
  | literal
  /-- An instance of a class. -/
  | ofClass (className : String)
  /-- A sequence of any length. -/
  | list (elem : Option FieldType)
  /-- A sequence of a fixed length. -/
  | tuple (elem : Option FieldType) (length : Int)
  /-- A code that stands for no kind of type. -/
  | invalid (code : Nat)

/-- The type of a field: its shape, the literals it is limited to, whether it may be missing, and
its annotation. -/
inductive FieldType where
  | mk (shape : Shape) (literals : List String) (optional : Bool) (constraint : Option Constraint)

end

namespace FieldType

/-- The shape of a type. -/
def shape : FieldType → Shape
  | mk s _ _ _ => s

/-- The values that a type is limited to. -/
def literals : FieldType → List String
  | mk _ l _ _ => l

/-- May the field be missing? -/
def optional : FieldType → Bool
  | mk _ _ o _ => o

/-- The annotation of a field. -/
def constraint : FieldType → Option Constraint
  | mk _ _ _ c => c

/-- A type that is required and carries no annotation. -/
def plain (s : Shape) : FieldType :=
  mk s [] false none

/-- The type as that of a field that may be missing. -/
def asOptional : FieldType → FieldType
  | mk s l _ c => mk s l true c

mutual

/-- The classes that a type mentions. -/
def classRefs : FieldType → List String
  | mk s _ _ _ => shapeRefs s

/-- The classes that a shape mentions. -/
def shapeRefs : Shape → List String
  | .ofClass c => [c]
  | .list (some e) | .tuple (some e) _ => classRefs e
  | _ => []

end

end FieldType

/-- A field of a class. -/
structure Field where
  name : String
  type : FieldType
  doc : String

/-- A class: its name and its fields in declared order. -/
structure ClassDef where
  name : String
  fields : List Field

/-- The signature of a handler of payloads. -/
structure Callback where
  name : String
  payload : String

/-- A compiled specification. -/
structure CompiledUnit where
  title : String
  version : String
  /-- Every class stands after the classes it mentions. -/
  classes : List ClassDef
  /-- The payload class of each topic. -/
  topics : Dict String
  callbacks : List Callback

/-- The first class of a name. -/
def CompiledUnit.class? (u : CompiledUnit) (name : String) : Option ClassDef :=
  u.classes.find? (·.name == name)

end PayloadGen
