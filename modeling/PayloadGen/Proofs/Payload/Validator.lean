import PayloadGen.Json.Structure
import PayloadGen.Payload.Type
import PayloadGen.Schema.Basic

/-!
# What payloads and classes accept

Two ways to judge a JSON value, both as functions that run.

* `Schema.admits` judges by a schema. Its full reading is that of the schema language: kinds, closed
  sets of values, bounds, counts of items, required properties and no others, at every depth. The
  compiled readings make the concessions that a class makes.
* `CompiledUnit.accepts` judges by a class of a compiled unit: no member outside the fields, every
  mandatory field present, and every member accepted by the type of its field, with classes found by
  their names.

Numbers are those of the binary64 format on both sides, so a bound of a schema and the literal of a
bound in a class are compared with the same number.
-/

namespace PayloadGen

/-! ## Kinds of values -/

namespace Json

/-- The number that a value is, if it is one that the format holds. -/
def number? : Json → Option Binary64
  | .atom literal => if isStrictNumber literal then Binary64.read? literal else none
  | _ => none

/-- Is the value one of the constants `true` and `false`? -/
def isBoolean : Json → Bool
  | .atom literal => literal == "true".toList || literal == "false".toList
  | _ => false

/-- Do the members of an object hold a name? -/
def hasMember (members : List (List Char × List Char × Json)) (name : String) : Bool :=
  members.any fun m => unquote m.1 == name

end Json

namespace Binary64

/-- A finite number in units of the least positive number; every number of the format is a whole
count. -/
def units (negative : Bool) (mantissa : Nat) (exponent : Int) : Int :=
  let magnitude : Int := (mantissa * Nat.pow 2 (exponent - leastExponent).toNat : Nat)
  if negative then -magnitude else magnitude

/-- The order of numbers. What is no number is not comparable. -/
def atMost : Binary64 → Binary64 → Bool
  | .finite s m e _, .finite s' m' e' _ => units s m e ≤ units s' m' e'
  | .infinite s, .infinite s' => s || !s'
  | .infinite s, .finite .. => s
  | .finite .., .infinite s => !s
  | .nan, _ | _, .nan => false

end Binary64

/-- Does a count of items lie between the least and the greatest count? -/
def countFits (least greatest : Option Int) (count : Nat) : Bool :=
  least.all (· ≤ (count : Int)) && greatest.all ((count : Int) ≤ ·)

/-! ## Judging by a schema -/

/-- How closely a schema is read. -/
inductive Reading where
  /-- All that the schema asks for. -/
  | full
  /-- What the compiled type checks; `nested` inside an array. -/
  | compiled (nested : Bool)

namespace Reading

/-- The reading of the items of an array. -/
def inArray : Reading → Reading
  | full => full
  | compiled _ => compiled true

/-- The reading of the properties of an object. -/
def atProperty : Reading → Reading
  | full => full
  | compiled _ => compiled false

/-- Are the bounds of numbers checked? Types inside an array carry none. -/
def bounded : Reading → Bool
  | compiled true => false
  | _ => true

/-- Is the count of items checked against its limits? Inside an array only a fixed count is. -/
def count (r : Reading) (least greatest : Option Int) (n : Nat) : Bool :=
  if r.bounded then countFits least greatest n
  else (fixedLength? least greatest).all (· == (n : Int))

/-- May `null` stand for a property that is not required? -/
def lenient : Reading → Bool
  | full => false
  | compiled _ => true

end Reading

namespace NumberRule

/-- Does a number lie between the bounds? -/
def within (r : NumberRule) (x : Binary64) : Bool :=
  r.minimum.all (·.atMost x) && r.maximum.all (x.atMost ·)

/-- Does the rule give a number when there is none? The texts that are blank or `null` give none. -/
def givesDefault (r : NumberRule) : Bool :=
  r.default?.any fun d => Text.trim d != "" && Text.trim d != "null"

end NumberRule

namespace Schema

/-- Does the schema give a value when there is none? -/
def givesDefault : Schema → Bool
  | number _ rule => rule.givesDefault
  | _ => false

/-- Does the schema admit a constant, a number or a string? -/
def admitsAtom (r : Reading) (v : Json) : Schema → Bool
  | string _ literals => v.string?.any fun s => literals.isEmpty || literals.contains s
  | number _ rule =>
    v.number?.any fun x => (!rule.integral || x.toInt?.isSome) && (!r.bounded || rule.within x)
  | boolean _ => v.isBoolean
  | _ => false

/-- Are the members present that an object must have? A class asks for its own properties only, and
for none that has a default. -/
def hasRequired (r : Reading) (properties : List (String × Schema)) (required : List String)
    (members : List (List Char × List Char × Json)) : Bool :=
  match r with
  | .full => required.all (Json.hasMember members)
  | .compiled _ => properties.all fun (property, s) =>
    !required.contains property || s.givesDefault || Json.hasMember members property

mutual

/-- Does the schema admit the value? -/
def admits (r : Reading) (s : Schema) : Json → Bool
  | .atom literal => s.admitsAtom r (.atom literal)
  | .array items =>
    match s with
    | .array _ elem least greatest =>
      r.count least greatest items.length && admitsItems r.inArray elem items
    | _ => false
  | .object members =>
    match s with
    | .object _ properties required closed =>
      hasRequired r properties required members &&
        admitsMembers r.atProperty properties required closed members
    | _ => false

/-- Does the schema admit all items? -/
def admitsItems (r : Reading) (s : Schema) : List Json → Bool
  | [] => true
  | v :: rest => s.admits r v && admitsItems r s rest

/-- Is every member admitted by the property of its name, or free to be there? -/
def admitsMembers (r : Reading) (properties : List (String × Schema)) (required : List String)
    (closed : Bool) : List (List Char × List Char × Json) → Bool
  | [] => true
  | (name, _, v) :: rest =>
    (match properties.find? (·.1 == Json.unquote name) with
      | some (property, s) =>
        (r.lenient && v.isNull && !required.contains property) || s.admits r v
      | none => !closed) &&
    admitsMembers r properties required closed rest

end

end Schema

/-! ## Judging by a class -/

/-- Does a number lie between the bounds whose literals the annotation holds? -/
def Constraint.within (c : Constraint) (x : Binary64) : Bool :=
  c.least.all (fun t => (Binary64.readExtended? t.toList).any (·.atMost x)) &&
    c.greatest.all (fun t => (Binary64.readExtended? t.toList).any (x.atMost ·))

namespace Field

/-- Is the field annotated, and without a default? -/
def lacksDefault (f : Field) : Bool :=
  f.type.constraint.any (·.default?.isNone)

/-- Is the field annotated with a default? -/
def hasDefault (f : Field) : Bool :=
  f.type.constraint.any (·.default?.isSome)

/-- Must the field be present? -/
def mandatory (f : Field) : Bool :=
  f.lacksDefault || (!f.type.optional && !f.hasDefault)

end Field

namespace FieldType

/-- Does the type accept a constant, a number or a string other than `null`? -/
def acceptsAtom (t : FieldType) (v : Json) : Bool :=
  match t.shape with
  | .scalar .string => v.string?.isSome
  | .scalar .boolean => v.isBoolean
  | .scalar .integer =>
    v.number?.any fun x => x.toInt?.isSome && t.constraint.all (·.within x)
  | .scalar .number => v.number?.any fun x => t.constraint.all (·.within x)
  | .literal => v.string?.any (t.literals.contains ·)
  | _ => false

/-- Does a sequence of the type have a count of items? -/
def acceptsCount (t : FieldType) (n : Nat) : Bool :=
  t.constraint.all (fun c => countFits c.minItems c.maxItems n) &&
    match t.shape with
    | .tuple _ length => length == (n : Int)
    | _ => true

/-- The type of the items of a sequence. -/
def elem? (t : FieldType) : Option FieldType :=
  match t.shape with
  | .list e | .tuple e _ => e
  | _ => none

/-- The class of a type in a unit. -/
def class? (u : CompiledUnit) (t : FieldType) : Option ClassDef :=
  match t.shape with
  | .ofClass name => u.class? name
  | _ => none

mutual

/-- Does the type accept the value? -/
def accepts (u : CompiledUnit) (t : FieldType) : Json → Bool
  | .atom literal =>
    if (Json.atom literal).isNull then t.optional else t.acceptsAtom (.atom literal)
  | .array items => t.elem?.any fun e => t.acceptsCount items.length && acceptsItems u e items
  | .object members => (t.class? u).any fun c =>
    c.fields.all (fun f => !f.mandatory || Json.hasMember members f.name) &&
      acceptsMembers u c.fields members

/-- Does the type accept all items? -/
def acceptsItems (u : CompiledUnit) (t : FieldType) : List Json → Bool
  | [] => true
  | v :: rest => t.accepts u v && acceptsItems u t rest

/-- Is every member accepted by the type of the field of its name? -/
def acceptsMembers (u : CompiledUnit) (fields : List Field) :
    List (List Char × List Char × Json) → Bool
  | [] => true
  | (name, _, v) :: rest =>
    (fields.find? (·.name == Json.unquote name)).any (fun f => f.type.accepts u v) &&
      acceptsMembers u fields rest

end

mutual

/-- Is, wherever an object occurs in the value, every field present that is annotated without a
default? -/
def complete (u : CompiledUnit) (t : FieldType) : Json → Bool
  | .atom _ => true
  | .array items => t.elem?.all fun e => completeItems u e items
  | .object members => (t.class? u).all fun c =>
    c.fields.all (fun f => !f.lacksDefault || Json.hasMember members f.name) &&
      completeMembers u c.fields members

/-- Is every item complete? -/
def completeItems (u : CompiledUnit) (t : FieldType) : List Json → Bool
  | [] => true
  | v :: rest => t.complete u v && completeItems u t rest

/-- Is every member complete that has a field? -/
def completeMembers (u : CompiledUnit) (fields : List Field) :
    List (List Char × List Char × Json) → Bool
  | [] => true
  | (name, _, v) :: rest =>
    (fields.find? (·.name == Json.unquote name)).all (fun f => f.type.complete u v) &&
      completeMembers u fields rest

end

end FieldType

namespace CompiledUnit

/-- Does the class of a name accept the value? -/
def accepts (u : CompiledUnit) (name : String) (v : Json) : Bool :=
  (FieldType.plain (.ofClass name)).accepts u v

/-- Is the value complete as one of the class of a name? -/
def complete (u : CompiledUnit) (name : String) (v : Json) : Bool :=
  (FieldType.plain (.ofClass name)).complete u v

end CompiledUnit

end PayloadGen
