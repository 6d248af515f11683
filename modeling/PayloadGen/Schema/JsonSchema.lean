import PayloadGen.Json.Structure
import PayloadGen.Number.Layout
import PayloadGen.Dict

/-!
# JSON Schema documents

`JsonSchema` is what a JSON text says about the keywords that payload schemas use. All keywords of
the vocabulary are checked for the type of their value; of those that are not used it is only kept
that they are there. Keywords are recognised in any mixture of letter cases, and a later one
replaces or extends what an earlier one has said.
-/

namespace PayloadGen

open Text

/-- A schema document. -/
structure JsonSchema where
  /-- The single type, or nothing. -/
  type : String
  /-- The list of types, if `type` is a list. -/
  types : Option (List String)
  description : String
  /-- The permitted values, as texts. -/
  literals : List String
  /-- The default as written. -/
  default? : Option String
  minimum : Option Binary64
  maximum : Option Binary64
  minItems : Option Int
  maxItems : Option Int
  required : List String
  /-- The schemas of properties; `none` stands for `null`. -/
  properties : List (String × Option JsonSchema)
  items : Option JsonSchema
  /-- The schema of properties that are not named. -/
  additional : Option JsonSchema
  /-- The schema that must not hold. -/
  negated : Option JsonSchema
  /-- Other members that say something. -/
  others : List String

namespace JsonSchema

/-- The schema that says nothing. -/
def empty : JsonSchema :=
  { type := "", types := none, description := "", literals := [], default? := none, minimum := none,
    maximum := none, minItems := none, maxItems := none, required := [], properties := [],
    items := none, additional := none, negated := none, others := [] }

/-- The schema that nothing satisfies. -/
def never : JsonSchema :=
  { empty with negated := some empty }

/-- Does the schema say nothing? -/
def isEmpty (s : JsonSchema) : Bool :=
  s.type.isEmpty && s.types.isNone && s.description.isEmpty && s.literals.isEmpty &&
    s.default?.isNone && s.minimum.isNone && s.maximum.isNone && s.minItems.isNone &&
    s.maxItems.isNone && s.required.isEmpty && s.properties.isEmpty && s.items.isNone &&
      s.additional.isNone && s.negated.isNone && s.others.isEmpty

/-- Is the schema the one that nothing satisfies? -/
def isNever (s : JsonSchema) : Bool :=
  match s.negated with
  | some n => n.isEmpty && isEmpty { s with negated := none }
  | none => false

/-! ## Keywords -/

/-- The form of a keyword's value. -/
inductive Form where
  | text
  | flag
  | number
  | count
  | schema
  | schemas
  | schemaMap
  | flagMap
  | textsMap
  | values
  | texts
  | anything

/-- The keywords and the forms of their values. -/
def vocabulary : List (String × Form) :=
  [("$id", .text), ("$schema", .text), ("$ref", .text), ("$comment", .text), ("$defs", .schemaMap),
    ("definitions", .schemaMap), ("$anchor", .text), ("$dynamicAnchor", .text),
    ("$dynamicRef", .text), ("$vocabulary", .flagMap), ("title", .text), ("description", .text),
    ("default", .anything), ("deprecated", .flag), ("readOnly", .flag), ("writeOnly", .flag),
    ("examples", .values), ("type", .anything), ("enum", .values), ("const", .anything),
    ("multipleOf", .number), ("minimum", .number), ("maximum", .number),
    ("exclusiveMinimum", .number), ("exclusiveMaximum", .number), ("minLength", .count),
    ("maxLength", .count), ("pattern", .text), ("prefixItems", .schemas), ("items", .schema),
    ("minItems", .count), ("maxItems", .count), ("additionalItems", .schema),
    ("uniqueItems", .flag), ("contains", .schema), ("minContains", .count), ("maxContains", .count),
    ("unevaluatedItems", .schema), ("minProperties", .count), ("maxProperties", .count),
    ("required", .texts), ("dependentRequired", .textsMap), ("properties", .schemaMap),
    ("patternProperties", .schemaMap), ("additionalProperties", .schema),
    ("propertyNames", .schema), ("unevaluatedProperties", .schema), ("allOf", .schemas),
    ("anyOf", .schemas), ("oneOf", .schemas), ("not", .schema), ("if", .schema), ("then", .schema),
    ("else", .schema), ("dependentSchemas", .schemaMap), ("contentEncoding", .text),
    ("contentMediaType", .text), ("contentSchema", .schema), ("format", .text)]

/-- A letter without its case; two letters outside ASCII count as letters of the Latin alphabet. -/
def foldCase (c : Char) : Char :=
  if c == '\u017f' then 's' else if c == '\u212a' then 'k' else c.toLower

/-- Are the names equal up to letter case? -/
def sameName (a b : String) : Bool :=
  a.toList.map foldCase == b.toList.map foldCase

/-- The keyword that a member name stands for, in its proper spelling. -/
def keyword? (name : String) : Option (String × Form) :=
  vocabulary.find? fun k => sameName k.1 name

/-! ## Values of keywords -/

/-- A text; `null` is the empty one. -/
def text? (v : Json) : Option String :=
  if v.isNull then some "" else v.string?

/-- A list of texts; `null` is the empty one. -/
def texts? : Json → Option (List String)
  | .array items => items.mapM text?
  | v => if v.isNull then some [] else none

/-- A truth value, if it is one. -/
def flag? : Json → Option Bool
  | .atom ['t', 'r', 'u', 'e'] => some true
  | .atom ['f', 'a', 'l', 's', 'e'] => some false
  | _ => none

/-- A number within the range of the format. -/
def number? : Json → Option Binary64
  | .atom literal => if literal.head? == some '"' then none else Binary64.read? literal
  | _ => none

/-- A whole number of 32 bits. It may have a fraction of zeros, but no exponent without a point. -/
def count? : Json → Option Int
  | .atom literal =>
    let whole? : Option Int :=
      if literal.contains '.' then (number? (.atom literal)).bind Binary64.toInt?
      else match literal with
        | '-' :: ds =>
          if ds.all isAsciiDigit && !ds.isEmpty then some (-(decimalValue ds : Int)) else none
        | ds => if ds.all isAsciiDigit && !ds.isEmpty then some (decimalValue ds) else none
    whole?.bind fun n => if -0x80000000 ≤ n && n < 0x80000000 then some n else none
  | _ => none

mutual

/-- Do all numbers of a text lie within the range of the format? -/
def numbersFit : Json → Bool
  | .atom literal =>
    match literal with
    | c :: _ => !(isAsciiDigit c || c == '-') || (Binary64.read? literal).isSome
    | [] => true
  | .array items => itemsFit items
  | .object members => membersFit members

/-- Do all numbers of a list lie within the range of the format? -/
def itemsFit : List Json → Bool
  | [] => true
  | v :: r => numbersFit v && itemsFit r

/-- Do all numbers of an object lie within the range of the format? -/
def membersFit : List (List Char × List Char × Json) → Bool
  | [] => true
  | (_, _, v) :: r => numbersFit v && membersFit r

end

mutual

/-- A permitted value as a text. -/
def shown : Json → String
  | .atom literal =>
    match literal with
    | '"' :: _ => Json.unquote literal
    | ['n', 'u', 'l', 'l'] => "<nil>"
    | c :: _ =>
      if isAsciiDigit c || c == '-' then
        match Binary64.read? literal with
        | some x => x.render .general
        | none => String.ofList literal
      else String.ofList literal
    | [] => ""
  | .array items => "[" ++ " ".intercalate (shownItems items) ++ "]"
  | .object members =>
    "map[" ++ " ".intercalate ((Pairs.ofList (shownMembers members)).map fun (k, v) =>
      k ++ ":" ++ v) ++ "]"

/-- The items of a list as texts. -/
def shownItems : List Json → List String
  | [] => []
  | v :: r => shown v :: shownItems r

/-- The members of an object as texts. -/
def shownMembers : List (List Char × List Char × Json) → List (String × String)
  | [] => []
  | (name, _, v) :: r => (Json.unquote name, shown v) :: shownMembers r

end

/-! ## Reading -/

/-- The schema with a member noted among those that are not used. -/
def mark (s : JsonSchema) (name : String) (isThere : Bool) : JsonSchema :=
  { s with others := (if isThere then [name] else []) ++ s.others.filter (· ≠ name) }

/-- The schema with a property added or replaced. -/
def setProperty (s : JsonSchema) (name : String) (p : Option JsonSchema) : JsonSchema :=
  { s with properties := Pairs.insert name p s.properties }

/-- What the members named `type` say: the last one counts, and must be a text or a list of
texts. -/
def setType (s : JsonSchema) (members : List (List Char × List Char × Json)) : Option JsonSchema :=
  match (members.filter fun m => sameName "type" (Json.unquote m.1)).getLast? with
  | none => some s
  | some (_, _, .array items) => (texts? (.array items)).map fun ts => { s with types := some ts }
  | some (_, _, v) => v.string?.map fun t => { s with type := t }

/-- What a member whose value holds no schema says. -/
def setPlain (s : JsonSchema) (name : String) (form : Form) (raw : List Char) (v : Json) :
    Option JsonSchema :=
  match form with
  | .text => do
    let t ← text? v
    if v.isNull then some s
    else if name == "description" then some { s with description := t }
    else some (s.mark name (t ≠ ""))
  | .flag => if v.isNull then some s else (flag? v).map (s.mark name)
  | .number =>
    if v.isNull then
      match name with
      | "minimum" => some { s with minimum := none }
      | "maximum" => some { s with maximum := none }
      | _ => some (s.mark name false)
    else (number? v).map fun x =>
      match name with
      | "minimum" => { s with minimum := some x }
      | "maximum" => { s with maximum := some x }
      | _ => s.mark name true
  | .count =>
    if v.isNull then some s
    else (count? v).map fun n =>
      match name with
      | "minItems" => { s with minItems := some n }
      | "maxItems" => { s with maxItems := some n }
      | _ => s.mark name true
  | .values =>
    match v with
    | .array items =>
      some (if name == "enum" then { s with literals := shownItems items }
        else s.mark name (!items.isEmpty))
    | v =>
      if v.isNull then
        some (if name == "enum" then { s with literals := [] } else s.mark name false)
      else none
  | .texts => (texts? v).map fun ts => { s with required := ts }
  | .flagMap =>
    match v with
    | .object members =>
      if members.all fun m => m.2.2.isNull || (flag? m.2.2).isSome then
        some (s.mark name (!members.isEmpty))
      else none
    | v => if v.isNull then some (s.mark name false) else none
  | .textsMap =>
    match v with
    | .object members =>
      if members.all fun m => (texts? m.2.2).isSome then some (s.mark name (!members.isEmpty))
      else none
    | v => if v.isNull then some (s.mark name false) else none
  | .anything =>
    some (if name == "default" then { s with default? := some (String.ofList raw) }
      else if name == "type" then s else s.mark name true)
  | .schema | .schemas | .schemaMap => some s

/-- What a value says in a place where `null` means that there is no schema. -/
def unlessNull (v : Json) (s : Option JsonSchema) : Option (Option JsonSchema) :=
  if v.isNull then some none else s.map some

mutual

/-- What a JSON value says, added to what is known. -/
def update (old : JsonSchema) : Json → Option JsonSchema
  | .object members => do
    let s ← updateMembers old members
    let s ← s.setType members
    let foreign := members.any fun m => !(vocabulary.any (·.1 == Json.unquote m.1))
    return if foreign then s.mark "" true else s
  | .atom ['t', 'r', 'u', 'e'] => some empty
  | .atom ['f', 'a', 'l', 's', 'e'] => some never
  | .atom ['n', 'u', 'l', 'l'] => some never
  | _ => none

/-- What the members of an object say, one after the other. -/
def updateMembers (s : JsonSchema) : List (List Char × List Char × Json) → Option JsonSchema
  | [] => some s
  | (name, raw, v) :: r =>
    match keyword? (Json.unquote name) with
    | none => updateMembers s r
    | some (k, .schema) =>
      match k with
      | "items" =>
        do updateMembers { s with items := ← unlessNull v (update (s.items.getD empty) v) } r
      | "additionalProperties" => do
        updateMembers { s with additional := ← unlessNull v (update (s.additional.getD empty) v) } r
      | "not" =>
        do updateMembers { s with negated := ← unlessNull v (update (s.negated.getD empty) v) } r
      | k => do
        let one ← unlessNull v (update empty v)
        updateMembers (s.mark k one.isSome) r
    | some (k, .schemas) =>
      match v with
      | .array items => do
        updateItems items
        updateMembers (s.mark k (!items.isEmpty)) r
      | v => if v.isNull then updateMembers (s.mark k false) r else none
    | some (k, .schemaMap) =>
      match v with
      | .object members => do
        let ps ← updateMap members
        if k == "properties" then
          updateMembers (ps.foldl (fun s p => s.setProperty p.1 p.2) s) r
        else updateMembers (s.mark k (!members.isEmpty)) r
      | v =>
        if v.isNull then
          updateMembers (if k == "properties" then { s with properties := [] } else s.mark k false)
            r
        else none
    | some (k, form) => do updateMembers (← s.setPlain k form raw v) r

/-- Are the items schemas? -/
def updateItems : List Json → Option Unit
  | [] => some ()
  | v :: r => do
    let _ ← unlessNull v (update empty v)
    updateItems r

/-- The schemas of a map. -/
def updateMap : List (List Char × List Char × Json) → Option (List (String × Option JsonSchema))
  | [] => some []
  | (name, _, v) :: r => do
    let p ← unlessNull v (update empty v)
    let ps ← updateMap r
    return (Json.unquote name, p) :: ps

end

/-- The schema that a JSON value is, if it is one. -/
def ofJson? (v : Json) : Option JsonSchema :=
  if numbersFit v then update empty v else none

end JsonSchema

end PayloadGen
