import Mathlib.Logic.Relation
import PayloadGen.Proofs.Payload.Resolve
import PayloadGen.Proofs.Payload.Validator

/-!
# Compiled types are well formed

The data types of a compiled unit can hold more than the compiler makes: a sequence without a type
of its elements, literals on any type, a sequence of negative length, annotations inside of
sequences. `FieldType.WellFormed` says that there is nothing of the kind, at any depth of elements.

The classes of a unit are those of the objects in its payloads (`Spec.objects`), and `IsClassOf`
compares the two: there is one field for each property, of a well-formed type, which may be missing
exactly if the object does not require it. That is an invariant of the compiler
(`Schema.isClassOf_induction`), and so it holds of whole units (`compile_isClassOf`).
-/

namespace PayloadGen

open Relation

/-! ## Types -/

/-- Is the shape that of a sequence? -/
def Shape.isSequence : Shape → Bool
  | .list _ | .tuple .. => true
  | _ => false

/-- May a field of the shape be annotated? -/
def Shape.isAnnotatable : Shape → Bool
  | .scalar .integer | .scalar .number | .list _ | .tuple .. => true
  | _ => false

namespace FieldType

/-- What a type is like from outside: sequences, and they alone, have a type of their elements;
literal types, and they alone, have literals; a length is not negative; annotations stand only where
they may; and there is no kind of types but the proper ones. -/
structure Regular (t : FieldType) : Prop where
  elem : t.elem?.isSome = t.shape.isSequence
  literals : t.literals ≠ [] ↔ t.shape = .literal
  length : ∀ e n, t.shape = .tuple e n → 0 ≤ n
  constraint : t.constraint.isSome = true → t.shape.isAnnotatable = true
  kind : ∀ code, t.shape ≠ .invalid code

/-- The one type is a sequence of the other. -/
def Holds (t e : FieldType) : Prop :=
  t.elem? = some e

/-- The type is regular down to its innermost elements, and what is inside of it is required and not
annotated. -/
structure WellFormed (t : FieldType) : Prop where
  regular : ∀ u, ReflTransGen Holds t u → u.Regular
  inner : ∀ u, TransGen Holds t u → u.optional = false ∧ u.constraint = none

variable {t e : FieldType}

theorem WellFormed.of_elem (h : t.Regular)
    (helem : ∀ e, t.Holds e → e.WellFormed ∧ e.optional = false ∧ e.constraint = none) :
    t.WellFormed where
  regular u hu := by
    rcases ReflTransGen.cases_head hu with rfl | ⟨e, he, hu⟩
    · exact h
    · exact (helem e he).1.regular u hu
  inner u hu := by
    obtain ⟨e, he, hu⟩ := TransGen.head'_iff.1 hu
    rcases reflTransGen_iff_eq_or_transGen.1 hu with rfl | hu
    · exact (helem u he).2
    · exact (helem e he).1.inner u hu

theorem WellFormed.elem (h : t.WellFormed) (he : t.Holds e) : e.WellFormed where
  regular u hu := h.regular u (hu.head he)
  inner u hu := h.inner u (hu.head he)

/-- A type without parts is well formed if it is regular. -/
theorem Regular.wellFormed (h : t.Regular) (helem : t.elem? = none) : t.WellFormed :=
  .of_elem h fun e he => by
    rw [Holds, helem] at he
    cases he

/-- Whether a field may be missing does not matter. -/
theorem WellFormed.asOptional (h : t.WellFormed) : t.asOptional.WellFormed := by
  have hregular := h.regular t .refl
  obtain ⟨shape, literals, optional, constraint⟩ := t
  exact .of_elem ⟨hregular.elem, hregular.literals, hregular.length, hregular.constraint,
    hregular.kind⟩
    fun e he => ⟨h.elem he, h.inner e (.single he)⟩

@[simp] theorem optional_asOptional (t : FieldType) : t.asOptional.optional = true := by
  cases t
  rfl

/-- Sequences have a type of their elements, at every depth, and every type is of a proper kind. -/
inductive Complete : FieldType → Prop
  | scalar {kind : Scalar} {literals : List String} {optional : Bool}
      {constraint : Option Constraint} :
      Complete (mk (.scalar kind) literals optional constraint)
  | literal {literals : List String} {optional : Bool} {constraint : Option Constraint} :
      Complete (mk .literal literals optional constraint)
  | ofClass {name : String} {literals : List String} {optional : Bool}
      {constraint : Option Constraint} :
      Complete (mk (.ofClass name) literals optional constraint)
  | list {e : FieldType} {literals : List String} {optional : Bool} {constraint : Option Constraint}
      (h : Complete e) :
      Complete (mk (.list (some e)) literals optional constraint)
  | tuple {e : FieldType} {n : Int} {literals : List String} {optional : Bool}
      {constraint : Option Constraint} (h : Complete e) :
        Complete (mk (.tuple (some e) n) literals optional constraint)

theorem complete_of_wellFormed : ∀ t : FieldType, t.WellFormed → t.Complete
  | mk (.scalar _) .., _ => .scalar
  | mk .literal .., _ => .literal
  | mk (.ofClass _) .., _ => .ofClass
  | mk (.list (some e)) .., h => .list (complete_of_wellFormed e (h.elem rfl))
  | mk (.tuple (some e) _) .., h => .tuple (complete_of_wellFormed e (h.elem rfl))
  | mk (.list none) .., h => by
    have helem := (h.regular _ .refl).elem
    cases helem
  | mk (.tuple none _) .., h => by
    have helem := (h.regular _ .refl).elem
    cases helem
  | mk (.invalid code) .., h => absurd rfl ((h.regular _ .refl).kind code)

end FieldType

/-! ## Objects -/

/-- An object in a payload: the name of its class, its properties, and the names of those that it
requires. -/
structure ObjectNode where
  className : String
  properties : List (String × Schema)
  required : List String

namespace Schema

mutual

/-- The objects in a schema at a property of a class, in the order in which their classes are
declared: each after the objects inside of it. -/
def objects (parent property : String) : Schema → List ObjectNode
  | .object _ properties required _ =>
    let name := Name.nestedClass parent property
    propertyObjects name properties ++ [⟨name, properties, required⟩]
  | .array _ items _ _ => items.objects parent property
  | _ => []

/-- The objects in the properties of a class; those of a property go before those of the properties
above it. -/
def propertyObjects (parent : String) : List (String × Schema) → List ObjectNode
  | [] => []
  | (property, s) :: rest => propertyObjects parent rest ++ s.objects parent property

end

/-- The objects in a payload whose own class has a name. -/
def payloadObjects (name : String) : Schema → List ObjectNode
  | .object _ properties required _ =>
    propertyObjects name properties ++ [⟨name, properties, required⟩]
  | _ => []

end Schema

/-- The objects in all messages of a specification. -/
def Spec.objects (spec : Spec) : List ObjectNode :=
  spec.messages.flatMap fun m => m.payload.payloadObjects m.name

/-- The field is that of a property of an object with so many required names. -/
structure IsFieldOf (required : List String) (f : Field) (p : String × Schema) : Prop where
  name : f.name = p.1
  type : f.type.WellFormed
  optional : f.type.optional = true ↔ p.1 ∉ required

/-- The class is that of an object: it has its name, and a field for each property in turn. -/
structure IsClassOf (c : ClassDef) (o : ObjectNode) : Prop where
  name : c.name = o.className
  fields : List.Forall₂ (IsFieldOf o.required) c.fields o.properties

/-! ## What the compiler makes -/

namespace Schema

theorem regular_scalar (kind : Scalar) {constraint : Option Constraint}
    (h : constraint.isSome = true → (Shape.scalar kind).isAnnotatable = true) :
    (FieldType.mk (.scalar kind) [] false constraint).Regular where
  elem := rfl
  literals := by simp [FieldType.literals, FieldType.shape]
  length _ _ htuple := by cases htuple
  constraint := h
  kind _ hinvalid := by cases hinvalid

theorem regular_literal (l : String) (ls : List String) :
    (FieldType.mk .literal (l :: ls) false none).Regular where
  elem := rfl
  literals := by simp [FieldType.literals, FieldType.shape]
  length _ _ htuple := by cases htuple
  constraint hsome := by cases hsome
  kind _ hinvalid := by cases hinvalid

theorem regular_of_scalarType {s : Schema} {nested : Bool} {type : FieldType}
    (h : s.scalarType? nested = some type) :
    type.Regular ∧ type.elem? = none ∧ type.optional = false ∧
      (nested = true → type.constraint = none) := by
  unfold scalarType? at h
  split at h <;> cases h
  · exact ⟨regular_scalar .string (by simp), rfl, rfl, fun _ => rfl⟩
  · exact ⟨regular_literal _ _, rfl, rfl, fun _ => rfl⟩
  · rename_i rule
    refine ⟨regular_scalar _ fun _ => ?_, rfl, rfl, fun hnested => if_pos hnested⟩
    cases rule.integral <;> rfl
  · exact ⟨regular_scalar .boolean (by simp), rfl, rfl, fun _ => rfl⟩

theorem wellFormed_ofClass (name : String) : (FieldType.plain (.ofClass name)).WellFormed :=
  FieldType.Regular.wellFormed
    ⟨rfl, by simp [FieldType.plain, FieldType.literals, FieldType.shape], nofun, nofun, nofun⟩ rfl

/-- A sequence of elements that are required and not annotated. -/
theorem wellFormed_array {elem : FieldType} {least greatest : Option Int}
    (constraint : Option Constraint) (hlength : ∀ n, fixedLength? least greatest = some n → 0 ≤ n)
    (h : elem.WellFormed) (hplain : elem.optional = false ∧ elem.constraint = none) :
    (FieldType.mk (arrayShape elem least greatest) [] false constraint).WellFormed := by
  unfold arrayShape
  split
  · rename_i n hn
    refine .of_elem ⟨rfl, by simp [FieldType.literals, FieldType.shape], ?_, fun _ => rfl,
      by rintro _ ⟨⟩⟩ ?_
    · rintro _ _ ⟨⟩
      exact hlength n hn
    · rintro _ ⟨⟩
      exact ⟨h, hplain⟩
  · refine .of_elem ⟨rfl, by simp [FieldType.literals, FieldType.shape], by rintro _ _ ⟨⟩,
      fun _ => rfl, by rintro _ ⟨⟩⟩ ?_
    rintro _ ⟨⟩
    exact ⟨h, hplain⟩

theorem objects_of_scalarType {s : Schema} {nested : Bool} {type : FieldType}
    (h : s.scalarType? nested = some type) (parent property : String) :
    s.objects parent property = [] := by
  unfold scalarType? at h
  split at h <;> cases h <;> rw [objects] <;> simp

theorem isFieldOf_propertyType {required : List String} {property : String} {s : Schema}
    {type : FieldType} (h : type.WellFormed) (hrequired : type.optional = false) :
    IsFieldOf required ⟨property, propertyType required property type, s.description⟩
      (property, s) := by
  unfold propertyType
  split
  · rename_i hmem
    exact ⟨rfl, h, by simpa [hrequired] using hmem⟩
  · rename_i hmem
    exact ⟨rfl, h.asOptional, by simpa using hmem⟩

/-- The types that the compiler gives are well formed, and its classes those of the objects it comes
to. -/
theorem isClassOf_induction : ResolveInduction
    (fun property parent nested s type defs =>
      (type.WellFormed ∧ type.optional = false ∧ (nested = true → type.constraint = none)) ∧
        List.Forall₂ IsClassOf defs (s.objects parent property))
    (fun parent required properties fields hoisted =>
      List.Forall₂ (IsFieldOf required) fields properties ∧
        List.Forall₂ IsClassOf hoisted (propertyObjects parent properties)) where
  scalar h := by
    obtain ⟨hregular, helem, hrequired, hplain⟩ := regular_of_scalarType h
    rw [objects_of_scalarType h]
    exact ⟨⟨hregular.wellFormed helem, hrequired, hplain⟩, .nil⟩
  object h := by
    rw [objects]
    exact ⟨⟨wellFormed_ofClass _, rfl, fun _ => rfl⟩,
      List.rel_append h.2 (.cons ⟨rfl, h.1⟩ .nil)⟩
  array hlength h := by
    obtain ⟨⟨helem, hrequired, hplain⟩, hdefs⟩ := h
    rw [objects]
    refine ⟨⟨wellFormed_array _ hlength helem ⟨hrequired, hplain rfl⟩, rfl, fun hnested => ?_⟩,
      hdefs⟩
    simp [FieldType.constraint, arrayConstraint, hnested]
  nil := ⟨.nil, by rw [propertyObjects]; exact .nil⟩
  cons := by
    rintro _ _ _ _ _ _ _ _ _ ⟨⟨htype, hrequired, -⟩, hnested⟩ ⟨hfields, hhoisted⟩
    rw [propertyObjects]
    exact ⟨.cons (isFieldOf_propertyType htype hrequired) hfields, List.rel_append hhoisted hnested⟩

theorem classes_isClassOf {s : Schema} {name : String} {defs : List ClassDef}
    (h : s.classes name = .ok defs) : List.Forall₂ IsClassOf defs (s.payloadObjects name) := by
  obtain ⟨_, properties, required, fields, hoisted, rfl, hparts, rfl⟩ := classes_eq_ok.1 h
  obtain ⟨hfields, hhoisted⟩ := isClassOf_induction.resolveProperties properties hparts
  exact List.rel_append hhoisted (.cons ⟨rfl, hfields⟩ .nil)

end Schema

theorem flatten_isClassOf {messages : List Message} {groups : List (List ClassDef)}
    (h : List.Forall₂ (fun m g => m.payload.classes m.name = .ok g) messages groups) :
    List.Forall₂ IsClassOf groups.flatten (messages.flatMap fun m =>
      m.payload.payloadObjects m.name) := by
  induction h with
  | nil => exact .nil
  | cons hm _ ih =>
    rw [List.flatten_cons, List.flatMap_cons]
    exact List.rel_append (Schema.classes_isClassOf hm) ih

/-- The classes of a compiled unit are those of the objects in the messages, in turn. -/
theorem compile_isClassOf {options : CompileOptions} {spec : Spec} {unit : CompiledUnit}
    (h : (compile options spec).2 = .ok unit) :
    List.Forall₂ IsClassOf unit.classes spec.objects := by
  obtain ⟨_, defs, -, hdefs, -, rfl⟩ := compile_eq_ok.1 h
  obtain ⟨-, -, groups, hgroups, rfl⟩ := compileMessages_eq_ok.1 hdefs
  exact flatten_isClassOf hgroups

/-- Every type of a field in a compiled unit is well formed. -/
theorem wellFormed_of_compile {options : CompileOptions} {spec : Spec} {unit : CompiledUnit}
    (h : (compile options spec).2 = .ok unit) {c : ClassDef} (hc : c ∈ unit.classes) {f : Field}
    (hf : f ∈ c.fields) : f.type.WellFormed := by
  obtain ⟨o, -, ho⟩ := exists_right_of_forall₂ (compile_isClassOf h) hc
  obtain ⟨p, -, hp⟩ := exists_right_of_forall₂ ho.fields hf
  exact hp.type

theorem complete_of_compile {options : CompileOptions} {spec : Spec} {unit : CompiledUnit}
    (h : (compile options spec).2 = .ok unit) :
    ∀ c ∈ unit.classes, ∀ f ∈ c.fields, f.type.Complete :=
  fun _ hc _ hf => FieldType.complete_of_wellFormed _ (wellFormed_of_compile h hc hf)

end PayloadGen
