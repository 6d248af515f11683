import PayloadGen.Json.Writer
import PayloadGen.Proofs.Number.ReadBack
import PayloadGen.Proofs.Payload.Consistency
import PayloadGen.Proofs.Payload.Validator

/-!
# Classes accept what payloads mean

A compiled class accepts exactly the values that its payload admits, as far as types can tell, and
in which every field that is annotated without a default is present.

* `Schema.accepts_eq_admits` compares the type of a schema with the schema, one value at a time, by
  induction on the value: classes are found by name, so the schema is not recursed into. Names of
  properties may repeat, for the first one counts on both sides.
* `Schema.admits_compiled_of_full`: what a schema admits in full it admits as compiled.
* `compile_preserves_meaning` says both of the payload of every message of a specification.
-/

namespace PayloadGen

/-! ## Annotations -/

theorem NumberRule.constraint_within (r : NumberRule) (x : Binary64) :
    r.constraint.all (·.within x) = r.within x := by
  have hread : ∀ y : Binary64, Binary64.readExtended? (boundLiteral y).toList = some y :=
    Binary64.readExtended?_render_positionalOnly
  obtain ⟨integral, default?, minimum, maximum⟩ := r
  unfold NumberRule.constraint NumberRule.isConstrained NumberRule.within Constraint.within
  cases minimum with
  | none =>
    cases maximum with
    | none => cases default? <;> simp
    | some y => simp [hread]
  | some y =>
    cases maximum with
    | none => simp [hread]
    | some z => simp [hread]

theorem NumberRule.constraint_hasDefault (r : NumberRule) :
    r.constraint.any (·.default?.isSome) = r.givesDefault := by
  obtain ⟨integral, default?, minimum, maximum⟩ := r
  unfold NumberRule.constraint NumberRule.isConstrained NumberRule.givesDefault
  cases default? with
  | none => by_cases h : (minimum.isSome || maximum.isSome) = true <;> simp [h]
  | some d => simp [Option.isSome_filter]

/-! ## The type of a schema -/

namespace Schema

variable {property parent : String} {nested : Bool} {s : Schema} {t : FieldType}
  {defs : List ClassDef}

theorem optional_of_resolve (h : s.resolve property parent nested = .ok (t, defs)) :
    t.optional = false := by
  rcases resolve_cases h with
    ⟨htype, -⟩ | ⟨_, _, _, _, _, -, rfl, -⟩ | ⟨_, _, _, _, _, -, -, -, rfl⟩
  · unfold scalarType? at htype
    split at htype <;> cases htype <;> rfl
  · rfl
  · rfl

theorem acceptsAtom_of_scalarType (h : s.scalarType? nested = some t)
    (v : Json) :
    t.acceptsAtom v = s.admitsAtom (.compiled nested) v := by
  unfold scalarType? at h
  split at h <;> cases h
  · cases hv : v.string? <;>
      simp [FieldType.acceptsAtom, FieldType.plain, FieldType.shape, admitsAtom, hv]
  · simp [FieldType.acceptsAtom, FieldType.shape, FieldType.literals, admitsAtom]
  · rename_i rule
    have hwithin := rule.constraint_within
    cases hi : rule.integral <;> cases nested <;>
      simp [FieldType.acceptsAtom, FieldType.shape, FieldType.constraint, admitsAtom, hi,
        Reading.bounded, hwithin]
  · rfl

theorem acceptsAtom_of_resolve (h : s.resolve property parent nested = .ok (t, defs))
    (v : Json) :
    t.acceptsAtom v = s.admitsAtom (.compiled nested) v := by
  rcases resolve_cases h with ⟨htype, -⟩ | ⟨_, _, _, _, _, rfl, rfl, -⟩ |
    ⟨_, _, least, greatest, _, rfl, -, -, rfl⟩
  · exact acceptsAtom_of_scalarType htype v
  · rfl
  · unfold FieldType.acceptsAtom FieldType.shape arrayShape admitsAtom
    cases fixedLength? least greatest <;> rfl

/-- No schema admits `null`. -/
theorem admitsAtom_of_isNull {v : Json} (h : v.isNull = true) (r : Reading) (s : Schema) :
    s.admitsAtom r v = false := by
  obtain rfl : v = .atom ['n', 'u', 'l', 'l'] := by
    unfold Json.isNull at h
    split at h
    · rfl
    · cases h
  cases s <;> rfl

theorem accepts_atom_of_resolve (h : s.resolve property parent nested = .ok (t, defs))
    (u : CompiledUnit) (literal : List Char) :
    t.accepts u (.atom literal) = s.admitsAtom (.compiled nested) (.atom literal) := by
  rw [FieldType.accepts]
  split_ifs with hnull
  · rw [optional_of_resolve h, admitsAtom_of_isNull hnull]
  · exact acceptsAtom_of_resolve h _

/-- A schema without parts, and its type, have to do with neither sequences nor members. -/
theorem partless_of_scalarType (h : s.scalarType? nested = some t) :
    t.elem? = none ∧ (∀ u, t.class? u = none) ∧ (∀ r items, s.admits r (.array items) = false) ∧
      ∀ r members, s.admits r (.object members) = false := by
  unfold scalarType? at h
  split at h <;> cases h <;>
    exact ⟨rfl, fun _ => rfl, fun _ _ => by simp [admits], fun _ _ => by simp [admits]⟩

/-! ## Sequences -/

theorem elem?_array (elem : FieldType) (least greatest : Option Int) (l : List String) (o : Bool)
    (c : Option Constraint) :
    (FieldType.mk (arrayShape elem least greatest) l o c).elem? = some elem := by
  unfold FieldType.elem? FieldType.shape arrayShape
  cases fixedLength? least greatest <;> rfl

theorem class?_array (u : CompiledUnit) (elem : FieldType) (least greatest : Option Int)
    (l : List String) (o : Bool) (c : Option Constraint) :
    (FieldType.mk (arrayShape elem least greatest) l o c).class? u = none := by
  unfold FieldType.class? FieldType.shape arrayShape
  cases fixedLength? least greatest <;> rfl

theorem fixedLength?_eq_some {least greatest : Option Int} {n : Int}
    (h : fixedLength? least greatest = some n) : least = some n ∧ greatest = some n := by
  unfold fixedLength? at h
  split at h
  · split_ifs at h with hab
    cases h
    exact ⟨rfl, by rw [hab]⟩
  · cases h

/-- The annotation of an array and its shape check together what the reading checks. -/
theorem acceptsCount_array (elem : FieldType) (nested : Bool)
    (least greatest : Option Int) (n : ℕ) : (FieldType.mk (arrayShape elem least greatest) [] false
      (arrayConstraint nested least greatest)).acceptsCount n =
      (Reading.compiled nested).count least greatest n := by
  have hannotated : (arrayConstraint nested least greatest).all
      (fun c => countFits c.minItems c.maxItems n) = (nested || countFits least greatest n) := by
    unfold arrayConstraint
    cases nested <;> cases least <;> cases greatest <;> simp [countFits]
  unfold FieldType.acceptsCount FieldType.constraint FieldType.shape arrayShape Reading.count
  rw [hannotated]
  cases hfixed : fixedLength? least greatest with
  | none => cases nested <;> simp [Reading.bounded]
  | some k =>
    obtain ⟨rfl, rfl⟩ := fixedLength?_eq_some hfixed
    cases nested with
    | true => simp [Reading.bounded]
    | false =>
      simp only [Reading.bounded, countFits, Option.all_some, Bool.false_or, if_true,
        Bool.and_eq_left_iff_imp, Bool.and_eq_true, decide_eq_true_eq, beq_iff_eq]
      omega

/-! ## Fields -/

theorem hasDefault_of_resolve (h : s.resolve property parent false = .ok (t, defs)) :
    t.constraint.any (·.default?.isSome) = s.givesDefault := by
  rcases resolve_cases h with ⟨htype, -⟩ | ⟨_, _, _, _, _, rfl, rfl, -⟩ |
    ⟨_, _, least, greatest, _, rfl, -, -, rfl⟩
  · unfold scalarType? at htype
    split at htype <;> cases htype
    · rfl
    · rfl
    · exact NumberRule.constraint_hasDefault _
    · rfl
  · rfl
  · unfold FieldType.constraint arrayConstraint givesDefault
    cases least <;> cases greatest <;> rfl

theorem constraint_propertyType (required : List String) (property : String) (t : FieldType) :
    (propertyType required property t).constraint = t.constraint := by
  unfold propertyType
  split_ifs
  · rfl
  · cases t
    rfl

theorem optional_propertyType (required : List String) (property : String) {t : FieldType}
    (h : t.optional = false) :
    (propertyType required property t).optional = !required.contains property := by
  unfold propertyType
  split_ifs with hrequired
  · rw [h, hrequired]
    rfl
  · rw [Bool.not_eq_true] at hrequired
    rw [hrequired]
    cases t
    rfl

theorem mandatory_of_resolve (h : s.resolve property parent false = .ok (t, defs))
    (required : List String) (doc : String) :
    Field.mandatory ⟨property, propertyType required property t, doc⟩ =
      (Field.lacksDefault ⟨property, propertyType required property t, doc⟩ ||
        (required.contains property && !s.givesDefault)) := by
  unfold Field.mandatory Field.hasDefault
  rw [optional_propertyType required property (optional_of_resolve h), constraint_propertyType,
    hasDefault_of_resolve h, Bool.not_not]

/-- The mandatory fields are those that the payload requires and those that the annotations ask
for. -/
theorem mandatory_present {required : List String} {properties : List (String × Schema)}
    {fields : List Field} {hoisted : List ClassDef}
    (h : resolveProperties parent required properties = .ok (fields, hoisted)) (nested : Bool)
    (members : List (List Char × List Char × Json)) :
    fields.all (fun f => !f.mandatory || Json.hasMember members f.name) =
      (hasRequired (.compiled nested) properties required members &&
        fields.all (fun f => !f.lacksDefault || Json.hasMember members f.name)) := by
  unfold hasRequired
  induction properties generalizing fields hoisted with
  | nil =>
    rw [resolveProperties_nil] at h
    cases h
    rfl
  | cons entry rest ih =>
    obtain ⟨property, s⟩ := entry
    obtain ⟨type, defs, fields', hoisted', htype, hrest, rfl, rfl⟩ :=
      resolveProperties_cons_eq_ok.1 h
    simp only [List.all_cons, ih hrest, mandatory_of_resolve htype]
    generalize Field.lacksDefault _ = lacks
    cases lacks <;> cases required.contains property <;> cases s.givesDefault <;>
      cases Json.hasMember members property <;> simp

/-- A name finds a property and its field, or neither. -/
theorem find?_of_resolveProperties {required : List String} {properties : List (String × Schema)}
    {fields : List Field} {hoisted : List ClassDef}
    (h : resolveProperties parent required properties = .ok (fields, hoisted)) (name : String) :
    (properties.find? (·.1 == name) = none ∧ fields.find? (·.name == name) = none) ∨
      ∃ s type defs, (name, s) ∈ properties ∧ properties.find? (·.1 == name) = some (name, s) ∧
        fields.find? (·.name == name) =
          some ⟨name, propertyType required name type, s.description⟩ ∧
        s.resolve name parent false = .ok (type, defs) ∧ defs ⊆ hoisted := by
  induction properties generalizing fields hoisted with
  | nil =>
    rw [resolveProperties_nil] at h
    cases h
    exact .inl ⟨rfl, rfl⟩
  | cons entry rest ih =>
    obtain ⟨property, s⟩ := entry
    obtain ⟨type, defs, fields', hoisted', htype, hrest, rfl, rfl⟩ :=
      resolveProperties_cons_eq_ok.1 h
    by_cases hname : property = name
    · subst hname
      exact .inr ⟨s, type, defs, by simp, by simp, by simp, htype, List.subset_append_right _ _⟩
    · rcases ih hrest with ⟨hnone, hnone'⟩ | ⟨s', type', defs', hmem, hfind, hfind', htype', hsub⟩
      · exact .inl ⟨by simp [hname, hnone], by simp [hname, hnone']⟩
      · exact .inr ⟨s', type', defs', List.mem_cons_of_mem _ hmem, by simp [hname, hfind],
          by simp [hname, hfind'], htype', List.Subset.trans hsub (List.subset_append_left _ _)⟩

end Schema

/-! ## Optional types -/

namespace FieldType

theorem accepts_asOptional (u : CompiledUnit) (t : FieldType) (h : t.optional = false) (v : Json) :
    t.asOptional.accepts u v = (v.isNull || t.accepts u v) := by
  obtain ⟨shape, literals, optional, constraint⟩ := t
  cases v with
  | atom literal =>
    rw [accepts, accepts, h]
    cases (Json.atom literal).isNull <;> rfl
  | array items =>
    rw [accepts, accepts]
    rfl
  | object members =>
    rw [accepts, accepts]
    rfl

theorem complete_asOptional (u : CompiledUnit) (t : FieldType) (v : Json) :
    t.asOptional.complete u v = t.complete u v := by
  obtain ⟨shape, literals, optional, constraint⟩ := t
  cases v <;> rw [complete, complete] <;> rfl

theorem complete_of_isNull {v : Json} (h : v.isNull = true) (u : CompiledUnit) (t : FieldType) :
    t.complete u v = true := by
  cases v with
  | atom literal => rw [complete]
  | array items => simp [Json.isNull] at h
  | object members => simp [Json.isNull] at h

end FieldType

namespace Schema

theorem accepts_propertyType (u : CompiledUnit) (required : List String) (property : String)
    {t : FieldType} (h : t.optional = false) (v : Json) :
    (propertyType required property t).accepts u v =
      ((v.isNull && !required.contains property) || t.accepts u v) := by
  unfold propertyType
  split_ifs with hrequired
  · rw [hrequired, Bool.not_true, Bool.and_false, Bool.false_or]
  · rw [Bool.not_eq_true] at hrequired
    rw [FieldType.accepts_asOptional u t h, hrequired, Bool.not_false, Bool.and_true]

theorem complete_propertyType (u : CompiledUnit) (required : List String) (property : String)
    (t : FieldType) (v : Json) :
    (propertyType required property t).complete u v = t.complete u v := by
  unfold propertyType
  split_ifs
  · rfl
  · exact FieldType.complete_asOptional u t v

/-! ## Values -/

section Values

variable {u : CompiledUnit}

/-- What a class says of an object, once it is known what its fields say of the members. -/
theorem accepts_object_of_class {name description : String} {required : List String}
    {properties : List (String × Schema)} {fields : List Field} {hoisted : List ClassDef}
    (h : resolveProperties name required properties = .ok (fields, hoisted))
    (hclass : u.class? name = some ⟨name, fields⟩) (nested : Bool)
    {members : List (List Char × List Char × Json)}
    (hmembers : FieldType.acceptsMembers u fields members =
      (admitsMembers (.compiled false) properties required true members &&
        FieldType.completeMembers u fields members)) :
    (FieldType.plain (.ofClass name)).accepts u (.object members) =
      ((Schema.object description properties required true).admits (.compiled nested)
          (.object members) &&
        (FieldType.plain (.ofClass name)).complete u (.object members)) := by
  have hclass' : (FieldType.plain (.ofClass name)).class? u = some ⟨name, fields⟩ := hclass
  rw [FieldType.accepts, FieldType.complete, admits, hclass', Option.any_some, Option.all_some,
    mandatory_present h nested, hmembers, Reading.atProperty]
  ac_rfl

mutual

/-- **The type of a schema accepts what the schema admits as compiled, if it is complete.** -/
theorem accepts_eq_admits {property parent : String} {nested : Bool} {s : Schema} {t : FieldType}
    {defs : List ClassDef} (h : s.resolve property parent nested = .ok (t, defs))
    (hdefs : ∀ d ∈ defs, u.class? d.name = some d) :
    ∀ v : Json, t.accepts u v = (s.admits (.compiled nested) v && t.complete u v)
  | .atom literal => by
    rw [accepts_atom_of_resolve h, admits, FieldType.complete, Bool.and_true]
  | .array items => by
    rw [FieldType.accepts, FieldType.complete]
    rcases resolve_cases h with ⟨htype, -⟩ | ⟨_, _, _, _, _, rfl, rfl, -⟩ |
      ⟨_, elems, least, greatest, elem, rfl, -, helem, rfl⟩
    · obtain ⟨helem, -, hadmits, -⟩ := partless_of_scalarType htype
      rw [helem, hadmits]
      rfl
    · simp [admits, FieldType.elem?, FieldType.plain, FieldType.shape]
    · rw [elem?_array, Option.any_some, Option.all_some, admits, acceptsCount_array,
        acceptsItems_eq_admitsItems helem hdefs items, Bool.and_assoc]
      rfl
  | .object members => by
    rcases resolve_cases h with ⟨htype, -⟩ |
      ⟨_, properties, required, fields, hoisted, rfl, rfl, hparts, rfl⟩ |
      ⟨_, _, least, greatest, elem, rfl, -, -, rfl⟩
    · obtain ⟨-, hclass, -, hadmits⟩ := partless_of_scalarType htype
      rw [FieldType.accepts, hclass, hadmits]
      rfl
    · have hclass := hdefs ⟨Name.nestedClass parent property, fields⟩ (by simp)
      have hmembers := acceptsMembers_eq_admitsMembers hparts
        (fun d hd => hdefs d (by simp [hd])) members
      exact accepts_object_of_class hparts hclass nested hmembers
    · simp [admits, FieldType.accepts, class?_array]

theorem acceptsItems_eq_admitsItems {property parent : String} {nested : Bool} {s : Schema}
    {t : FieldType} {defs : List ClassDef} (h : s.resolve property parent nested = .ok (t, defs))
    (hdefs : ∀ d ∈ defs, u.class? d.name = some d) :
    ∀ items : List Json, t.acceptsItems u items =
      (s.admitsItems (.compiled nested) items && t.completeItems u items)
  | [] => by rw [FieldType.acceptsItems, admitsItems, FieldType.completeItems, Bool.and_self]
  | v :: rest => by
    rw [FieldType.acceptsItems, admitsItems, FieldType.completeItems,
      accepts_eq_admits h hdefs v, acceptsItems_eq_admitsItems h hdefs rest]
    ac_rfl

theorem acceptsMembers_eq_admitsMembers {parent : String} {required : List String}
    {properties : List (String × Schema)} {fields : List Field} {hoisted : List ClassDef}
    (h : resolveProperties parent required properties = .ok (fields, hoisted))
    (hdefs : ∀ d ∈ hoisted, u.class? d.name = some d) :
    ∀ members : List (List Char × List Char × Json), FieldType.acceptsMembers u fields members =
      (admitsMembers (.compiled false) properties required true members &&
        FieldType.completeMembers u fields members)
  | [] => by
    rw [FieldType.acceptsMembers, admitsMembers, FieldType.completeMembers, Bool.and_self]
  | (name, text, v) :: rest => by
    rw [FieldType.acceptsMembers, admitsMembers, FieldType.completeMembers,
      acceptsMembers_eq_admitsMembers h hdefs rest]
    rcases find?_of_resolveProperties h (Json.unquote name) with ⟨hnone, hnone'⟩ |
      ⟨s, type, defs, hmem, hfind, hfind', htype, hsub⟩
    · simp [hnone, hnone']
    · have hvalue := accepts_eq_admits htype
        (fun d hd => hdefs d (hsub hd)) v
      simp only [hfind, hfind', Option.any_some, Option.all_some, complete_propertyType, hvalue,
        accepts_propertyType u required _ (optional_of_resolve htype), Reading.lenient,
        Bool.true_and]
      -- a missing value has no parts, so it is complete
      cases hnull : v.isNull with
      | false =>
        simp only [Bool.false_and, Bool.false_or]
        ac_rfl
      | true =>
        simp only [FieldType.complete_of_isNull hnull, Bool.and_true, Bool.true_and]
        ac_rfl

end

/-- **The class of a payload accepts what the payload admits as compiled, if it is complete.** -/
theorem accepts_eq_admits_of_classes {name : String} {s : Schema} {group : List ClassDef}
    (h : s.classes name = .ok group)
    (hgroup : ∀ d ∈ group, u.class? d.name = some d) (v : Json) :
    u.accepts name v = (s.admits (.compiled false) v && u.complete name v) := by
  obtain ⟨_, properties, required, fields, hoisted, rfl, hparts, rfl⟩ := classes_eq_ok.1 h
  unfold CompiledUnit.accepts CompiledUnit.complete
  cases v with
  | atom literal =>
    have hoptional : (FieldType.plain (.ofClass name)).optional = false := rfl
    have hatom : (FieldType.plain (.ofClass name)).acceptsAtom (.atom literal) = false := rfl
    rw [FieldType.accepts, hoptional, hatom, ite_self, admits]
    rfl
  | array items =>
    simp [FieldType.accepts, FieldType.elem?, FieldType.plain, FieldType.shape, admits]
  | object members =>
    have hclass := hgroup ⟨name, fields⟩ (by simp)
    have hmembers := acceptsMembers_eq_admitsMembers hparts
      (fun d hd => hgroup d (by simp [hd])) members
    exact accepts_object_of_class hparts hclass false hmembers

end Values

/-! ## The full reading asks for more -/

theorem admitsAtom_compiled_of_full {s : Schema} {v : Json} (h : s.admitsAtom .full v = true)
    (nested : Bool) : s.admitsAtom (.compiled nested) v = true := by
  cases s with
  | number d rule =>
    unfold admitsAtom at h ⊢
    obtain ⟨x, hx, hrule⟩ := (Option.any_eq_true _ _).1 h
    simp only [Reading.bounded, Bool.not_true, Bool.false_or, Bool.and_eq_true] at hrule
    simp [hx, hrule]
  | _ => exact h

theorem count_compiled_of_full {least greatest : Option Int} {n : ℕ}
    (h : Reading.full.count least greatest n = true) (nested : Bool) :
    (Reading.compiled nested).count least greatest n = true := by
  cases nested with
  | false => exact h
  | true =>
    change countFits least greatest n = true at h
    change (fixedLength? least greatest).all (· == (n : Int)) = true
    cases hfixed : fixedLength? least greatest with
    | none => rfl
    | some k =>
      obtain ⟨rfl, rfl⟩ := fixedLength?_eq_some hfixed
      simp only [countFits, Option.all_some, Bool.and_eq_true, decide_eq_true_eq] at h
      simp only [Option.all_some, beq_iff_eq]
      omega

theorem hasRequired_compiled_of_full {properties : List (String × Schema)} {required : List String}
    {members : List (List Char × List Char × Json)}
    (h : hasRequired .full properties required members = true) (nested : Bool) :
    hasRequired (.compiled nested) properties required members = true := by
  unfold hasRequired at h ⊢
  refine List.all_eq_true.2 fun ⟨property, s⟩ _ => ?_
  cases hrequired : required.contains property with
  | false => simp only [hrequired, Bool.not_false, Bool.true_or]
  | true => simp [List.all_eq_true.1 h property (by simpa using hrequired)]

mutual

/-- What a schema admits in full it admits as compiled. -/
theorem admits_compiled_of_full (nested : Bool) (s : Schema) :
    ∀ v : Json, s.admits .full v = true → s.admits (.compiled nested) v = true
  | .atom literal, h => by
    rw [admits] at h ⊢
    exact admitsAtom_compiled_of_full h nested
  | .array items, h => by
    cases s with
    | array d elem least greatest =>
      rw [admits, Bool.and_eq_true] at h ⊢
      exact ⟨count_compiled_of_full h.1 nested, admitsItems_compiled_of_full true elem items h.2⟩
    | _ => simp [admits] at h
  | .object members, h => by
    cases s with
    | object d properties required closed =>
      rw [admits, Bool.and_eq_true] at h ⊢
      exact ⟨hasRequired_compiled_of_full h.1 nested,
        admitsMembers_compiled_of_full properties required closed members h.2⟩
    | _ => simp [admits] at h

theorem admitsItems_compiled_of_full (nested : Bool) (s : Schema) :
    ∀ items : List Json, s.admitsItems .full items = true →
      s.admitsItems (.compiled nested) items = true
  | [], _ => by rw [admitsItems]
  | v :: rest, h => by
    rw [admitsItems, Bool.and_eq_true] at h ⊢
    exact ⟨admits_compiled_of_full nested s v h.1, admitsItems_compiled_of_full nested s rest h.2⟩

theorem admitsMembers_compiled_of_full (properties : List (String × Schema))
    (required : List String) (closed : Bool) :
    ∀ members : List (List Char × List Char × Json),
      admitsMembers .full properties required closed members = true →
      admitsMembers (.compiled false) properties required closed members = true
  | [], _ => by rw [admitsMembers]
  | (name, text, v) :: rest, h => by
    rw [admitsMembers, Bool.and_eq_true] at h ⊢
    refine ⟨?_, admitsMembers_compiled_of_full properties required closed rest h.2⟩
    have hmember := h.1
    cases hfind : properties.find? (·.1 == Json.unquote name) with
    | none => simpa [hfind] using hmember
    | some entry =>
      simp only [hfind, Reading.lenient, Bool.false_and, Bool.false_or] at hmember
      simp [admits_compiled_of_full false entry.2 v hmember]

end

end Schema

/-! ## Specifications -/

theorem CompiledUnit.class?_of_mem {u : CompiledUnit} (hnodup : (u.classes.map (·.name)).Nodup)
    {d : ClassDef} (hd : d ∈ u.classes) : u.class? d.name = some d := by
  unfold CompiledUnit.class?
  generalize u.classes = classes at hnodup hd
  induction classes with
  | nil => simp at hd
  | cons c rest ih =>
    rw [List.map_cons, List.nodup_cons] at hnodup
    rcases List.mem_cons.1 hd with rfl | hd
    · simp
    · have hne : c.name ≠ d.name := fun h => hnodup.1 (h ▸ List.mem_map_of_mem hd)
      simp [hne, ih hnodup.2 hd]

/-- **Compilation preserves the meaning of payloads.** What a payload admits in full its class
accepts, if every field that is annotated without a default is present. And the class accepts
nothing but what the payload admits with the concessions of a compiled type: `null` for a property
that is not required, no value for one that has a default, and inside an array no bounds and no
counts but fixed ones. -/
theorem compile_preserves_meaning {options : CompileOptions} {spec : Spec} {unit : CompiledUnit}
    (hcompile : (compile options spec).2 = .ok unit) {m : Message} (hm : m ∈ spec.messages)
    (v : Json) :
    (m.payload.admits .full v = true → unit.complete m.name v = true →
        unit.accepts m.name v = true) ∧
      (unit.accepts m.name v = true ↔
        m.payload.admits (.compiled false) v = true ∧ unit.complete m.name v = true) := by
  obtain ⟨topics, defs, -, hdefs, -, hunit⟩ := compile_eq_ok.1 hcompile
  obtain ⟨group, hgroup, hclasses⟩ := exists_group_of_mem_messages hdefs hm
  obtain rfl : unit.classes = defs := by rw [hunit]
  have hnodup := (compileMessages_eq_ok.1 hdefs).2.1
  have haccepts := Schema.accepts_eq_admits_of_classes hclasses
    (fun d hd => CompiledUnit.class?_of_mem hnodup (hgroup hd)) v
  rw [haccepts, Bool.and_eq_true]
  exact ⟨fun hfull hcomplete => ⟨m.payload.admits_compiled_of_full false v hfull, hcomplete⟩,
    Iff.rfl⟩

/-- A message with a level between bounds, a gain that has a default, a mode, windows of two numbers
from zero up, and an origin that is an object. -/
def probeMessage : Message where
  name := "Probe"
  title := ""
  description := ""
  payload := .object ""
    [("level", .number "" ⟨false, none, Binary64.read? "0.1".toList, Binary64.read? "5".toList⟩),
      ("gain", .number "" ⟨false, some " 1 ", none, none⟩),
      ("mode", .string "" ["fast", "slow"]),
      ("windows", .array "" (.array "" (.number "" ⟨true, none, Binary64.read? "0".toList, none⟩)
        (some 2) (some 2)) (some 1) none),
      ("origin", .object "" [("x", .number "" ⟨true, none, none, none⟩)] ["x"] true)]
    ["level", "gain", "windows", "origin"] true

/-- A specification with one message and no channel. -/
def probeSpec : Spec where
  asyncapi := "2.6.0"
  info := ⟨"Probe", "1.0.0", ""⟩
  channels := []
  messages := [probeMessage]

/-- A probe on its lower bound, with one window and other members. -/
def probe (window : List String) (others : List (String × Json)) : Json :=
  .ofMembers ([("level", .atom "0.1".toList),
    ("windows", .array [.array (window.map fun n => .atom n.toList)]),
    ("origin", .ofMembers [("x", .atom "7".toList)])] ++ others)

/-- The class of a probe accepts one that its payload admits in full, and one that needs every
concession: no gain, `null` for the mode and a negative number in a window. -/
theorem compile_preserves_meaning_probe : ∃ unit, (compile ⟨1, false⟩ probeSpec).2 = .ok unit ∧
    unit.accepts "Probe" (probe ["1", "2"] [("gain", .atom "2".toList)]) = true ∧
    unit.accepts "Probe" (probe ["-1", "2"] [("mode", .atom "null".toList)]) = true ∧
    probeMessage.payload.admits .full (probe ["-1", "2"] [("mode", .atom "null".toList)]) =
      false := by
  have hcomplete : ((compile ⟨1, false⟩ probeSpec).2.toOption.map fun unit =>
      (unit.complete "Probe" (probe ["1", "2"] [("gain", .atom "2".toList)]),
        unit.complete "Probe" (probe ["-1", "2"] [("mode", .atom "null".toList)]))) =
      some (true, true) := by decide +kernel
  obtain ⟨unit, hunit, hcomplete⟩ := Option.map_eq_some_iff.1 hcomplete
  obtain ⟨hfirst, hsecond⟩ := Prod.mk.inj hcomplete
  have hok := Except.toOption_eq_some_iff.1 hunit
  have hmem : probeMessage ∈ probeSpec.messages := List.mem_singleton.2 rfl
  exact ⟨unit, hok, (compile_preserves_meaning hok hmem _).1 (by decide +kernel) hfirst,
    (compile_preserves_meaning hok hmem _).2.2 ⟨by decide +kernel, hsecond⟩,
    by decide +kernel⟩

end PayloadGen
