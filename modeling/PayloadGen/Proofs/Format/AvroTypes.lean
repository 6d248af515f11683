import PayloadGen.Proofs.Format.Sheet
import PayloadGen.Proofs.Json.Strings
import PayloadGen.Proofs.Payload.Consistency

/-!
# Avro types are read back from their spelling

The type of a field is spelled as a text with marks for classes, arrays and enums, and the type of
the record is read off that text. Names of classes and values of enums are any text, and may begin
with a mark themselves. Still the reading is the translation that follows the structure of the type
(`Avro.direct?`): a mark is looked for only at the front, where the spelling has put one, and what
follows the mark of a class or of an enum is taken whole (`Avro.exists_schema?`).

So the records of a unit have the types of its classes (`Avro.exists_isRecordOf`), and they refer
only to records above them, because the classes of a compiled unit do.
-/

namespace PayloadGen

open Text

namespace Format.Avro

/-! ## The direct translation -/

/-- The schema of a type, by its structure; `name` is for an enum inside it. Arrays are of no fixed
length. -/
def direct? (name : Bytes) : FieldType → Option Schema
  | .mk (.scalar .integer) _ _ _ => some (.named "long")
  | .mk (.scalar .number) _ _ _ => some (.named "double")
  | .mk (.scalar .boolean) _ _ _ => some (.named "boolean")
  | .mk (.scalar .string) _ _ _ => some (.named "string")
  | .mk .literal literals _ _ =>
    some (if literals.all isName then .enum name literals else .named "string")
  | .mk (.ofClass c) _ _ _ => some (.named c)
  | .mk (.list (some e)) _ _ _ | .mk (.tuple (some e) _) _ _ _ => (direct? name e).map .array
  | _ => none

/-- The names of scalars. -/
def scalarNames : List String := ["long", "double", "boolean", "string"]

/-- The names that a schema refers to. -/
def Schema.names : Schema → List String
  | .named n => [n]
  | .array t | .nullable t => t.names
  | .enum _ _ => []

/-- A schema refers to scalars and to the classes of its type. -/
theorem names_of_direct? (name : Bytes) :
    ∀ (t : FieldType) (schema : Schema), direct? name t = some schema →
    ∀ n ∈ schema.names, n ∈ scalarNames ∨ n ∈ t.classRefs
  | .mk (.scalar kind) literals optional constraint, schema, h => by
    have hscalar : ∀ n ∈ schema.names, n ∈ scalarNames := by cases kind <;> cases h <;> decide
    exact fun n hn => .inl (hscalar n hn)
  | .mk .literal literals optional constraint, schema, h => by
    cases h
    split
    · intro n hn
      cases hn
    · exact fun n hn => .inl (List.mem_singleton.1 hn ▸ by decide)
  | .mk (.ofClass c) literals optional constraint, schema, h => by
    cases h
    exact fun n hn => .inr hn
  | .mk (.list (some e)) literals optional constraint, schema, h => by
    obtain ⟨items, hitems, rfl⟩ := Option.map_eq_some_iff.1 h
    exact names_of_direct? name e items hitems
  | .mk (.tuple (some e) n) literals optional constraint, schema, h => by
    obtain ⟨items, hitems, rfl⟩ := Option.map_eq_some_iff.1 h
    exact names_of_direct? name e items hitems

/-! ## Spelled types -/

/-- The symbols of an enum are read back. -/
theorem symbols?_compact (ls : List String) :
    symbols? (Json.array (ls.map Json.ofString)).compact = some ls := by
  have hstring (l : String) : (Json.ofString l).string? = some l := by
    have hunquote := Json.unquote_quoted l
    rw [Json.ofString]
    exact congrArg some hunquote
  rw [symbols?, Json.read?_compact_strings]
  induction ls with
  | nil => rfl
  | cons l ls ih => simp_all [List.mapM_cons]

theorem schema?_ref (name : Bytes) (c : String) :
    schema? name ("ref:" ++ c).toList = some (.named c) := by
  rw [String.toList_append]
  exact congrArg (fun c => some (Schema.named c)) String.ofList_toList

theorem schema?_array (name : Bytes) (e : String) :
    schema? name ("array:" ++ e).toList = (schema? name e.toList).map .array := by
  rw [String.toList_append]
  rfl

theorem schema?_enum (name : Bytes) (ls : List String) :
    schema? name (dialect.literal ls).toList =
      some (if ls.all isName then .enum name ls else .named "string") := by
  have hliteral : (dialect.literal ls).toList =
      "enum:".toList ++ (Json.array (ls.map Json.ofString)).compact := by
    simp [dialect]
  have hsymbols := symbols?_compact ls
  rw [hliteral]
  exact congrArg (Option.map fun symbols => if symbols.all isName then Schema.enum name symbols
    else .named "string")
    hsymbols

/-- What is read off the spelling of a complete type is its direct translation. -/
theorem exists_schema? (className field : String) (name : Bytes) {t : FieldType} (h : t.Complete) :
    ∃ s schema, dialect.spell className field t = .ok s ∧ schema? name s.toList = some schema ∧
      direct? name t = some schema := by
  induction h with
  | @scalar kind _ _ _ => cases kind <;> exact ⟨_, _, rfl, rfl, rfl⟩
  | literal => exact ⟨_, _, rfl, schema?_enum name _, rfl⟩
  | ofClass => exact ⟨_, _, rfl, schema?_ref name _, rfl⟩
  | list _ ih =>
    obtain ⟨s, schema, hs, hschema, hdirect⟩ := ih
    refine ⟨"array:" ++ s, .array schema, Dialect.spell_list _ _ _ hs, ?_, ?_⟩
    · rw [schema?_array, hschema, Option.map_some]
    · rw [direct?, hdirect, Option.map_some]
  | tuple _ ih =>
    obtain ⟨s, schema, hs, hschema, hdirect⟩ := ih
    refine ⟨"array:" ++ s, .array schema, Dialect.spell_tuple _ _ _ hs rfl, ?_, ?_⟩
    · rw [schema?_array, hschema, Option.map_some]
    · rw [direct?, hdirect, Option.map_some]

/-! ## Records -/

/-- The field of a record is that of a class: it has its name, and the schema of its type, or
null. -/
structure IsMemberOf (className : String) (f : Field) (g : RecordField) : Prop where
  name : g.name = f.name
  type : ∃ schema, direct? (enumName className f.name) f.type = some schema ∧
    g.type = if f.type.optional then .nullable schema else schema

/-- The record is that of a class, with its fields in turn. -/
structure IsRecordOf (c : ClassDef) (r : Record) : Prop where
  name : r.name = c.name
  fields : List.Forall₂ (IsMemberOf c.name) c.fields r.fields

theorem exists_recordField (className : String) {f : Field} (hf : f.type.Complete) :
    ∃ row field, dialect.row className f = .ok row ∧ recordField className row = .ok field ∧
      IsMemberOf className f field := by
  obtain ⟨s, schema, hs, hschema, hdirect⟩ :=
    exists_schema? className f.name (enumName className f.name) hf
  refine ⟨_, if f.type.optional then ⟨f.name, .nullable schema, trim f.doc, some "null"⟩
    else ⟨f.name, schema, trim f.doc, f.type.constraint.bind (·.default?)⟩,
    Dialect.row_of_spell hs, ?_, ?_⟩
  · simp only [recordField, dialect, hschema]
    cases f.type.optional <;> rfl
  · cases hoptional : f.type.optional
    · exact ⟨rfl, schema, hdirect, by rw [hoptional]; rfl⟩
    · exact ⟨rfl, schema, hdirect, by rw [hoptional]; rfl⟩

/-- Two passes over a list, if every element passes both. -/
theorem exists_mapM_mapM {ε α β γ : Type} {f : α → Except ε β} {g : β → Except ε γ}
    {P : α → γ → Prop} {xs : List α} (h : ∀ x ∈ xs, ∃ y z, f x = .ok y ∧ g y = .ok z ∧ P x z) :
    ∃ ys zs, xs.mapM f = .ok ys ∧ ys.mapM g = .ok zs ∧ List.Forall₂ P xs zs := by
  induction xs with
  | nil => exact ⟨[], [], rfl, rfl, .nil⟩
  | cons x xs ih =>
    obtain ⟨y, z, hy, hz, hP⟩ := h x List.mem_cons_self
    obtain ⟨ys, zs, hys, hzs, hPs⟩ := ih fun x hx => h x (List.mem_cons_of_mem _ hx)
    refine ⟨y :: ys, z :: zs, ?_, ?_, .cons hP hPs⟩
    · rw [List.mapM_cons, hy, hys]
      rfl
    · rw [List.mapM_cons, hz, hzs]
      rfl

/-- A unit whose types are complete has a record for each class in turn. -/
theorem exists_isRecordOf (package : String) {u : CompiledUnit}
    (hu : ∀ c ∈ u.classes, ∀ f ∈ c.fields, f.type.Complete) :
    ∃ rs, records package u = .ok rs ∧ List.Forall₂ IsRecordOf u.classes rs := by
  have hclass : ∀ c ∈ u.classes, ∃ (t : TypeRow) (r : Record),
      (do return ⟨dialect.typeName c.name, ← c.fields.mapM (dialect.row c.name)⟩ :
        Except Error TypeRow) = .ok t ∧
      (do return ⟨t.name, if package = "" then defaultNamespace else package,
        ← t.fields.mapM (recordField t.name)⟩ : Except Error Record) = .ok r ∧ IsRecordOf c r := by
    intro c hc
    obtain ⟨rows, fields, hrows, hfields, hmembers⟩ :=
      exists_mapM_mapM fun f hf => exists_recordField c.name (hu c hc f hf)
    exact ⟨⟨c.name, rows⟩, ⟨c.name, _, fields⟩, Except.bind_eq_ok_iff.2 ⟨rows, hrows, rfl⟩,
      Except.bind_eq_ok_iff.2 ⟨fields, hfields, rfl⟩, rfl, hmembers⟩
  obtain ⟨types, rs, htypes, hrs, hrecords⟩ := exists_mapM_mapM hclass
  exact ⟨rs, Except.bind_eq_ok_iff.2 ⟨_, Except.bind_eq_ok_iff.2 ⟨types, htypes, rfl⟩, hrs⟩,
    hrecords⟩

theorem names_of_isMemberOf {className : String} {f : Field} {g : RecordField}
    (h : IsMemberOf className f g) :
    ∀ n ∈ g.type.names, n ∈ scalarNames ∨ n ∈ f.type.classRefs := by
  obtain ⟨schema, hdirect, htype⟩ := h.type
  have hnames : g.type.names = schema.names := by rw [htype]; split <;> rfl
  rw [hnames]
  exact names_of_direct? _ _ _ hdirect

/-- One of the first `i` records has the name. -/
def DefinedAbove (rs : List Record) (i : Nat) (n : String) : Prop :=
  ∃ j < i, ∃ r, rs[j]? = some r ∧ r.name = n

/-- Every class that a class mentions has a record above that of the class. -/
theorem definedAbove_of_isRecordOf {defs : List ClassDef} {rs : List Record}
    (h : List.Forall₂ IsRecordOf defs rs) (hdefs : DeclaredBeforeUse defs) {i : Nat} {c : ClassDef}
    (hc : defs[i]? = some c) {f : Field} (hf : f ∈ c.fields) {n : String}
    (hn : n ∈ f.type.classRefs) : DefinedAbove rs i n := by
  obtain ⟨j, hj, d, hd, rfl⟩ := hdefs i c hc f hf n hn
  have hnames : rs.map (·.name) = defs.map (·.name) :=
    map_eq_of_forall₂ (h.imp fun c r hr => hr.name)
  have hname : (rs.map (·.name))[j]? = some d.name := by
    rw [hnames, List.getElem?_map, hd, Option.map_some]
  rw [List.getElem?_map] at hname
  exact ⟨j, hj, Option.map_eq_some_iff.1 hname⟩

end Format.Avro

open Format

/-- **Avro types are those of the classes.** Reading the spelling of a complete type gives its
direct translation, whatever the names of classes and the values of enums are. So the records of a
compiled unit are those of its classes, with the fields of each in turn, of the types that are
translated directly; a class that is mentioned in a field has a record above, and so every name in
the type of a field is that of a scalar or of a record above. -/
theorem avro_types_direct :
    (∀ (className field : String) (name : Bytes) (t : FieldType), t.Complete →
      ∃ s schema, Avro.dialect.spell className field t = .ok s ∧
        Avro.schema? name s.toList = some schema ∧ Avro.direct? name t = some schema) ∧
    ∀ (options : CompileOptions) (spec : Spec) (unit : CompiledUnit),
      (compile options spec).2 = .ok unit →
      ∀ package, ∃ rs, Avro.records package unit = .ok rs ∧
        List.Forall₂ Avro.IsRecordOf unit.classes rs ∧
        (∀ (i : Nat) (c : ClassDef), unit.classes[i]? = some c →
          ∀ f ∈ c.fields, ∀ n ∈ f.type.classRefs, Avro.DefinedAbove rs i n) ∧
        ∀ (i : Nat) (r : Avro.Record), rs[i]? = some r → ∀ g ∈ r.fields, ∀ n ∈ g.type.names,
          n ∈ Avro.scalarNames ∨ Avro.DefinedAbove rs i n := by
  refine ⟨fun className field name t ht => Avro.exists_schema? className field name ht, ?_⟩
  intro options spec unit h package
  obtain ⟨rs, hrs, hrecords⟩ := Avro.exists_isRecordOf package (complete_of_compile h)
  have habove : ∀ (i : Nat) (c : ClassDef), unit.classes[i]? = some c →
      ∀ f ∈ c.fields, ∀ n ∈ f.type.classRefs,
      Avro.DefinedAbove rs i n := fun i c hc f hf n hn =>
    Avro.definedAbove_of_isRecordOf hrecords (declaredBeforeUse_of_compile h) hc hf hn
  refine ⟨rs, hrs, hrecords, habove, ?_⟩
  intro i r hr g hg n hn
  have hrel := getElem?_of_forall₂ hrecords i
  rw [hr] at hrel
  cases hc : unit.classes[i]? with
  | none =>
    rw [hc] at hrel
    cases hrel
  | some c =>
    rw [hc] at hrel
    cases hrel with
    | some hrecord =>
      obtain ⟨f, hf, hmember⟩ := exists_left_of_forall₂ hrecord.fields hg
      exact (Avro.names_of_isMemberOf hmember n hn).imp_right fun hn => habove i c hc f hf n hn

/-- A type whose class has a name that looks like the spelling of a type. -/
def disguisedType : FieldType :=
  let lamp : FieldType := .mk (.ofClass "array:enum:[]") [] false none
  .mk (.list (some (.mk (.tuple (some lamp) 3) [] false none))) [] true none

theorem avro_types_direct_disguised :
    (∃ s, Avro.dialect.spell "Lamp" "spots" disguisedType = .ok s ∧
      s = "array:array:ref:array:enum:[]" ∧
      Avro.schema? [] s.toList = some (.array (.array (.named "array:enum:[]")))) ∧
    ∃ unit rs, (compile ⟨1, false⟩ servoSpec).2 = .ok unit ∧ Avro.records "" unit = .ok rs ∧
      rs.map (·.name) = ["ServoPoints", "ServoServoState", "Servo"] ∧
      ∀ r, rs[2]? = some r → ∀ g ∈ r.fields, ∀ n ∈ g.type.names, n ∈ Avro.scalarNames ∨
      Avro.DefinedAbove rs 2 n := by
  obtain ⟨htypes, hunits⟩ := avro_types_direct
  constructor
  · obtain ⟨s, schema, hs, hschema, hdirect⟩ :=
      htypes "Lamp" "spots" [] disguisedType (.list (.tuple .ofClass))
    cases hdirect
    exact ⟨s, hs, (Except.ok.inj hs).symm, hschema⟩
  · have hnames : ((compile ⟨1, false⟩ servoSpec).2.toOption.map fun u => u.classes.map (·.name)) =
        some ["ServoPoints", "ServoServoState", "Servo"] := by decide +kernel
    obtain ⟨unit, hunit, hnames⟩ := Option.map_eq_some_iff.1 hnames
    have hok := Except.toOption_eq_some_iff.1 hunit
    obtain ⟨rs, hrs, hrecords, -, habove⟩ := hunits ⟨1, false⟩ servoSpec unit hok ""
    exact ⟨unit, rs, hok, hrs,
      (map_eq_of_forall₂ (hrecords.imp fun c r hr => hr.name)).trans hnames, habove 2⟩

end PayloadGen
