import Mathlib.Data.List.Nodup
import PayloadGen.Proofs.Format.AvroTypes
import PayloadGen.Proofs.Payload.Name

/-!
# The names that Avro records define

The records of a unit define a name for every class and one for every enum inside the type of a
field. Enums are named after their record and field once the compiler has kept the names of classes
apart, so that two enums may get the same name, and an enum that of a class. The names that the
records define are computed here from the unit (`Avro.exists_records`), and they are distinct if
those of the enums are distinct up to separators and case.
-/

namespace PayloadGen

open Text Name

/-- Is the innermost type a closed set of strings that can be symbols of an enum? -/
def FieldType.isEnum : FieldType → Bool
  | .mk .literal literals _ _ => literals.all Format.Avro.isName
  | .mk (.list (some e)) _ _ _ | .mk (.tuple (some e) _) _ _ _ => e.isEnum
  | _ => false

/-- The fields of a unit whose type contains an enum, after the names of their classes. -/
def CompiledUnit.enumFields (u : CompiledUnit) : List (String × String) :=
  u.classes.flatMap fun c => (c.fields.filter (·.type.isEnum)).map fun f => (c.name, f.name)

namespace Format.Avro

/-- The names of the enums in a type, as they are written: bytes that make no character are
replaced. -/
def Schema.enums : Schema → List String
  | .named _ => []
  | .array t | .nullable t => t.enums
  | .enum name _ => [lossy name]

/-- The names that records define: their own, then those of the enums in their fields. -/
def defined (rs : List Record) : List String :=
  rs.map (·.name) ++ rs.flatMap fun r => r.fields.flatMap (·.type.enums)

/-! ## Records -/

/-- A schema has an enum, of the given name, exactly if its type has. -/
theorem enums_of_direct? (name : Bytes) :
    ∀ (t : FieldType) (schema : Schema), direct? name t = some schema →
    schema.enums = if t.isEnum then [lossy name] else []
  | .mk (.scalar kind) literals optional constraint, schema, h => by
    cases kind <;> cases h <;> rfl
  | .mk .literal literals optional constraint, schema, h => by
    cases h
    rw [FieldType.isEnum]
    split <;> rfl
  | .mk (.ofClass c) literals optional constraint, schema, h => by
    cases h
    rfl
  | .mk (.list (some e)) literals optional constraint, schema, h => by
    obtain ⟨items, hitems, rfl⟩ := Option.map_eq_some_iff.1 h
    rw [Schema.enums, enums_of_direct? name e items hitems, FieldType.isEnum]
  | .mk (.tuple (some e) n) literals optional constraint, schema, h => by
    obtain ⟨items, hitems, rfl⟩ := Option.map_eq_some_iff.1 h
    rw [Schema.enums, enums_of_direct? name e items hitems, FieldType.isEnum]

theorem enums_of_isMemberOf {className : String} {f : Field} {g : RecordField}
    (h : IsMemberOf className f g) :
    g.type.enums = if f.type.isEnum then [lossy (enumName className f.name)] else [] := by
  obtain ⟨schema, hdirect, htype⟩ := h.type
  rw [htype, ← enums_of_direct? _ _ _ hdirect]
  split <;> rfl

theorem flatMap_enums_of_isMemberOf {className : String} {fs : List Field} {gs : List RecordField}
    (h : List.Forall₂ (IsMemberOf className) fs gs) :
    gs.flatMap (·.type.enums) = (fs.filter (·.type.isEnum)).map fun f =>
      lossy (enumName className f.name) := by
  induction h with
  | nil => rfl
  | cons hmember _ ih =>
    rw [List.flatMap_cons, enums_of_isMemberOf hmember, ih, List.filter_cons]; split <;> rfl

/-- A unit whose types are well formed has records, which define the names of its classes and of its
enums. -/
theorem exists_records (package : String) {u : CompiledUnit}
    (hu : ∀ c ∈ u.classes, ∀ f ∈ c.fields, f.type.WellFormed) :
    ∃ rs, records package u = .ok rs ∧
      defined rs = u.classes.map (·.name) ++ u.enumFields.map fun e =>
        lossy (enumName e.1 e.2) := by
  obtain ⟨rs, hrs, hrecords⟩ :=
    exists_isRecordOf package fun c hc f hf => FieldType.complete_of_wellFormed _ (hu c hc f hf)
  refine ⟨rs, hrs, ?_⟩
  have hfields : rs.flatMap (fun r => r.fields.flatMap (·.type.enums)) =
      u.classes.flatMap fun c => (c.fields.filter (·.type.isEnum)).map fun f =>
        lossy (enumName c.name f.name) := by
    rw [List.flatMap_def, List.flatMap_def]
    exact congrArg List.flatten
      (map_eq_of_forall₂ (hrecords.imp fun c r hr => flatMap_enums_of_isMemberOf hr.fields))
  rw [defined, map_eq_of_forall₂ (hrecords.imp fun c r hr => hr.name), hfields,
    CompiledUnit.enumFields, List.map_flatMap]
  simp only [List.map_map]
  rfl

/-! ## Letters -/

/-- The letters of the name of an enum: those of the record and of the field, and `enum`. -/
def enumLetters (className field : String) : List Char :=
  className.toList.map lower ++ folded isPascalSeparator field ++ "enum".toList

theorem map_lower_enumName (className : String) {field : String}
    (h : replacement ∉ (lossy (pascal field)).toList) :
    (lossy (enumName className field)).toList.map lower = enumLetters className field := by
  obtain ⟨t, ht, hlower⟩ := exists_pascal h
  have henum : "Enum".toList.map lower = "enum".toList := by decide
  rw [enumName, ht, ← utf8_append, ← utf8_append, lossy_utf8, String.toList_append,
    String.toList_append, List.map_append, List.map_append, hlower, henum, enumLetters]

end Format.Avro

open Format

/-- **Avro names are distinct if the enums have distinct letters.** If no two enum fields of a
compiled unit make names that are the same up to separators and case, none makes the name of a
class, and no byte of the names is replaced, then the unit has records, and the names that they
define, one for every class and one for every enum, are distinct. -/
theorem avro_defined_nodup {options : CompileOptions} {spec : Spec} {unit : CompiledUnit}
    (h : (compile options spec).2 = .ok unit) (package : String)
    (hwords : ∀ e ∈ unit.enumFields, replacement ∉ (lossy (pascal e.2)).toList)
    (henums : (unit.enumFields.map fun e => Avro.enumLetters e.1 e.2).Nodup)
    (hclasses : ∀ c ∈ unit.classes, ∀ e ∈ unit.enumFields,
      c.name.toList.map lower ≠ Avro.enumLetters e.1 e.2) :
    ∃ rs, Avro.records package unit = .ok rs ∧
      Avro.defined rs = unit.classes.map (·.name) ++
        unit.enumFields.map (fun e => lossy (Avro.enumName e.1 e.2)) ∧
      (Avro.defined rs).Nodup := by
  obtain ⟨rs, hrs, hdefined⟩ := Avro.exists_records package fun c hc f hf =>
    wellFormed_of_compile h hc hf
  refine ⟨rs, hrs, hdefined, ?_⟩
  rw [hdefined]
  refine List.nodup_append.2 ⟨nodup_names_of_compile h, ?_, ?_⟩
  · refine List.Nodup.of_map (fun n => n.toList.map lower) ?_
    have hletters :
        (unit.enumFields.map fun e => lossy (Avro.enumName e.1 e.2)).map
          (fun n => n.toList.map lower) =
        unit.enumFields.map fun e => Avro.enumLetters e.1 e.2 := by
      rw [List.map_map]
      exact List.map_congr_left fun e he => Avro.map_lower_enumName e.1 (hwords e he)
    rwa [hletters]
  · simp only [List.mem_map]
    rintro _ ⟨c, hc, rfl⟩ _ ⟨e, he, rfl⟩ heq
    refine hclasses c hc e he ?_
    rw [heq, Avro.map_lower_enumName e.1 (hwords e he)]

/-- A specification whose messages have the given names, each with the given properties, all of them
`on` or `off`. -/
def switchMessages (messages : List (String × List String)) : Spec where
  asyncapi := "2.6.0"
  info := ⟨"Switches", "1.0.0", ""⟩
  channels := []
  messages := messages.map fun m =>
    ⟨m.1, "", "", .object "" (m.2.map fun p => (p, .array "" (.string "" ["on", "off"]) none none))
      [] true⟩

theorem avro_defined_nodup_switchMessages :
    ∃ unit rs,
      (compile ⟨1, false⟩
        (switchMessages [("Lamp", ["on_off", "mode"]), ("lamp-spot", ["mode"])])).2 = .ok unit ∧
      Avro.records "" unit = .ok rs ∧
      Avro.defined rs =
        ["Lamp", "lamp-spot", "LampOnOffEnum", "LampModeEnum", "lamp-spotModeEnum"] ∧
      (Avro.defined rs).Nodup := by
  have hunit : (compile ⟨1, false⟩ (switchMessages
      [("Lamp", ["on_off", "mode"]), ("lamp-spot", ["mode"])])).2.toOption.any (fun u =>
      (∀ e ∈ u.enumFields, replacement ∉ (lossy (pascal e.2)).toList) ∧
      (u.enumFields.map fun e => Avro.enumLetters e.1 e.2).Nodup ∧
      (∀ c ∈ u.classes, ∀ e ∈ u.enumFields, c.name.toList.map lower ≠ Avro.enumLetters e.1 e.2) ∧
      u.classes.map (·.name) ++ u.enumFields.map (fun e => lossy (Avro.enumName e.1 e.2)) =
        ["Lamp", "lamp-spot", "LampOnOffEnum", "LampModeEnum", "lamp-spotModeEnum"]) = true := by
    decide +kernel
  obtain ⟨unit, hunit, hfacts⟩ := (Option.any_eq_true _ _).1 hunit
  obtain ⟨hwords, henums, hclasses, hnames⟩ := of_decide_eq_true hfacts
  have hok := Except.toOption_eq_some_iff.1 hunit
  obtain ⟨rs, hrs, hdefined, hnodup⟩ := avro_defined_nodup hok "" hwords henums hclasses
  exact ⟨unit, rs, hok, hrs, hdefined.trans hnames, hnodup⟩

theorem exists_defined {spec : Spec} {names : List String}
    (h : ((compile ⟨1, false⟩ spec).2.toOption.bind fun u =>
      (Avro.records "" u).toOption.map Avro.defined) = some names)
    (hnames : ¬names.Nodup) :
    ∃ unit rs, (compile ⟨1, false⟩ spec).2 = .ok unit ∧ Avro.records "" unit = .ok rs ∧
      Avro.defined rs = names ∧ ¬(Avro.defined rs).Nodup := by
  obtain ⟨unit, hunit, h⟩ := Option.bind_eq_some_iff.1 h
  obtain ⟨rs, hrs, rfl⟩ := Option.map_eq_some_iff.1 h
  exact ⟨unit, rs, Except.toOption_eq_some_iff.1 hunit, Except.toOption_eq_some_iff.1 hrs,
    rfl, hnames⟩

/-- Enums of one name: those of two fields of a record, those of fields of two records, and one that
has the name of a record. -/
theorem avro_defined_not_nodup :
    (∃ unit rs, (compile ⟨1, false⟩ (switchMessages [("Lamp", ["on_off", "onOff"])])).2 = .ok unit ∧
      Avro.records "" unit = .ok rs ∧ Avro.defined rs = ["Lamp", "LampOnOffEnum", "LampOnOffEnum"] ∧
      ¬(Avro.defined rs).Nodup) ∧
    (∃ unit rs,
      (compile ⟨1, false⟩ (switchMessages [("Lamp", ["spot_mode"]), ("LampSpot", ["mode"])])).2 =
        .ok unit ∧
      Avro.records "" unit = .ok rs ∧
      Avro.defined rs = ["Lamp", "LampSpot", "LampSpotModeEnum", "LampSpotModeEnum"] ∧
      ¬(Avro.defined rs).Nodup) ∧
    ∃ unit rs,
      (compile ⟨1, false⟩ (switchMessages [("Lamp", ["mode"]), ("LampModeEnum", [])])).2 =
        .ok unit ∧
      Avro.records "" unit = .ok rs ∧ Avro.defined rs = ["Lamp", "LampModeEnum", "LampModeEnum"] ∧
      ¬(Avro.defined rs).Nodup := by
  refine ⟨exists_defined ?_ (by decide), exists_defined ?_ (by decide),
    exists_defined ?_ (by decide)⟩
  · decide +kernel
  · decide +kernel
  · decide +kernel

end PayloadGen
