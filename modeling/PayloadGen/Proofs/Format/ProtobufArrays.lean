import PayloadGen.Proofs.Format.Sheet

/-!
# Arrays in protocol buffers

The format has no arrays of arrays. They are found, and fields are marked `optional`, by words in
the spelling of the type of a field, and the name of a class is part of that spelling. Of a complete
type the spelling is `repeated` for every sequence and the name of the innermost elements
(`Protobuf.spelling`), so the search finds exactly the types that are nested and those whose class
has a name that reads like an array (`Protobuf.occursIn_spelling`). The file of any other unit has a
message for each class, whose fields are numbered in turn (`Protobuf.messageText`).
-/

namespace PayloadGen

open Text

/-- Is there a sequence of sequences in the type, at any depth? -/
def FieldType.isNested : FieldType → Bool
  | mk (.list (some e)) _ _ _ | mk (.tuple (some e) _) _ _ _ => e.shape.isSequence || e.isNested
  | _ => false

namespace Format.Protobuf

/-! ## Spelled types -/

/-- The name of the innermost elements of a type. -/
def element : FieldType → String
  | .mk (.scalar kind) _ _ _ => dialect.scalar kind
  | .mk .literal _ _ _ => "string"
  | .mk (.ofClass c) _ _ _ => c
  | .mk (.list (some e)) _ _ _ | .mk (.tuple (some e) _) _ _ _ => element e
  | _ => ""

/-- The spelling of a complete type. -/
def spelling : FieldType → String
  | .mk (.list (some e)) _ _ _ | .mk (.tuple (some e) _) _ _ _ => "repeated " ++ spelling e
  | t => element t

/-- Is the class of a type taken for an array by its name? It is so if the name has `repeated` twice
in a row, and in a sequence if it begins with `repeated`. -/
def isMisread (t : FieldType) : Bool :=
  t.classRefs.any (occursIn "repeated repeated".toList ·.toList) ||
    t.shape.isSequence && t.classRefs.any (startsWith · "repeated")

variable {t : FieldType}

theorem spell_eq (className field : String) (h : t.Complete) :
    dialect.spell className field t = .ok (spelling t) := by
  induction h with
  | scalar | literal | ofClass => rfl
  | list _ ih => exact Dialect.spell_list _ _ _ ih
  | tuple _ ih => exact Dialect.spell_tuple _ _ _ ih rfl

/-- The spelling of a type begins with `repeated` if it is a sequence or if the name of its class
does. -/
theorem startsWith_spelling (h : t.Complete) {word : String}
    (hword : word = "repeated" ∨ word = "repeated ") :
    startsWith (spelling t) word = (t.shape.isSequence || t.classRefs.any (startsWith · word)) := by
  have hrepeated (s : String) : startsWith ("repeated " ++ s) word = true := by
    rw [startsWith, String.toList_append]
    obtain rfl | rfl := hword <;> rfl
  have hscalar (kind : Scalar) : startsWith (dialect.scalar kind) word = false := by
    obtain rfl | rfl := hword <;> cases kind <;> rfl
  cases h with
  | scalar => exact hscalar _
  | literal => exact hscalar .string
  | ofClass => exact (Bool.or_false _).symm
  | list => exact hrepeated _
  | tuple => exact hrepeated _

theorem occursIn_scalar (kind : Scalar) :
    occursIn "repeated repeated".toList (dialect.scalar kind).toList = false := by
  cases kind <;> decide

theorem occursIn_repeated (s : String) :
    occursIn "repeated repeated".toList ("repeated " ++ s).toList =
      (startsWith s "repeated" || occursIn "repeated repeated".toList s.toList) := by
  rw [String.toList_append]
  -- a match that begins inside of `repeated ` begins with its `r`, the only one
  rfl

theorem occursIn_optional (s : String) :
    occursIn "repeated repeated".toList ("optional " ++ s).toList =
      occursIn "repeated repeated".toList s.toList := by
  rw [String.toList_append]
  rfl

/-- The search for `repeated repeated` finds the types that are nested or misread. -/
theorem occursIn_spelling (h : t.Complete) :
    occursIn "repeated repeated".toList (spelling t).toList = (t.isNested || isMisread t) := by
  have hsequence {e : FieldType} (he : e.Complete)
      (ih : occursIn "repeated repeated".toList (spelling e).toList = (e.isNested || isMisread e)) :
      occursIn "repeated repeated".toList ("repeated " ++ spelling e).toList =
        ((e.shape.isSequence || e.isNested) ||
          (e.classRefs.any (occursIn "repeated repeated".toList ·.toList) ||
          e.classRefs.any (startsWith · "repeated"))) := by
    rw [occursIn_repeated, startsWith_spelling he (.inl rfl), ih, isMisread]
    -- a class that is misread among the elements is so in the sequence, and there the first
    -- `repeated` may count too
    cases e.shape.isSequence
    · rw [Bool.false_or, Bool.false_or, Bool.false_and, Bool.or_false, Bool.or_comm, Bool.or_assoc]
    · rfl
  induction h with
  | scalar => exact occursIn_scalar _
  | literal => exact occursIn_scalar .string
  | @ofClass c => exact ((Bool.or_false _).trans (Bool.or_false _)).symm
  | list he ih => exact hsequence he ih
  | tuple he ih => exact hsequence he ih

/-- The spelling of a type that is not nested has at most one `repeated` before the element. -/
theorem spelling_eq (h : t.Complete) (hnested : t.isNested = false) :
    spelling t = (if t.shape.isSequence then "repeated " else "") ++ element t := by
  have helement {e : FieldType} (he : e.Complete) (hsequence : e.shape.isSequence = false) :
      spelling e = element e := by
    cases he with
    | scalar | literal | ofClass => rfl
    | list | tuple => cases hsequence
  cases h with
  | scalar | literal | ofClass => exact String.empty_append.symm
  | list he => exact congrArg ("repeated " ++ ·) (helement he (Bool.or_eq_false_iff.1 hnested).1)
  | tuple he => exact congrArg ("repeated " ++ ·) (helement he (Bool.or_eq_false_iff.1 hnested).1)

/-! ## Messages -/

/-- What stands before the element of a field: sequences are `repeated`, and other fields that may
be missing are `optional`, unless their class has a name that begins with the word `repeated`. -/
def label (t : FieldType) : String :=
  if t.shape.isSequence then "repeated "
  else if t.optional && !t.classRefs.any (startsWith · "repeated ") then "optional "
  else ""

/-- A field with its type spelled, before the last touch. -/
def bareRow (f : Field) : FieldRow :=
  ⟨f.name, spelling f.type, f.type.optional, "", f.doc, f.type.constraint, f.type.literals⟩

/-- The row of a field. -/
def fieldRow (f : Field) : FieldRow :=
  dialect.finish (bareRow f)

/-- The type row of a class. -/
def typeRow (c : ClassDef) : TypeRow :=
  ⟨c.name, c.fields.map fieldRow⟩

/-- The lines of a field: its comment, then label, type, name and number. -/
def fieldText (f : Field) (number : Nat) : String :=
  (if note (bareRow f) = "" then "" else "\n  // " ++ note (bareRow f)) ++
    "\n  " ++ (label f.type ++ element f.type) ++ " " ++ Name.snake f.name ++ " = " ++
    ofInt number ++ ";"

/-- The message of a class, with its fields in declared order and numbered from one. -/
def messageText (c : ClassDef) : String :=
  "\nmessage " ++ c.name ++ " \x7b" ++
    String.join ((c.fields.zipIdx 1).map fun (f, number) => fieldText f number) ++ "\n\x7d\n"

variable {f : Field} {c : ClassDef} {u : CompiledUnit}

theorem name_fieldRow (f : Field) : (fieldRow f).name = Name.snake f.name := rfl

theorem description_fieldRow (f : Field) : (fieldRow f).description = note (bareRow f) := by
  simp only [fieldRow, dialect]

theorem type_fieldRow (h : f.type.Complete) :
    (fieldRow f).type =
      if f.type.optional &&
          !(f.type.shape.isSequence || f.type.classRefs.any (startsWith · "repeated ")) then
        "optional " ++ spelling f.type
      else spelling f.type := by
  rw [← startsWith_spelling h (.inr rfl)]
  rfl

theorem occursIn_type_fieldRow (h : f.type.Complete) :
    occursIn "repeated repeated".toList (fieldRow f).type.toList =
      (f.type.isNested || isMisread f.type) := by
  rw [type_fieldRow h, ← occursIn_spelling h]
  split
  · exact occursIn_optional _
  · rfl

theorem type_fieldRow_eq (h : f.type.Complete) (hnested : f.type.isNested = false) :
    (fieldRow f).type = label f.type ++ element f.type := by
  rw [type_fieldRow h, spelling_eq h hnested, label]
  cases f.type.shape.isSequence with
  | true => simp
  | false =>
    simp only [Bool.false_or, Bool.false_eq_true, if_false, String.empty_append]
    split
    · rfl
    · rw [String.empty_append]

theorem fieldLines_fieldRow (h : f.type.Complete) (hnested : f.type.isNested = false)
    (number : Nat) : fieldLines (fieldRow f) number = fieldText f number := by
  rw [fieldLines, type_fieldRow_eq h hnested, name_fieldRow, description_fieldRow, fieldText]

theorem message_typeRow (h : ∀ f ∈ c.fields, f.type.Complete)
    (hnested : ∀ f ∈ c.fields, f.type.isNested = false) : message (typeRow c) = messageText c := by
  have hlines : (c.fields.map fieldRow).mapIdx (fun i r => fieldLines r (i + 1)) =
      (c.fields.zipIdx 1).map fun (f, number) => fieldText f number := by
    refine List.ext_getElem (by simp) fun i hi _ => ?_
    have hf : i < c.fields.length := by simpa using hi
    have hmem := List.getElem_mem hf
    rw [List.getElem_mapIdx, List.getElem_map, List.getElem_map, List.getElem_zipIdx,
      Nat.add_comm 1]
    exact fieldLines_fieldRow (h _ hmem) (hnested _ hmem) (i + 1)
  simp only [message, typeRow, hlines, messageText]

/-- The sheet of a unit of complete types. -/
theorem sheet_eq (hu : ∀ c ∈ u.classes, ∀ f ∈ c.fields, f.type.Complete) :
    dialect.sheet u = .ok ⟨u.title, u.version, u.classes.map typeRow, u.topics.entries,
      u.callbacks.map fun b => ⟨b.payload, b.payload⟩⟩ := by
  have htypes : (u.classes.mapM fun c => (c.fields.mapM (dialect.row c.name)).bind fun rows =>
      .ok ⟨dialect.typeName c.name, rows⟩) = .ok (u.classes.map typeRow) := by
    refine mapM_eq_ok_map fun c hc => ?_
    rw [mapM_eq_ok_map fun f hf => Dialect.row_of_spell (spell_eq c.name f.name (hu c hc f hf))]
    rfl
  refine Except.bind_eq_ok_iff.2 ⟨_, htypes, ?_⟩
  exact congrArg (fun topics => Except.ok (Sheet.mk u.title u.version _ topics _)) (List.map_id _)

/-- No class is found to have an array of arrays if no field is nested or misread. -/
theorem nestedArray?_eq_none_iff (hu : ∀ c ∈ u.classes, ∀ f ∈ c.fields, f.type.Complete) :
    nestedArray? (u.classes.map typeRow) = none ↔
      ∀ c ∈ u.classes, ∀ f ∈ c.fields, f.type.isNested = false ∧ isMisread f.type = false := by
  simp only [nestedArray?, List.findSome?_eq_none_iff, List.forall_mem_map, Option.map_eq_none_iff,
    List.find?_eq_none, typeRow]
  refine forall₂_congr fun c hc => forall₂_congr fun f hf => ?_
  rw [occursIn_type_fieldRow (hu c hc f hf), Bool.not_eq_true, Bool.or_eq_false_iff]

theorem render_of_nestedArray? (package : String)
    (hu : ∀ c ∈ u.classes, ∀ f ∈ c.fields, f.type.Complete) {className field : String}
    (h : nestedArray? (u.classes.map typeRow) = some (className, field)) :
    render package u = .error (.nestedArrays className field) := by
  rw [render, sheet_eq hu]
  simp only [bind, Except.bind, h]

/-- The file of a unit in which no field is nested or misread. -/
theorem render_eq (package : String) (hu : ∀ c ∈ u.classes, ∀ f ∈ c.fields, f.type.Complete)
    (hplain : ∀ c ∈ u.classes, ∀ f ∈ c.fields, f.type.isNested = false ∧ isMisread f.type = false) :
    render package u =
      .ok (header package u.topics ++ String.join (u.classes.map messageText)) := by
  have hmessages : (u.classes.map typeRow).map message = u.classes.map messageText := by
    rw [List.map_map]
    exact List.map_congr_left fun c hc => message_typeRow (hu c hc) fun f hf => (hplain c hc f hf).1
  rw [render, sheet_eq hu]
  simp only [bind, Except.bind, (nestedArray?_eq_none_iff hu).2 hplain, hmessages]
  rfl

end Format.Protobuf

open Format

/-- **Arrays of arrays are refused, and little else.** A unit of complete types is refused as having
nested arrays exactly if a field is of a nested type, or of a class that is taken for an array by
its name. Any other unit is written, with a message for each class, whose fields are numbered from
one in declared order; a field is `repeated` if it is a sequence, and otherwise `optional` if it may
be missing, unless the name of its class begins with the word `repeated`. -/
theorem protobuf_refuses_nested (package : String) {u : CompiledUnit}
    (hu : ∀ c ∈ u.classes, ∀ f ∈ c.fields, f.type.Complete) :
    ((∃ className field, Protobuf.render package u = .error (.nestedArrays className field)) ↔
      ∃ c ∈ u.classes, ∃ f ∈ c.fields, f.type.isNested = true ∨ Protobuf.isMisread f.type = true) ∧
    ((∀ c ∈ u.classes, ∀ f ∈ c.fields, f.type.isNested = false ∧
      Protobuf.isMisread f.type = false) →
      Protobuf.render package u =
        .ok (Protobuf.header package u.topics ++
          String.join (u.classes.map Protobuf.messageText))) := by
  refine ⟨?_, Protobuf.render_eq package hu⟩
  have hplain : (∀ c ∈ u.classes, ∀ f ∈ c.fields, f.type.isNested = false ∧
      Protobuf.isMisread f.type = false) ↔
      ¬∃ c ∈ u.classes, ∃ f ∈ c.fields, f.type.isNested = true ∨
      Protobuf.isMisread f.type = true := by
    simp
  constructor
  · rintro ⟨className, field, herror⟩
    by_contra h
    rw [Protobuf.render_eq package hu (hplain.2 h)] at herror
    cases herror
  · intro h
    cases hfound : Protobuf.nestedArray? (u.classes.map Protobuf.typeRow) with
    | some found => exact ⟨found.1, found.2, Protobuf.render_of_nestedArray? package hu hfound⟩
    | none => exact absurd h (hplain.1 ((Protobuf.nestedArray?_eq_none_iff hu).1 hfound))

/-- A specification with one message, none of whose properties is required. -/
def bearerSpec (name : String) (properties : List (String × Schema)) : Spec where
  asyncapi := "2.6.0"
  info := ⟨"Bearer", "1.0.0", ""⟩
  channels := []
  messages := [⟨name, "", "", .object "" properties [] true⟩]

/-- A closed object without properties. -/
def emptyObject : Schema := .object "" [] [] true

/-- A message with a text, an array and an object. -/
def lampMessage : Spec :=
  bearerSpec "Lamp" [("id", .string "" []), ("spots", .array "" emptyObject none none),
    ("base", emptyObject)]

/-- The text of that message. -/
def lampMessageText : String :=
  "\nmessage Lamp \x7b\n  optional string id = 1;\n  repeated LampSpots spots = 2;\n" ++
    "  optional LampBase base = 3;\n\x7d\n"

/-- A message with an array of arrays. -/
def nestedMessage : Spec :=
  bearerSpec "Lamp" [("modes", .array "" (.array "" (.string "" []) none none) none none)]

theorem protobuf_refuses_nested_lampMessage :
    (∃ unit, (compile ⟨1, false⟩ nestedMessage).2 = .ok unit ∧
      ∃ className field, Protobuf.render "" unit = .error (.nestedArrays className field)) ∧
    ∃ unit, (compile ⟨1, false⟩ lampMessage).2 = .ok unit ∧
      lampMessageText ∈ unit.classes.map Protobuf.messageText ∧
      Protobuf.render "" unit =
        .ok (Protobuf.header "" unit.topics ++
          String.join (unit.classes.map Protobuf.messageText)) := by
  constructor
  · have hunit : (compile ⟨1, false⟩ nestedMessage).2.toOption.any (fun u =>
        ∃ c ∈ u.classes, ∃ f ∈ c.fields, f.type.isNested = true ∨
        Protobuf.isMisread f.type = true) = true := by
      decide +kernel
    obtain ⟨unit, hunit, hnested⟩ := (Option.any_eq_true _ _).1 hunit
    have hok := Except.toOption_eq_some_iff.1 hunit
    exact ⟨unit, hok, (protobuf_refuses_nested "" (complete_of_compile hok)).1.2
      (of_decide_eq_true hnested)⟩
  · have hunit : (compile ⟨1, false⟩ lampMessage).2.toOption.any (fun u =>
        (∀ c ∈ u.classes, ∀ f ∈ c.fields, f.type.isNested = false ∧
          Protobuf.isMisread f.type = false) ∧
        lampMessageText ∈ u.classes.map Protobuf.messageText) = true := by
      decide +kernel
    obtain ⟨unit, hunit, hfacts⟩ := (Option.any_eq_true _ _).1 hunit
    obtain ⟨hplain, htext⟩ := of_decide_eq_true hfacts
    have hok := Except.toOption_eq_some_iff.1 hunit
    exact ⟨unit, hok, htext, (protobuf_refuses_nested "" (complete_of_compile hok)).2 hplain⟩

/-- An array of objects whose class has a name that begins with `repeated` is refused, and a field
that may be missing is not `optional` if its class has such a name. -/
theorem protobuf_refuses_repeatedLamp :
    (∃ unit e,
      (compile ⟨1, false⟩
        (bearerSpec "repeatedLamp" [("spots", .array "" emptyObject none none)])).2 = .ok unit ∧
      (∀ c ∈ unit.classes, ∀ f ∈ c.fields, f.type.isNested = false) ∧
      Protobuf.render "" unit = .error e ∧
      e.message = "repeatedLamp.spots: nested arrays are not supported by proto3") ∧
    ∃ unit text,
      (compile ⟨1, false⟩ (bearerSpec "repeated lamp" [("spot", emptyObject)])).2 = .ok unit ∧
      (∃ c ∈ unit.classes, ∃ f ∈ c.fields, f.type.optional = true ∧
        f.type.shape.isSequence = false) ∧
      Protobuf.render "" unit = .ok text ∧ occursIn "optional".toList text.toList = false := by
  constructor
  · have hunit : (compile ⟨1, false⟩ (bearerSpec "repeatedLamp"
        [("spots", .array "" emptyObject none none)])).2.toOption.any (fun u =>
        (∀ c ∈ u.classes, ∀ f ∈ c.fields, f.type.isNested = false) ∧
        (Protobuf.render "" u).error?.map Error.message =
          some "repeatedLamp.spots: nested arrays are not supported by proto3") = true := by
      decide +kernel
    obtain ⟨unit, hunit, hfacts⟩ := (Option.any_eq_true _ _).1 hunit
    obtain ⟨hplain, herror⟩ := of_decide_eq_true hfacts
    obtain ⟨e, he, hmessage⟩ := Option.map_eq_some_iff.1 herror
    exact ⟨unit, e, Except.toOption_eq_some_iff.1 hunit, hplain,
      Except.error?_eq_some_iff.1 he, hmessage⟩
  · have hunit : (compile ⟨1, false⟩
        (bearerSpec "repeated lamp" [("spot", emptyObject)])).2.toOption.any (fun u =>
        (∃ c ∈ u.classes, ∃ f ∈ c.fields, f.type.optional = true ∧
          f.type.shape.isSequence = false) ∧
        ((Protobuf.render "" u).toOption.any fun text => !occursIn "optional".toList text.toList) =
          true) = true := by
      decide +kernel
    obtain ⟨unit, hunit, hfacts⟩ := (Option.any_eq_true _ _).1 hunit
    obtain ⟨hmissing, htext⟩ := of_decide_eq_true hfacts
    obtain ⟨text, htext, hoptional⟩ := (Option.any_eq_true _ _).1 htext
    exact ⟨unit, text, Except.toOption_eq_some_iff.1 hunit, hmissing,
      Except.toOption_eq_some_iff.1 htext, by simpa using hoptional⟩

end PayloadGen
