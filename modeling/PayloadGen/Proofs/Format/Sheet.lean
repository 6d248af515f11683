import PayloadGen.Format.Basic
import PayloadGen.Proofs.Payload.WellFormed

/-!
# Every format can show a compiled unit

A dialect refuses a type only if it has no type of its elements, is of no kind, or is a sequence
whose length the dialect does not spell. None of these occurs in a well-formed type
(`Dialect.exists_spell`), so every dialect has a sheet of a compiled unit (`compile_renderable`).
The lemmas speak of a dialect together with another spelling of sequences that agrees with it on
lengths that are not negative: that the result is the same shows that the spelling is not asked for
any other length.
-/

namespace PayloadGen

namespace Format

namespace Dialect

/-- The dialect with another spelling of sequences of a fixed length. -/
def withTuple (d : Dialect) (tuple : String → Int → Except Error String) : Dialect :=
  { d with tuple }

/-- Sequences of every length that is not negative have a spelling, and the other function gives it
too. -/
def SpellsTuples (d : Dialect) (tuple : String → Int → Except Error String) : Prop :=
  ∀ e n, 0 ≤ n → ∃ s, d.tuple e n = .ok s ∧ tuple e n = .ok s

variable {d : Dialect} {tuple : String → Int → Except Error String}

section Spelled

variable {className field s s' : String} {e : FieldType} (literals : List String) (optional : Bool)
  (constraint : Option Constraint)

theorem spell_list (h : d.spell className field e = .ok s) :
    d.spell className field (.mk (.list (some e)) literals optional constraint) =
      .ok (d.list s) := by
  rw [spell, spellShape, h]
  rfl

theorem spell_tuple {n : Int} (h : d.spell className field e = .ok s)
    (htuple : d.tuple s n = .ok s') :
    d.spell className field (.mk (.tuple (some e) n) literals optional constraint) = .ok s' := by
  rw [spell, spellShape, h]
  exact htuple

end Spelled

theorem row_of_spell {className s : String} {f : Field}
    (h : d.spell className f.name f.type = .ok s) :
    d.row className f =
      .ok (d.finish ⟨f.name, s, f.type.optional, "", f.doc, f.type.constraint,
        f.type.literals⟩) := by
  rw [row, h]
  rfl

/-- The types of a sheet are those of the classes in turn, with a row for each field. -/
theorem types_of_sheet {u : CompiledUnit} {s : Sheet} (h : d.sheet u = .ok s) :
    List.Forall₂ (fun c t => t.name = d.typeName c.name ∧
      List.Forall₂ (fun f r => d.row c.name f = .ok r) c.fields t.fields) u.classes s.types := by
  obtain ⟨types, htypes, hs⟩ := Except.bind_eq_ok_iff.1 h
  obtain rfl := Except.ok.inj hs
  refine (mapM_eq_ok_iff.1 htypes).imp fun c t ht => ?_
  obtain ⟨rows, hrows, ht⟩ := Except.bind_eq_ok_iff.1 ht
  obtain rfl := Except.ok.inj ht
  exact ⟨rfl, mapM_eq_ok_iff.1 hrows⟩

theorem exists_spell (hd : d.SpellsTuples tuple) (className field : String) :
    ∀ t : FieldType, t.WellFormed →
      ∃ s, d.spell className field t = .ok s ∧ (d.withTuple tuple).spell className field t = .ok s
  | .mk (.scalar kind) literals optional constraint, _ => ⟨d.scalar kind, rfl, rfl⟩
  | .mk .literal literals optional constraint, _ => ⟨d.literal literals, rfl, rfl⟩
  | .mk (.ofClass name) literals optional constraint, _ => ⟨d.classRef name, rfl, rfl⟩
  | .mk (.list (some e)) literals optional constraint, h => by
    obtain ⟨s, hs, hs'⟩ := exists_spell hd className field e (h.elem rfl)
    exact ⟨d.list s, spell_list literals optional constraint hs,
      spell_list literals optional constraint hs'⟩
  | .mk (.tuple (some e) n) literals optional constraint, h => by
    obtain ⟨s, hs, hs'⟩ := exists_spell hd className field e (h.elem rfl)
    obtain ⟨s', htuple, htuple'⟩ := hd s n ((h.regular _ .refl).length (some e) n rfl)
    exact ⟨s', spell_tuple literals optional constraint hs htuple,
      spell_tuple literals optional constraint hs' htuple'⟩
  | .mk (.list none) literals optional constraint, h => by
    have helem := (h.regular _ .refl).elem
    cases helem
  | .mk (.tuple none n) literals optional constraint, h => by
    have helem := (h.regular _ .refl).elem
    cases helem
  | .mk (.invalid code) literals optional constraint, h =>
    absurd rfl ((h.regular _ .refl).kind code)

theorem exists_row (hd : d.SpellsTuples tuple) (className : String) {f : Field}
    (hf : f.type.WellFormed) :
    ∃ r, d.row className f = .ok r ∧ (d.withTuple tuple).row className f = .ok r := by
  obtain ⟨s, hs, hs'⟩ := exists_spell hd className f.name f.type hf
  exact ⟨_, row_of_spell hs, row_of_spell hs'⟩

/-- A unit whose types are well formed has a sheet. -/
theorem exists_sheet (hd : d.SpellsTuples tuple) {u : CompiledUnit}
    (hu : ∀ c ∈ u.classes, ∀ f ∈ c.fields, f.type.WellFormed) :
    ∃ s, d.sheet u = .ok s ∧ (d.withTuple tuple).sheet u = .ok s := by
  have hclass : ∀ c ∈ u.classes, ∃ r : TypeRow,
      (c.fields.mapM (d.row c.name)).map (TypeRow.mk (d.typeName c.name)) = .ok r ∧
        (c.fields.mapM ((d.withTuple tuple).row c.name)).map (TypeRow.mk (d.typeName c.name)) =
          .ok r := by
    intro c hc
    obtain ⟨rows, hrows, hrows'⟩ := exists_mapM_eq_ok fun f hf =>
      exists_row hd c.name (hu c hc f hf)
    exact ⟨⟨d.typeName c.name, rows⟩, by rw [hrows]; rfl, by rw [hrows']; rfl⟩
  obtain ⟨types, htypes, htypes'⟩ := exists_mapM_eq_ok hclass
  refine ⟨⟨u.title, u.version, types, u.topics.entries.map fun e => (e.1, d.typeName e.2),
    u.callbacks.map fun c => ⟨d.callbackName c.payload, d.typeName c.payload⟩⟩, ?_, ?_⟩
  · rw [sheet]
    exact Except.bind_eq_ok_iff.2 ⟨types, htypes, rfl⟩
  · rw [sheet]
    exact Except.bind_eq_ok_iff.2 ⟨types, htypes', rfl⟩

end Dialect

/-- Every format spells sequences of a length that is not negative. -/
theorem spellsTuples (f : Format) : f.dialect.SpellsTuples f.dialect.tuple := by
  intro e n hn
  cases f with
  | pydantic =>
    by_cases hzero : n = 0
    · exact ⟨"Tuple[()]", by simp [dialect, Pydantic.dialect, hzero]⟩
    · have htuple : (dialect .pydantic).tuple e n =
          .ok ("Tuple[" ++ ", ".intercalate (List.replicate n.toNat e) ++ "]") := by
        simp [dialect, Pydantic.dialect, Int.not_lt.2 hn, hzero]
      exact ⟨_, htuple, htuple⟩
  | avro | gotypes | markdown | protobuf => exact ⟨_, rfl, rfl⟩

end Format

open Format

/-- **What compiles can be rendered.** The classes of a compiled unit are those of the objects in
the messages, with a field of a well-formed type for each property, which may be missing exactly if
it is not required. So every format has a sheet of the unit, the models in Python and the page in
Markdown are written without fail, and the spelling of Python tuples is never asked for a negative
length: with any other spelling of those the sheet is the same. -/
theorem compile_renderable {options : CompileOptions} {spec : Spec} {unit : CompiledUnit}
    (h : (compile options spec).2 = .ok unit) :
    List.Forall₂ IsClassOf unit.classes spec.objects ∧
      (∀ c ∈ unit.classes, ∀ f ∈ c.fields, f.type.WellFormed) ∧
      (∀ f : Format, ∃ sheet, f.dialect.sheet unit = .ok sheet) ∧
      (∀ package, (∃ text, Format.pydantic.render package (some unit) = .ok text) ∧
        ∃ text, Format.markdown.render package (some unit) = .ok text) ∧
      ∀ tuple, (∀ e n, 0 ≤ n → tuple e n = Pydantic.dialect.tuple e n) →
        (Pydantic.dialect.withTuple tuple).sheet unit = Pydantic.dialect.sheet unit := by
  have hwell : ∀ c ∈ unit.classes, ∀ f ∈ c.fields, f.type.WellFormed :=
    fun c hc f hf => wellFormed_of_compile h hc hf
  have hsheet : ∀ f : Format, ∃ sheet, f.dialect.sheet unit = .ok sheet := by
    intro f
    obtain ⟨sheet, hsheet, -⟩ := Dialect.exists_sheet f.spellsTuples hwell
    exact ⟨sheet, hsheet⟩
  refine ⟨compile_isClassOf h, hwell, hsheet, fun package => ⟨?_, ?_⟩, fun tuple htuple => ?_⟩
  · obtain ⟨sheet, hsheet⟩ := hsheet .pydantic
    exact ⟨_, Except.bind_eq_ok_iff.2 ⟨sheet, hsheet, rfl⟩⟩
  · obtain ⟨sheet, hsheet⟩ := hsheet .markdown
    exact ⟨_, Except.bind_eq_ok_iff.2 ⟨sheet, hsheet, rfl⟩⟩
  · have hspells : Pydantic.dialect.SpellsTuples tuple := by
      intro e n hn
      obtain ⟨s, hs, -⟩ := Format.pydantic.spellsTuples e n hn
      exact ⟨s, hs, (htuple e n hn).trans hs⟩
    obtain ⟨sheet, hsheet, hsheet'⟩ := Dialect.exists_sheet hspells hwell
    exact hsheet'.trans hsheet.symm

/-- A specification with arrays of arrays, of a fixed length and of any, around literals and an
object. -/
def lampSpec : Spec where
  asyncapi := "2.6.0"
  info := ⟨"Lamp", "1.0.0", ""⟩
  channels := [⟨"lamp", "", none, some ⟨"", "#/components/messages/Lamp"⟩⟩]
  messages := [⟨"Lamp", "", "", .object ""
    [("wrgb", .array "" (.number "" ⟨true, none, none, none⟩) (some 4) (some 4)),
      ("modes", .array "" (.array "" (.string "" ["on", "off"]) (some 0) (some 0)) (some 1) none),
      ("spots",
        .array "" (.object "" [("level", .number "" ⟨false, some "0.5", none, none⟩)] [] true) none
          none)]
    ["wrgb"] true⟩]

theorem compile_renderable_lampSpec : ∃ unit, (compile ⟨1, false⟩ lampSpec).2 = .ok unit ∧
    unit.classes.map (fun c => (c.name, c.fields.map fun f => (f.name, f.type.optional))) =
      [("LampSpots", [("level", true)]),
        ("Lamp", [("wrgb", false), ("modes", true), ("spots", true)])] ∧
    (∀ c ∈ unit.classes, ∀ f ∈ c.fields, f.type.WellFormed) ∧
    ∃ text, Format.pydantic.render "" (some unit) = .ok text := by
  have hclasses : ((compile ⟨1, false⟩ lampSpec).2.toOption.map fun u =>
      u.classes.map fun c => (c.name, c.fields.map fun f => (f.name, f.type.optional))) =
      some [("LampSpots", [("level", true)]),
        ("Lamp", [("wrgb", false), ("modes", true), ("spots", true)])] := by
    decide +kernel
  obtain ⟨unit, hunit, hclasses⟩ := Option.map_eq_some_iff.1 hclasses
  have hok := Except.toOption_eq_some_iff.1 hunit
  obtain ⟨-, hwell, -, hrender, -⟩ := compile_renderable hok
  exact ⟨unit, hok, hclasses, hwell, (hrender "").1⟩

end PayloadGen
