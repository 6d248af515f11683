import PayloadGen.Proofs.Format.GoNames

/-!
# The names of fields

Members of Go structs and fields of messages have names of their own, made from the names of the
fields of a class. A Go member has the letters of the field up to case, and a message field has its
ASCII words, so distinct fields get one name only if they agree in these. A field whose name holds
nothing but separators has no name at all. Neither format compares the names that it makes.
-/

namespace PayloadGen

open Text Name

/-- The names of the fields of a class, in declared order. -/
def ClassDef.fieldNames (c : ClassDef) : List String :=
  c.fields.map (·.name)

namespace Format

/-- The names of the fields of a type, in order. -/
def TypeRow.fieldNames (t : TypeRow) : List String :=
  t.fields.map (·.name)

/-- The fields of a type are those of a class with other names, and these are not empty exactly if
those of the class have a character that is kept. -/
structure IsRenamed (rename : String → String) (isKept : Char → Bool) (c : ClassDef)
    (t : TypeRow) : Prop where
  names : t.fieldNames = c.fieldNames.map rename
  nonempty : "" ∉ t.fieldNames ↔ ∀ n ∈ c.fieldNames, n.toList.any isKept = true

theorem IsRenamed.of_names {rename : String → String} {isKept : Char → Bool} {c : ClassDef}
    {t : TypeRow} (hnames : t.fieldNames = c.fieldNames.map rename)
    (hempty : ∀ n ∈ c.fieldNames, rename n = "" ↔ ∀ x ∈ n.toList, isKept x = false) :
    IsRenamed rename isKept c t where
  names := hnames
  nonempty := by
    rw [hnames, List.mem_map, not_exists]
    refine forall_congr' fun n => ?_
    rw [not_and]
    refine forall_congr' fun hn => ?_
    rw [hempty n hn]
    simp

/-- The names of the fields in a sheet, if the format makes them from the names of the fields
alone. -/
theorem Dialect.fieldNames_of_sheet {d : Dialect} (rename : String → String)
    (hd : ∀ r : FieldRow, (d.finish r).name = rename r.name) {u : CompiledUnit} {s : Sheet}
    (h : d.sheet u = .ok s) :
    List.Forall₂ (fun c t => t.fieldNames = c.fieldNames.map rename) u.classes s.types := by
  refine (types_of_sheet h).imp fun c t ht => ?_
  rw [TypeRow.fieldNames, ClassDef.fieldNames, List.map_map]
  refine map_eq_of_forall₂ (ht.2.imp fun f r hr => ?_)
  obtain ⟨type, -, hr⟩ := Except.bind_eq_ok_iff.1 hr
  obtain rfl := Except.ok.inj hr
  exact hd _

/-! ## Go -/

namespace Go

/-- The members of a struct that is written have no replacement character. -/
theorem replacement_not_mem_of_struct? {t : TypeRow} {struct : String}
    (h : struct? t = some struct) : ∀ n ∈ t.fieldNames, replacement ∉ n.toList := by
  obtain ⟨_, -, h⟩ := Option.bind_eq_some_iff.1 h
  obtain ⟨fields, hfields, -⟩ := Option.bind_eq_some_iff.1 h
  refine List.forall_mem_map.2 fun r hr hmem => ?_
  obtain ⟨_, -, hfield⟩ := exists_of_mapM_eq_some hfields r hr
  have hnone : declarations? (r.name ++ " " ++ r.type) = none := by
    rw [declarations?, tokens?_eq_none (by simp [hmem])]
    rfl
  rw [fieldDeclarations?, hnone] at hfield
  cases hfield

theorem exported_eq_empty_iff {s : String} (h : replacement ∉ (exported s).toList) :
    exported s = "" ↔ ∀ c ∈ s.toList, isSeparator c = true := by
  rw [← String.toList_eq_nil_iff, ← List.map_eq_nil_iff (f := lower), map_lower_exported h, folded,
    List.map_eq_nil_iff, List.filter_eq_nil_iff]
  simp

/-- Members are distinct if the fields are so up to separators and case. -/
theorem nodup_exported {names : List String} (h : ∀ n ∈ names.map exported, replacement ∉ n.toList)
    (hnodup : (names.map (folded isSeparator)).Nodup) : (names.map exported).Nodup := by
  refine List.Nodup.of_map (fun n => n.toList.map lower) ?_
  rwa [map_lower_map_exported h]

/-- Names with the same words become one member. -/
theorem nodup_runs_of_nodup_exported {names : List String} (h : (names.map exported).Nodup) :
    (names.map (runs isSeparator ·.toList)).Nodup := by
  refine List.Nodup.of_map (fun words => lossy (words.flatMap exportedWord)) ?_
  rwa [List.map_map]

end Go

/-! ## Both formats -/

/-- **Members are kept apart by their letters, message fields by their words.** In a Go file that is
written, the members of a struct are named after the fields of its class in turn. A member has a
name if that of the field has a character other than `_` and `-`. Members are distinct if the names
of the fields are so without these characters and up to case, and only if the names have distinct
lists of words between them. The fields of a message have a name if that of the field has an ASCII
letter or digit, and they are distinct exactly if the names of the fields have distinct lists of
ASCII words up to case. -/
theorem field_names_apart (package : String) (u : CompiledUnit) :
    (∀ text, Go.render package u = .ok text → ∃ s, Go.dialect.sheet u = .ok s ∧
      List.Forall₂ (fun c t => IsRenamed Go.exported (!Go.isSeparator ·) c t ∧
        ((c.fieldNames.map (folded Go.isSeparator)).Nodup → t.fieldNames.Nodup) ∧
        (t.fieldNames.Nodup → (c.fieldNames.map (runs Go.isSeparator ·.toList)).Nodup))
          u.classes s.types) ∧
    (∀ text, Protobuf.render package u = .ok text → ∃ s, Protobuf.dialect.sheet u = .ok s ∧
      List.Forall₂ (fun c t => IsRenamed snake (fun x => isAsciiLetter x || isAsciiDigit x) c t ∧
        (t.fieldNames.Nodup ↔ (c.fieldNames.map snakeWords).Nodup)) u.classes s.types) := by
  constructor
  · intro text h
    obtain ⟨s, hs, hfile⟩ := Go.exists_file?_of_render h
    have hnames := Dialect.fieldNames_of_sheet Go.exported (fun r => rfl) hs
    -- a name with a replacement character is no identifier, so its struct is not written
    have hstructs := (List.forall₂_and_left _ _).2 ⟨Go.exists_struct?_of_file? hfile, hnames.flip⟩
    refine ⟨s, hs, hstructs.flip.imp fun c t ht => ?_⟩
    obtain ⟨⟨struct, hstruct⟩, hnames⟩ := ht
    have hplain := Go.replacement_not_mem_of_struct? hstruct
    rw [hnames] at hplain
    refine ⟨.of_names hnames fun n hn => ?_, ?_, ?_⟩
    · rw [Go.exported_eq_empty_iff (hplain _ (List.mem_map_of_mem hn))]
      simp
    · rw [hnames]
      exact Go.nodup_exported hplain
    · rw [hnames]
      exact Go.nodup_runs_of_nodup_exported
  · intro text h
    obtain ⟨s, hs, -⟩ := Except.bind_eq_ok_iff.1 h
    refine ⟨s, hs, (Dialect.fieldNames_of_sheet snake (fun r => rfl) hs).imp fun c t hnames => ?_⟩
    refine ⟨.of_names hnames fun n _ => snake_eq_empty_iff, ?_⟩
    simp only [hnames, List.Nodup, List.pairwise_map, ne_eq, snake_eq_iff]

/-- A specification with one message, whose properties have the given names and are all required. -/
def switchSpec (names : List String) : Spec where
  asyncapi := "2.6.0"
  info := ⟨"", "", ""⟩
  channels := []
  messages := [⟨"Switch", "", "", .object "" (names.map fun n => (n, .boolean "")) names true⟩]

theorem field_names_apart_switchSpec :
    ∃ unit s s', (compile ⟨1, false⟩ (switchSpec ["led_id", "rgb-led"])).2 = .ok unit ∧
      Go.dialect.sheet unit = .ok s ∧ (∀ t ∈ s.types, "" ∉ t.fieldNames ∧ t.fieldNames.Nodup) ∧
      Protobuf.dialect.sheet unit = .ok s' ∧
      ∀ t ∈ s'.types, "" ∉ t.fieldNames ∧ t.fieldNames.Nodup := by
  have hunit : (compile ⟨1, false⟩ (switchSpec ["led_id", "rgb-led"])).2.toOption.any (fun u =>
      (Go.render "" u).toOption.isSome ∧ (Protobuf.render "" u).toOption.isSome ∧
      ∀ c ∈ u.classes, (∀ n ∈ c.fieldNames, n.toList.any (!Go.isSeparator ·) = true) ∧
        (c.fieldNames.map (folded Go.isSeparator)).Nodup ∧
        (∀ n ∈ c.fieldNames, n.toList.any (fun x => isAsciiLetter x || isAsciiDigit x) = true) ∧
        (c.fieldNames.map snakeWords).Nodup) = true := by
    decide +kernel
  obtain ⟨unit, hunit, hfacts⟩ := (Option.any_eq_true _ _).1 hunit
  obtain ⟨htext, htext', hfields⟩ := of_decide_eq_true hfacts
  obtain ⟨text, htext⟩ := Option.isSome_iff_exists.1 htext
  obtain ⟨text', htext'⟩ := Option.isSome_iff_exists.1 htext'
  obtain ⟨hgo, hprotobuf⟩ := field_names_apart "" unit
  obtain ⟨s, hs, htypes⟩ := hgo text (Except.toOption_eq_some_iff.1 htext)
  obtain ⟨s', hs', htypes'⟩ := hprotobuf text' (Except.toOption_eq_some_iff.1 htext')
  refine ⟨unit, s, s', Except.toOption_eq_some_iff.1 hunit, hs, fun t ht => ?_, hs', fun t ht => ?_⟩
  · obtain ⟨c, hc, hrenamed, hnodup, -⟩ := exists_left_of_forall₂ htypes ht
    obtain ⟨hkept, hletters, -, -⟩ := hfields c hc
    exact ⟨hrenamed.nonempty.2 hkept, hnodup hletters⟩
  · obtain ⟨c, hc, hrenamed, hnodup⟩ := exists_left_of_forall₂ htypes' ht
    obtain ⟨-, -, hkept, hwords⟩ := hfields c hc
    exact ⟨hrenamed.nonempty.2 hkept, hnodup.2 hwords⟩

/-- Distinct fields that become one member and one field of a message, and a field that has no name
in either. -/
theorem field_names_meet :
    ∃ unit text text' s s', (compile ⟨1, false⟩ (switchSpec ["on_off", "on-off", "_"])).2 =
      .ok unit ∧
      (∀ c ∈ unit.classes, c.fieldNames.Nodup ∧ "" ∉ c.fieldNames) ∧
      Go.render "" unit = .ok text ∧ Go.dialect.sheet unit = .ok s ∧
      s.types.map (·.fieldNames) = [["OnOff", "OnOff", ""]] ∧
      Protobuf.render "" unit = .ok text' ∧ Protobuf.dialect.sheet unit = .ok s' ∧
      s'.types.map (·.fieldNames) = [["on_off", "on_off", ""]] := by
  have hunit : (compile ⟨1, false⟩ (switchSpec ["on_off", "on-off", "_"])).2.toOption.any (fun u =>
      (∀ c ∈ u.classes, c.fieldNames.Nodup ∧ "" ∉ c.fieldNames) ∧
      (Go.render "" u).toOption.isSome ∧
      (Go.dialect.sheet u).toOption.map (fun s => s.types.map (·.fieldNames)) =
        some [["OnOff", "OnOff", ""]] ∧
      (Protobuf.render "" u).toOption.isSome ∧
      (Protobuf.dialect.sheet u).toOption.map (fun s => s.types.map (·.fieldNames)) =
        some [["on_off", "on_off", ""]]) = true := by
    decide +kernel
  obtain ⟨unit, hunit, hfacts⟩ := (Option.any_eq_true _ _).1 hunit
  obtain ⟨hdistinct, htext, hs, htext', hs'⟩ := of_decide_eq_true hfacts
  obtain ⟨text, htext⟩ := Option.isSome_iff_exists.1 htext
  obtain ⟨text', htext'⟩ := Option.isSome_iff_exists.1 htext'
  obtain ⟨s, hs, hnames⟩ := Option.map_eq_some_iff.1 hs
  obtain ⟨s', hs', hnames'⟩ := Option.map_eq_some_iff.1 hs'
  exact ⟨unit, text, text', s, s', Except.toOption_eq_some_iff.1 hunit, hdistinct,
    Except.toOption_eq_some_iff.1 htext, Except.toOption_eq_some_iff.1 hs, hnames,
    Except.toOption_eq_some_iff.1 htext', Except.toOption_eq_some_iff.1 hs', hnames'⟩

end Format

end PayloadGen
