import Mathlib.Data.List.Nodup
import Mathlib.Data.List.TakeWhile
import PayloadGen.Proofs.Format.GoFile
import PayloadGen.Proofs.Payload.Consistency
import PayloadGen.Proofs.Payload.Name

/-!
# The names that a Go file declares

A Go file declares a struct for every class and a handler type for every callback. The compiler
keeps the names of classes apart, but Go names are without separators and with capitals of their
own, so that distinct classes may become one Go type, and a class may become the handler type of
another. A Go name that is an identifier has the letters of the class up to case
(`Go.map_lower_exported`), so the declared names are distinct if the folded ones are
(`Go.nodup_declared`).
-/

namespace PayloadGen.Format

open Text Name

/-- The names that a file declares: those of its types, then those of its callbacks. -/
def Sheet.declared (s : Sheet) : List String :=
  s.types.map (·.name) ++ s.callbacks.map (·.name)

theorem Dialect.declared_of_sheet {d : Dialect} {u : CompiledUnit} {s : Sheet}
    (h : d.sheet u = .ok s) :
    s.declared = (u.classes.map (·.name)).map d.typeName ++
      (u.callbacks.map (·.payload)).map d.callbackName := by
  have hnames : s.types.map (·.name) = u.classes.map (d.typeName ·.name) :=
    map_eq_of_forall₂ ((types_of_sheet h).imp fun c t ht => ht.1)
  obtain ⟨types, -, hs⟩ := Except.bind_eq_ok_iff.1 h
  obtain rfl := Except.ok.inj hs
  rw [Sheet.declared, hnames, List.map_map, List.map_map, List.map_map]
  rfl

namespace Go

/-! ## Identifiers -/

theorem mem_dropWhile {p : Char → Bool} {c : Char} (hp : p c = false) {s : List Char} (h : c ∈ s) :
    c ∈ s.dropWhile p := by
  rw [← List.takeWhile_append_dropWhile (p := p) (l := s), List.mem_append] at h
  obtain h | h := h
  · simp [List.mem_takeWhile_imp h] at hp
  · exact h

theorem isNamePart_replacement : isNamePart replacement = false := by
  decide +kernel

/-- A text with a replacement character has no tokens. -/
theorem tokens?_eq_none {s : List Char} (h : replacement ∈ s) (fuel : Nat) :
    tokens? fuel s = none := by
  induction fuel generalizing s with
  | zero => rfl
  | succ fuel ih =>
    obtain _ | ⟨c, r⟩ := s
    · cases h
    obtain rfl | hr := List.mem_cons.1 h
    · have hstart : isNameStart replacement = false :=
        (Bool.or_eq_false_iff.1 isNamePart_replacement).1
      rw [tokens?, if_neg (by decide), if_neg (by decide), if_neg (by decide), hstart]
      rfl
    · have hname := ih (mem_dropWhile isNamePart_replacement hr)
      have hdigits := ih (mem_dropWhile (p := isAsciiDigit) (by decide) hr)
      simp [tokens?, ih hr, hname, hdigits]

theorem identifier?_eq_none {text : String} (h : replacement ∈ text.toList) :
    identifier? text = none := by
  rw [identifier?, leadingTokens?, tokens?_eq_none (mem_dropWhile (by decide) h)]

/-- The names of a file that is written have no replacement character. -/
theorem replacement_not_mem_of_file? {package text : String} {s : Sheet}
    (h : file? package s = some text) : ∀ n ∈ s.declared, replacement ∉ n.toList := by
  intro n hn hmem
  have hnone := identifier?_eq_none hmem
  obtain hn | hn := List.mem_append.1 hn
  · obtain ⟨t, ht, rfl⟩ := List.mem_map.1 hn
    obtain ⟨_, hstruct⟩ := exists_struct?_of_file? h t ht
    rw [struct?, hnone] at hstruct
    cases hstruct
  · obtain ⟨c, hc, rfl⟩ := List.mem_map.1 hn
    obtain ⟨_, hhandler⟩ := exists_handler?_of_file? h c hc
    rw [handler?, hnone] at hhandler
    cases hhandler

/-! ## Letters -/

theorem map_lower_upper_of_mem_acronyms :
    ∀ a ∈ acronyms, (a.toList.map upper).map lower = a.toList := by
  decide +kernel

theorem exists_exportedWord_of_acronym {w : List Char}
    (h : acronyms.contains (String.ofList (w.map lower)) = true) :
    ∃ v, exportedWord w = utf8 v ∧ v.toList.map lower = w.map lower := by
  have hletters := map_lower_upper_of_mem_acronyms _ (List.contains_iff_mem.1 h)
  rw [String.toList_ofList, List.map_map (l := w)] at hletters
  refine ⟨_, if_pos h, ?_⟩
  rw [String.toList_ofList]
  exact hletters

theorem keepsLetters_exportedWord : KeepsLetters exportedWord := by
  intro w
  by_cases h : acronyms.contains (String.ofList (w.map lower)) = true
  · exact .inl (exists_exportedWord_of_acronym h)
  · rw [exportedWord, if_neg h]
    exact keepsLetters_capitalized w

/-- A Go name without replacement characters has the letters of the name. -/
theorem map_lower_exported {s : String} (h : replacement ∉ (exported s).toList) :
    (exported s).toList.map lower = folded isSeparator s := by
  obtain ⟨t, ht, hlower⟩ := exists_spelled keepsLetters_exportedWord h
  have hexported : exported s = t := (congrArg lossy ht).trans (lossy_utf8 t)
  rw [hexported]
  exact hlower

theorem map_lower_map_exported {names : List String}
    (h : ∀ n ∈ names.map exported, replacement ∉ n.toList) :
    (names.map exported).map (fun n => n.toList.map lower) = names.map (folded isSeparator) := by
  rw [List.map_map]
  exact List.map_congr_left fun n hn => map_lower_exported (h _ (List.mem_map_of_mem hn))

theorem map_lower_callbackName {s : String} (h : replacement ∉ (dialect.callbackName s).toList) :
    (dialect.callbackName s).toList.map lower = folded isSeparator s ++ "handler".toList := by
  have hname : dialect.callbackName s = exported s ++ "Handler" := rfl
  rw [hname, String.toList_append] at h ⊢
  have hhandler : "Handler".toList.map lower = "handler".toList := by decide
  rw [List.map_append, map_lower_exported fun hmem => h (List.mem_append_left _ hmem), hhandler]

/-- The names are distinct if they are so up to separators and case. -/
theorem nodup_declared {classes payloads : List String}
    (hnames : ∀ n ∈ classes.map dialect.typeName ++ payloads.map dialect.callbackName,
      replacement ∉ n.toList)
    (hnodup : (classes.map (folded isSeparator) ++
      payloads.map fun p => folded isSeparator p ++ "handler".toList).Nodup) :
    (classes.map dialect.typeName ++ payloads.map dialect.callbackName).Nodup := by
  refine List.Nodup.of_map (fun n => n.toList.map lower) ?_
  rw [List.forall_mem_append] at hnames
  have hclasses : (classes.map dialect.typeName).map (fun n => n.toList.map lower) =
      classes.map (folded isSeparator) := map_lower_map_exported hnames.1
  have hpayloads : (payloads.map dialect.callbackName).map (fun n => n.toList.map lower) =
      payloads.map fun p => folded isSeparator p ++ "handler".toList := by
    rw [List.map_map]
    exact List.map_congr_left fun p hp =>
      map_lower_callbackName (hnames.2 _ (List.mem_map_of_mem hp))
  rwa [List.map_append, hclasses, hpayloads]

/-- The callbacks of a unit take distinct classes, so it is enough to compare the classes with each
other and with the callbacks. -/
theorem nodup_folded {options : CompileOptions} {spec : Spec} {unit : CompiledUnit}
    (h : (compile options spec).2 = .ok unit)
    (hclasses : ((unit.classes.map (·.name)).map (folded isSeparator)).Nodup)
    (hhandlers : ∀ c ∈ unit.classes, ∀ b ∈ unit.callbacks,
      folded isSeparator c.name ≠ folded isSeparator b.payload ++ "handler".toList) :
    ((unit.classes.map (·.name)).map (folded isSeparator) ++
      (unit.callbacks.map (·.payload)).map fun p =>
        folded isSeparator p ++ "handler".toList).Nodup := by
  refine List.nodup_append.2 ⟨hclasses, ?_, ?_⟩
  · refine (nodup_payloads_of_compile h).map_on fun p hp q hq hpq => ?_
    exact List.inj_on_of_nodup_map hclasses (payload_mem_names_of_compile h hp)
      (payload_mem_names_of_compile h hq)
      (List.append_cancel_right hpq)
  · simp only [List.map_map, List.mem_map, Function.comp_apply]
    rintro _ ⟨c, hc, rfl⟩ _ ⟨b, hb, rfl⟩
    exact hhandlers c hc b hb

end Go

/-- **Go names are distinct if the classes have distinct letters.** If no two classes of a compiled
unit have the same name up to separators and case, and none is that of a payload followed by
`handler`, then the names that its Go file declares, one for every class and one for every callback,
are distinct, unless bytes that make no character are replaced in one of them. A file with such a
name is not written. -/
theorem go_declared_nodup {options : CompileOptions} {spec : Spec} {unit : CompiledUnit}
    (h : (compile options spec).2 = .ok unit)
    (hclasses : (unit.classes.map fun c => folded Go.isSeparator c.name).Nodup)
    (hhandlers : ∀ c ∈ unit.classes, ∀ b ∈ unit.callbacks,
      folded Go.isSeparator c.name ≠ folded Go.isSeparator b.payload ++ "handler".toList) :
    ∃ sheet, Go.dialect.sheet unit = .ok sheet ∧
      sheet.declared = unit.classes.map (Go.exported ·.name) ++
        unit.callbacks.map (fun b => Go.exported b.payload ++ "Handler") ∧
      ((∀ n ∈ sheet.declared, replacement ∉ n.toList) → sheet.declared.Nodup) ∧
      ∀ package text, Go.render package unit = .ok text → sheet.declared.Nodup := by
  obtain ⟨sheet, hsheet, -⟩ := Dialect.exists_sheet Format.gotypes.spellsTuples
    fun c hc f hf => wellFormed_of_compile h hc hf
  have hdeclared := Dialect.declared_of_sheet hsheet
  have hnodup : (∀ n ∈ sheet.declared, replacement ∉ n.toList) → sheet.declared.Nodup := by
    rw [hdeclared]
    intro hnames
    exact Go.nodup_declared hnames (Go.nodup_folded h (by rwa [List.map_map]) hhandlers)
  refine ⟨sheet, hsheet, ?_, hnodup, fun package text htext => hnodup ?_⟩
  · rw [hdeclared, List.map_map, List.map_map]
    rfl
  · obtain ⟨sheet', hsheet', hfile⟩ := Go.exists_file?_of_render htext
    obtain rfl := Except.ok.inj (hsheet.symm.trans hsheet')
    exact Go.replacement_not_mem_of_file? hfile

/-- A specification whose messages have the given names and no properties; channels carry the bound
ones. -/
def emptyMessages (bound names : List String) : Spec where
  asyncapi := "2.6.0"
  info := ⟨"", "", ""⟩
  channels := bound.map fun n => ⟨n, "", some ⟨"", "#/components/messages/" ++ n⟩, none⟩
  messages := names.map fun n => ⟨n, "", "", .object "" [] [] true⟩

theorem go_declared_nodup_emptyMessages :
    ∃ unit sheet,
      (compile ⟨1, false⟩ (emptyMessages ["sensor_id"] ["sensor_id", "sensor", "data-handler"])).2 =
        .ok unit ∧
      Go.dialect.sheet unit = .ok sheet ∧
      sheet.declared = ["SensorID", "Sensor", "DataHandler", "SensorIDHandler"] ∧
      sheet.declared.Nodup := by
  have hunit : (compile ⟨1, false⟩ (emptyMessages ["sensor_id"]
      ["sensor_id", "sensor", "data-handler"])).2.toOption.any (fun u =>
      (u.classes.map fun c => folded Go.isSeparator c.name).Nodup ∧
      (∀ c ∈ u.classes, ∀ b ∈ u.callbacks,
        folded Go.isSeparator c.name ≠ folded Go.isSeparator b.payload ++ "handler".toList) ∧
      u.classes.map (Go.exported ·.name) ++
      u.callbacks.map (fun b => Go.exported b.payload ++ "Handler") =
        ["SensorID", "Sensor", "DataHandler", "SensorIDHandler"]) = true := by decide +kernel
  obtain ⟨unit, hunit, hfacts⟩ := (Option.any_eq_true _ _).1 hunit
  obtain ⟨hclasses, hhandlers, hnames⟩ := of_decide_eq_true hfacts
  have hok := Except.toOption_eq_some_iff.1 hunit
  obtain ⟨sheet, hsheet, hdeclared, hnodup, -⟩ := go_declared_nodup hok hclasses hhandlers
  refine ⟨unit, sheet, hok, hsheet, hdeclared.trans hnames, hnodup ?_⟩
  rw [hdeclared, hnames]
  decide

/-- Distinct classes that become one Go type in a file that is written, and a class that becomes the
handler type of another. -/
theorem go_declared_not_nodup :
    (∃ unit sheet text,
      (compile ⟨1, false⟩ (emptyMessages [] ["sensor_data", "SensorData"])).2 = .ok unit ∧
      Go.dialect.sheet unit = .ok sheet ∧ Go.render "" unit = .ok text ∧
      sheet.declared = ["SensorData", "SensorData"] ∧ ¬sheet.declared.Nodup) ∧
    ∃ unit sheet,
      (compile ⟨1, false⟩ (emptyMessages ["Lamp"] ["Lamp", "LampHandler"])).2 = .ok unit ∧
      Go.dialect.sheet unit = .ok sheet ∧
      sheet.declared = ["Lamp", "LampHandler", "LampHandler"] ∧ ¬sheet.declared.Nodup := by
  constructor
  · have hunit : ((compile ⟨1, false⟩
        (emptyMessages [] ["sensor_data", "SensorData"])).2.toOption.bind fun u =>
        (Go.dialect.sheet u).toOption.map fun s => ((Go.render "" u).toOption.isSome, s.declared)) =
        some (true, ["SensorData", "SensorData"]) := by decide +kernel
    obtain ⟨unit, hunit, hsheet⟩ := Option.bind_eq_some_iff.1 hunit
    obtain ⟨sheet, hsheet, hfacts⟩ := Option.map_eq_some_iff.1 hsheet
    obtain ⟨htext, hdeclared⟩ := Prod.mk.inj hfacts
    obtain ⟨text, htext⟩ := Option.isSome_iff_exists.1 htext
    exact ⟨unit, sheet, text, Except.toOption_eq_some_iff.1 hunit,
      Except.toOption_eq_some_iff.1 hsheet, Except.toOption_eq_some_iff.1 htext, hdeclared,
      by rw [hdeclared]; decide⟩
  · have hunit : ((compile ⟨1, false⟩
        (emptyMessages ["Lamp"] ["Lamp", "LampHandler"])).2.toOption.bind fun u =>
        (Go.dialect.sheet u).toOption.map (·.declared)) =
          some ["Lamp", "LampHandler", "LampHandler"] := by
      decide +kernel
    obtain ⟨unit, hunit, hsheet⟩ := Option.bind_eq_some_iff.1 hunit
    obtain ⟨sheet, hsheet, hdeclared⟩ := Option.map_eq_some_iff.1 hsheet
    exact ⟨unit, sheet, Except.toOption_eq_some_iff.1 hunit,
      Except.toOption_eq_some_iff.1 hsheet, hdeclared, by rw [hdeclared]; decide⟩

end PayloadGen.Format
