import Mathlib.Data.Option.Basic
import PayloadGen.Proofs.Format.Sheet
import PayloadGen.Proofs.Text.Pieces
import PayloadGen.Proofs.Text.Utf8
import PayloadGen.Template.Node

/-!
# Enumerations in the tags of Go fields

The tag of a Go field holds rules for a validator: rules between commas, and one of them may list
the values that are allowed, between blanks (`Go.valueLists`). The values of an enumeration are
written into that list as they are, so a value with a blank becomes several and a value with a comma
ends the rule. Without these characters, and only then, the list that is read is the enumeration
(`Go.valueLists_rulesText_iff`). The rules themselves stand between quotes in the tag and are read
back from there unless they hold a quote, a backslash or a line break (`Go.tagValue?_tag`).
-/

namespace PayloadGen.Format.Go

open Text

/-! ## Rules and the values they list -/

/-- The values that a rule lists, if it is one that does. -/
def oneof? (rule : List Char) : Option (List String) :=
  ("oneof=".toList.isPrefixOf? rule).map fun values => (List.splitOn ' ' values).map String.ofList

/-- The lists of values in a text of rules. The rules stand between commas, and the values of a list
between blanks. -/
def valueLists (rules : String) : List (List String) :=
  (List.splitOn ',' rules.toList).filterMap oneof?

theorem valueLists_intercalate {rules : List String} (h : rules ≠ []) :
    valueLists (",".intercalate rules) = rules.flatMap valueLists := by
  have htoList : (",".intercalate rules).toList = [','].intercalate (rules.map String.toList) := by
    simp [String.toList_intercalate]
  rw [valueLists, htoList, splitOn_intercalate_eq_flatMap (by simpa using h), List.flatMap_map,
    List.filterMap_flatMap]
  rfl

/-- The first piece of a rule that lists values is the list; what follows a comma in it is read as
further rules. -/
theorem valueLists_oneof {values : String} {w : List Char} {ws : List (List Char)}
    (h : List.splitOn ',' values.toList = w :: ws) :
    valueLists ("oneof=" ++ values) =
      (List.splitOn ' ' w).map String.ofList :: ws.filterMap oneof? := by
  have hrule : oneof? ("oneof=".toList ++ w) = some ((List.splitOn ' ' w).map String.ofList) := by
    rw [oneof?, List.isPrefixOf?_eq_some_iff_append_eq.2 rfl]
    rfl
  rw [valueLists, String.toList_append, splitOn_append_of_not_mem (by decide) h,
    List.filterMap_cons_some hrule]

/-- The text has no separator of values or rules. -/
def IsListed (v : String) : Prop :=
  ' ' ∉ v.toList ∧ ',' ∉ v.toList

/-- A list of values is read back exactly if no value has a separator. -/
theorem valueLists_oneof_iff {values : List String} (h : values ≠ []) :
    valueLists ("oneof=" ++ " ".intercalate values) = [values] ↔ ∀ v ∈ values, IsListed v := by
  have htoList : (" ".intercalate values).toList =
      [' '].intercalate (values.map String.toList) := by
    simp [String.toList_intercalate]
  have hne : values.map String.toList ≠ [] := by simpa using h
  constructor
  · intro hlists
    obtain ⟨w, ws, hsplit⟩ :=
      List.exists_cons_of_ne_nil (List.splitOn_ne_nil ',' (" ".intercalate values).toList)
    rw [valueLists_oneof hsplit, List.cons.injEq] at hlists
    have hvalues : List.splitOn ' ' w = values.map String.toList := by
      simp [← hlists.1, List.map_map, Function.comp_def]
    -- the first piece is the whole list, so there is no comma in it
    have hw : w = (" ".intercalate values).toList := by
      rw [htoList, ← hvalues, List.intercalate_splitOn]
    have hcomma : ',' ∉ w := not_mem_of_mem_splitOn (hsplit ▸ List.mem_cons_self)
    intro v hv
    have hmem : v.toList ∈ List.splitOn ' ' w := hvalues ▸ List.mem_map_of_mem hv
    exact ⟨not_mem_of_mem_splitOn hmem, fun hc => hcomma (mem_of_mem_splitOn hmem hc)⟩
  · intro hlisted
    have hcomma : ',' ∉ (" ".intercalate values).toList := by
      intro hmem
      rw [htoList] at hmem
      obtain ⟨w, hw, hc⟩ : ∃ w ∈ List.splitOn ' ' _, ',' ∈ w :=
        exists_mem_splitOn_of_mem hmem (by decide)
      rw [splitOn_intercalate_eq_flatMap hne, List.mem_flatMap] at hw
      obtain ⟨_, hvalue, hw⟩ := hw
      obtain ⟨v, hv, rfl⟩ := List.mem_map.1 hvalue
      exact (hlisted v hv).2 (mem_of_mem_splitOn hw hc)
    have hblanks : ∀ w ∈ values.map String.toList, ' ' ∉ w :=
      List.forall_mem_map.2 fun v hv => (hlisted v hv).1
    rw [valueLists_oneof (List.splitOn_eq_singleton hcomma), htoList,
      List.splitOn_intercalate _ hblanks hne, List.map_map]
    simp [Function.comp_def]

/-! ## The rules of a field -/

/-- The rules of a field as its tag has them. -/
def rulesText (f : FieldRow) : String :=
  ",".intercalate (validation f)

theorem validation_eq {f : FieldRow} (h : f.literals ≠ []) :
    validation f =
      (if f.nullable then ["omitempty"] else []) ++ limits f ++
        ["oneof=" ++ " ".intercalate f.literals] := by
  have hempty : f.literals.isEmpty = false := by simpa using h
  cases hnullable : f.nullable <;> cases hconstraint : f.constraint <;>
    simp [validation, limits, hempty, hnullable, hconstraint]

theorem validation_ne_nil {f : FieldRow} (h : f.literals ≠ []) : validation f ≠ [] := by
  simp [validation_eq h]

/-- The rules of a field can be read: no value has a separator, and no bound is read as a list of
values. -/
def Readable (f : FieldRow) : Prop :=
  (∀ v ∈ f.literals, IsListed v) ∧ ∀ r ∈ limits f, valueLists r = []

theorem valueLists_rulesText {f : FieldRow} (h : f.literals ≠ []) :
    valueLists (rulesText f) =
      (limits f).flatMap valueLists ++ valueLists ("oneof=" ++ " ".intercalate f.literals) := by
  have homitempty : (if f.nullable then ["omitempty"] else []).flatMap valueLists = [] := by
    cases f.nullable
    · rfl
    · decide
  rw [rulesText, valueLists_intercalate (validation_ne_nil h), validation_eq h, List.flatMap_append,
    List.flatMap_append, homitempty, List.flatMap_singleton, List.nil_append]

/-- The rules of a field list its values, and no others, exactly if they can be read. -/
theorem valueLists_rulesText_iff {f : FieldRow} (h : f.literals ≠ []) :
    valueLists (rulesText f) = [f.literals] ↔ Readable f := by
  obtain ⟨w, ws, hsplit⟩ :=
    List.exists_cons_of_ne_nil (List.splitOn_ne_nil ',' (" ".intercalate f.literals).toList)
  have hne : valueLists ("oneof=" ++ " ".intercalate f.literals) ≠ [] := by
    rw [valueLists_oneof hsplit]
    exact List.cons_ne_nil _ _
  rw [valueLists_rulesText h, List.append_eq_singleton_iff, Readable, ← valueLists_oneof_iff h,
    ← List.flatMap_eq_nil_iff]
  constructor
  · rintro (⟨hlimits, hvalues⟩ | ⟨-, hvalues⟩)
    · exact ⟨hvalues, hlimits⟩
    · exact absurd hvalues hne
  · rintro ⟨hvalues, hlimits⟩
    exact .inl ⟨hlimits, hvalues⟩

/-! ## Tags -/

/-- Is the character part of a key of a tag? -/
def isKeyPart (c : Char) : Bool :=
  ' ' < c && c != ':' && c != '"' && c != '\x7f'

/-- What stands before and after the quote that ends a literal. A backslash takes the character
after it. -/
def closeQuote? : List Char → Option (List Char × List Char)
  | [] => none
  | [c] => if c = '"' then some ([], []) else none
  | c :: d :: r =>
    if c = '"' then some ([], d :: r)
    else if c = '\\' then (closeQuote? r).map fun p => (c :: d :: p.1, p.2)
    else (closeQuote? (d :: r)).map fun p => (c :: p.1, p.2)

/-- The value of a key in a tag, which is a sequence of keys, each followed by a colon and a string
literal. Blanks may stand before a key. Only the literal of the key itself is decoded. -/
def tagValueFrom? (key : List Char) : (fuel : Nat) → List Char → Option Bytes
  | 0, _ => none
  | fuel + 1, s =>
    let s := s.dropWhile (· == ' ')
    if s.takeWhile isKeyPart = [] then none
    else
      (([':', '"'].isPrefixOf? (s.dropWhile isKeyPart)).bind closeQuote?).bind fun p =>
        if s.takeWhile isKeyPart = key then Template.unquote? '"' (p.1.length + 1) p.1
        else tagValueFrom? key fuel p.2

/-- The value of a key in a tag. -/
def tagValue? (key tag : String) : Option Bytes :=
  tagValueFrom? key.toList tag.toList.length tag.toList

/-- The text stands for itself between the quotes of a literal, up to line breaks. -/
def IsVerbatim (s : List Char) : Prop :=
  '"' ∉ s ∧ '\\' ∉ s

theorem closeQuote?_append {s : List Char} (h : IsVerbatim s) (rest : List Char) :
    closeQuote? (s ++ '"' :: rest) = some (s, rest) := by
  induction s with
  | nil => cases rest <;> rfl
  | cons c s ih =>
    obtain ⟨⟨hquote, hs⟩, hbackslash, hs'⟩ : (c ≠ '"' ∧ '"' ∉ s) ∧ c ≠ '\\' ∧ '\\' ∉ s := by
      simpa [IsVerbatim, eq_comm] using h
    obtain ⟨d, r, hr⟩ : ∃ d r, s ++ '"' :: rest = d :: r := List.exists_cons_of_ne_nil (by simp)
    rw [List.cons_append, hr, closeQuote?, if_neg hquote, if_neg hbackslash, ← hr, ih ⟨hs, hs'⟩]
    rfl

theorem unquote?_of_isVerbatim {s : List Char} (h : IsVerbatim s) (hline : '\n' ∉ s) {fuel : Nat}
    (hfuel : s.length < fuel) : Template.unquote? '"' fuel s = some (utf8 (String.ofList s)) := by
  induction s generalizing fuel with
  | nil =>
    obtain ⟨fuel, rfl⟩ := Nat.exists_eq_add_one.2 hfuel
    simp [Template.unquote?, utf8_eq_flatMap]
  | cons c s ih =>
    obtain ⟨fuel, rfl⟩ := Nat.exists_eq_add_one.2 (Nat.zero_lt_of_lt hfuel)
    obtain ⟨⟨hquote, hs⟩, hbackslash, hs'⟩ : (c ≠ '"' ∧ '"' ∉ s) ∧ c ≠ '\\' ∧ '\\' ∉ s := by
      simpa [IsVerbatim, eq_comm] using h
    obtain ⟨hc, hline⟩ : c ≠ '\n' ∧ '\n' ∉ s := by simpa [eq_comm] using hline
    rw [Template.unquote?, if_neg (by simp [hquote, hc]),
      ih ⟨hs, hs'⟩ hline (Nat.lt_of_succ_lt_succ hfuel)]
    · simp [utf8_eq_flatMap]
    · rintro _ _ rfl
      exact absurd rfl hbackslash

theorem tagValueFrom?_blank (key : List Char) (fuel : Nat) (s : List Char) :
    tagValueFrom? key fuel (' ' :: s) = tagValueFrom? key fuel s := by
  cases fuel with
  | zero => rfl
  | succ fuel => simp [tagValueFrom?]

/-- The value of a key is that of the first literal, if it is the first key, and else that in what
follows. -/
theorem tagValueFrom?_append {name : List Char} (hname : name ≠ [])
    (hparts : name.all isKeyPart = true) {value : List Char} (hvalue : IsVerbatim value)
    (key : List Char) (fuel : Nat) (rest : List Char) :
    tagValueFrom? key (fuel + 1) (name ++ ':' :: '"' :: (value ++ '"' :: rest)) =
      if name = key then Template.unquote? '"' (value.length + 1) value
      else tagValueFrom? key fuel rest := by
  rw [List.all_eq_true] at hparts
  have hblank : (name ++ ':' :: '"' :: (value ++ '"' :: rest)).dropWhile (· == ' ') =
      name ++ ':' :: '"' :: (value ++ '"' :: rest) := by
    obtain ⟨c, cs, rfl⟩ := List.exists_cons_of_ne_nil hname
    have hc : c ≠ ' ' := by
      rintro rfl
      exact absurd (hparts ' ' List.mem_cons_self) (by decide)
    simp [hc]
  have htake : (name ++ ':' :: '"' :: (value ++ '"' :: rest)).takeWhile isKeyPart = name := by
    rw [List.takeWhile_append_of_pos hparts, List.takeWhile_cons_of_neg (by decide),
      List.append_nil]
  have hdrop : (name ++ ':' :: '"' :: (value ++ '"' :: rest)).dropWhile isKeyPart =
      [':', '"'] ++ (value ++ '"' :: rest) := by
    rw [List.dropWhile_append_of_pos hparts, List.dropWhile_cons_of_neg (by decide)]
    rfl
  have hstart : [':', '"'].isPrefixOf? ([':', '"'] ++ (value ++ '"' :: rest)) =
      some (value ++ '"' :: rest) :=
    List.isPrefixOf?_eq_some_iff_append_eq.2 rfl
  simp only [tagValueFrom?, hblank, htake, hdrop, hstart, closeQuote?_append hvalue,
    Option.bind_some, if_neg hname]

/-- A tag with rules: the name of the field, then the rules, then what there is of a default. -/
theorem exists_tag_eq {f : FieldRow} (h : validation f ≠ []) :
    ∃ rest, (tag f).toList = "json".toList ++ ':' :: '"' ::
      ((f.name ++ if f.nullable then ",omitempty" else "").toList ++ '"' :: ' ' ::
        ("validate".toList ++ ':' :: '"' :: ((rulesText f).toList ++ '"' :: rest))) := by
  have hempty : (validation f).isEmpty = false := by simpa using h
  cases hdefault : f.constraint.bind (·.default?) with
  | none => exact ⟨[], by simp [tag, hempty, hdefault, rulesText, String.toList_intercalate]⟩
  | some d =>
    exact ⟨' ' :: ("default:\"" ++ replace d "\"" "'" ++ "\"").toList,
      by simp [tag, hempty, hdefault, rulesText, String.toList_intercalate]⟩

/-- The rules are read back from a tag if they, and the name in front of them, stand for themselves
in a literal. -/
theorem tagValue?_tag {f : FieldRow} (h : validation f ≠ []) (hname : IsVerbatim f.name.toList)
    (hrules : IsVerbatim (rulesText f).toList) (hline : '\n' ∉ (rulesText f).toList) :
    tagValue? "validate" (tag f) = some (utf8 (rulesText f)) := by
  obtain ⟨rest, htag⟩ := exists_tag_eq h
  have hlabel : IsVerbatim (f.name ++ if f.nullable then ",omitempty" else "").toList := by
    cases f.nullable <;> simpa [IsVerbatim] using hname
  obtain ⟨fuel, hfuel⟩ : ∃ fuel, (tag f).toList.length = fuel + 2 := ⟨_, by rw [htag]; rfl⟩
  rw [tagValue?, hfuel, htag, tagValueFrom?_append (by decide) (by decide) hlabel,
    if_neg (by decide), tagValueFrom?_blank, tagValueFrom?_append (by decide) (by decide) hrules,
    if_pos rfl, unquote?_of_isVerbatim hrules hline (Nat.lt_succ_self _), String.ofList_toList]

/-! ## Enumerations of a compiled unit -/

/-- The row of a field with an enumeration before its tag is made. -/
def enumerationRow (f : Field) : FieldRow :=
  ⟨f.name, "string", f.type.optional, "", f.doc, none, f.type.literals⟩

/-- A well-formed field with an enumeration is a text without bounds. -/
theorem row_of_literals (className : String) {f : Field} (hwell : f.type.WellFormed)
    (h : f.type.literals ≠ []) :
    dialect.row className f = .ok (dialect.finish (enumerationRow f)) := by
  have hregular := hwell.regular _ .refl
  have hshape := hregular.literals.1 h
  have hconstraint : f.type.constraint = none := by
    rw [← Option.not_isSome_iff_eq_none]
    intro hsome
    have hannotatable := hregular.constraint hsome
    rw [hshape] at hannotatable
    cases hannotatable
  have hspell : dialect.spell className f.name f.type = .ok "string" := by
    obtain ⟨name, ⟨shape, literals, optional, constraint⟩, doc⟩ := f
    obtain rfl : shape = .literal := hshape
    rfl
  rw [Dialect.row_of_spell hspell, hconstraint, enumerationRow]

theorem readable_enumerationRow {f : Field} :
    Readable (enumerationRow f) ↔ ∀ v ∈ f.type.literals, IsListed v := by
  simp [Readable, enumerationRow, limits]

/-- **An enumeration is read back from the tag of a Go field exactly if its values have no
separators.** The rules of a field with an enumeration, whatever its bounds, list its values in
order and nothing else exactly if no value has a blank or a comma and no bound is read as a list.
Two such enumerations with the same rules are the same. The validator finds the rules in the tag, if
neither they nor the name have a quote or a backslash and the rules have no line break. In a
compiled unit, a field with an enumeration has no bounds. -/
theorem enumeration_read_back (options : CompileOptions) (spec : Spec) :
    (∀ f : FieldRow, f.literals ≠ [] →
      (valueLists (rulesText f) = [f.literals] ↔ Readable f) ∧
      (IsVerbatim f.name.toList → IsVerbatim (rulesText f).toList → '\n' ∉ (rulesText f).toList →
        tagValue? "validate" (tag f) = some (utf8 (rulesText f)))) ∧
    (∀ f g : FieldRow, f.literals ≠ [] → g.literals ≠ [] → Readable f → Readable g →
      rulesText f = rulesText g → f.literals = g.literals) ∧
    ∀ unit : CompiledUnit, (compile options spec).2 = .ok unit →
      ∀ c ∈ unit.classes, ∀ f ∈ c.fields, f.type.literals ≠ [] →
        ∃ row, dialect.row c.name f = .ok row ∧ row.tag = tag (enumerationRow f) ∧
          (valueLists (rulesText (enumerationRow f)) = [f.type.literals] ↔
            ∀ v ∈ f.type.literals, IsListed v) := by
  refine ⟨fun f hf => ⟨valueLists_rulesText_iff hf, tagValue?_tag (validation_ne_nil hf)⟩, ?_, ?_⟩
  · intro f g hf hg hreadable hreadable' hrules
    have hvalues := (valueLists_rulesText_iff hf).2 hreadable
    rw [hrules, (valueLists_rulesText_iff hg).2 hreadable'] at hvalues
    exact (List.singleton_inj.1 hvalues).symm
  · intro unit h c hc f hf hliterals
    refine ⟨_, row_of_literals c.name (wellFormed_of_compile h hc hf) hliterals, rfl, ?_⟩
    rw [← readable_enumerationRow]
    exact valueLists_rulesText_iff (f := enumerationRow f) hliterals

/-- A specification of one message, whose mode is one of the values. -/
def modeSpec (values : List String) : Spec where
  asyncapi := "2.6.0"
  info := ⟨"", "", ""⟩
  channels := []
  messages := [⟨"Lamp", "", "", .object "" [("mode", .string "" values)] [] true⟩]

/-- A row that may be missing, with every kind of bound, a default and an enumeration. -/
def boundedRow : FieldRow :=
  ⟨"mode", "string", true, "", "", some ⟨some "\"on\"", some "0", some "1.5", some 1, some 3⟩,
    ["on", "off", ""]⟩

theorem enumeration_read_back_modeSpec :
    (valueLists "omitempty,gte=0,lte=1.5,min=1,max=3,oneof=on off " = [boundedRow.literals] ∧
      tagValue? "validate" (tag boundedRow) =
        some (utf8 "omitempty,gte=0,lte=1.5,min=1,max=3,oneof=on off ")) ∧
    (∀ g : FieldRow, g.literals ≠ [] → Readable g →
      rulesText g = "omitempty,gte=0,lte=1.5,min=1,max=3,oneof=on off " →
      g.literals = ["on", "off", ""]) ∧
    ∃ unit, (compile ⟨1, false⟩ (modeSpec ["on", "off"])).2 = .ok unit ∧
      ∃ c ∈ unit.classes, ∃ f ∈ c.fields, ∃ row, dialect.row c.name f = .ok row ∧
        row.tag = "json:\"mode,omitempty\" validate:\"omitempty,oneof=on off\"" ∧
        valueLists "omitempty,oneof=on off" = [["on", "off"]] := by
  obtain ⟨hrow, hinj, hunit⟩ := enumeration_read_back ⟨1, false⟩ (modeSpec ["on", "off"])
  have hliterals : boundedRow.literals ≠ [] := by decide
  have hrules : rulesText boundedRow = "omitempty,gte=0,lte=1.5,min=1,max=3,oneof=on off " := rfl
  have hreadable : Readable boundedRow := by
    refine ⟨?_, List.flatMap_eq_nil_iff.1 rfl⟩
    unfold IsListed
    decide
  refine ⟨⟨?_, ?_⟩, fun g hg hreadable' hrules' => ?_, ?_⟩
  · rw [← hrules]
    exact (hrow boundedRow hliterals).1.2 hreadable
  · rw [← hrules]
    refine (hrow boundedRow hliterals).2 ⟨by decide, by decide⟩ ?_ ?_
    · rw [hrules]
      exact ⟨by decide, by decide⟩
    · rw [hrules]
      decide
  · exact hinj g boundedRow hg hliterals hreadable' hreadable (hrules'.trans hrules.symm)
  · obtain ⟨unit, hok, c, hc, f, hf, hfield⟩ :
        ∃ unit, (compile ⟨1, false⟩ (modeSpec ["on", "off"])).2 = .ok unit ∧
        ∃ c ∈ unit.classes, ∃ f ∈ c.fields,
          enumerationRow f = ⟨"mode", "string", true, "", "", none, ["on", "off"]⟩ :=
      ⟨_, rfl, _, List.mem_cons_self, _, List.mem_cons_self, rfl⟩
    have hvalues : f.type.literals = ["on", "off"] := congrArg FieldRow.literals hfield
    obtain ⟨row, hrow, htag, hlists⟩ := hunit unit hok c hc f hf (by simp [hvalues])
    rw [hfield, hvalues] at hlists
    rw [hfield] at htag
    refine ⟨unit, hok, c, hc, f, hf, row, hrow, htag.trans rfl, hlists.2 ?_⟩
    unfold IsListed
    decide

/-- The tags of the fields that a Go file shows, in order. -/
def tags? (u : CompiledUnit) : Option (List String) :=
  (dialect.sheet u).toOption.map fun s => s.types.flatMap fun t => t.fields.map (·.tag)

/-- One value with a blank and two values have the same tag, and the rest of a value after a comma
is lost. -/
theorem enumeration_confused :
    (compile ⟨1, false⟩ (modeSpec ["lights on"])).2.toOption.bind tags? =
        some ["json:\"mode,omitempty\" validate:\"omitempty,oneof=lights on\""] ∧
      (compile ⟨1, false⟩ (modeSpec ["lights", "on"])).2.toOption.bind tags? =
        some ["json:\"mode,omitempty\" validate:\"omitempty,oneof=lights on\""] ∧
      valueLists "omitempty,oneof=lights on" = [["lights", "on"]] ∧
      (compile ⟨1, false⟩ (modeSpec ["on,off"])).2.toOption.bind tags? =
        some ["json:\"mode,omitempty\" validate:\"omitempty,oneof=on,off\""] ∧
      valueLists "omitempty,oneof=on,off" = [["on"]] :=
  ⟨rfl, rfl, rfl, rfl, rfl⟩

end PayloadGen.Format.Go
