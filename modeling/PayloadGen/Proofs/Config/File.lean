import PayloadGen.Config.Writer
import PayloadGen.Proofs.Config.Settings
import PayloadGen.Proofs.Payload.Name
import PayloadGen.Proofs.Yaml.Written

/-!
# The settings in the file of a configuration

The tree that a configuration is written as holds known names, each at most once, and only the
parameters of the documentation have keys of their own. So the settings that the file makes have the
standard keys and those of the parameters (`Config.mem_allKeys_settled`), and the standard keys lead
apart from all others (`Config.descend?_merged_settled`).
-/

namespace PayloadGen

open Text Yaml

/-! ## Lower case -/

namespace Settings

theorem eq_of_ofNat_eq_dot {n : Nat} (h : Char.ofNat n = '.') : n = 0x2E := by
  by_cases hn : n.isValidChar
  · have hofNat : Char.ofNat n = Char.ofNatAux n hn := dif_pos hn
    exact congrArg Char.toNat (hofNat.symm.trans h)
  · have hofNat : Char.ofNat n = '\x00' := dif_neg hn
    exact absurd (hofNat.symm.trans h) (by decide)

/-- The table of lower-case forms makes no dots. -/
theorem lower_eq_dot_iff {c : Char} : lower c = '.' ↔ c = '.' := by
  refine ⟨fun h => ?_, by rintro rfl; rw [Name.lower_of_ascii (by decide)]; rfl⟩
  have hruns : ∀ r ∈ lowerRuns, 0x2E < r.first + r.shift := by decide +kernel
  unfold lower CaseRun.apply at h
  split at h
  · rename_i r hr
    have hfirst : r.first ≤ c.toNat := by
      have hcontains := List.find?_some hr
      simp only [CaseRun.contains, Bool.and_eq_true, decide_eq_true_eq] at hcontains
      exact hcontains.1.1
    have habove := hruns r (List.mem_of_find?_eq_some hr)
    have hdot := eq_of_ofNat_eq_dot h
    omega
  · exact h

theorem mem_lowerText_iff {s : String} : '.' ∈ (lowerText s).toList ↔ '.' ∈ s.toList := by
  simp [lowerText, lower_eq_dot_iff]

/-- A text of small letters is in lower case. -/
theorem lowerText_of_isLower {s : String} (h : s.toList.all Char.isLower) : lowerText s = s := by
  have hlower : ∀ c ∈ s.toList, lower c = c := by
    intro c hc
    have hsmall : 0x61 ≤ c.toNat ∧ c.toNat ≤ 0x7A := by
      have hc : (decide (0x61 ≤ c.toNat) && decide (c.toNat ≤ 0x7A)) = true :=
        List.all_eq_true.1 h c hc
      rwa [Bool.and_eq_true, decide_eq_true_iff, decide_eq_true_iff] at hc
    have hnone : (CaseRun.mk 0x41 0x5A 1 32).contains c.toNat = false := by
      simp only [CaseRun.contains, Bool.and_eq_false_iff, decide_eq_false_iff_not]
      omega
    rw [Name.lower_of_ascii (by omega), CaseRun.apply,
      List.find?_cons_of_neg (by rw [hnone]; exact Bool.false_ne_true)]
    rfl
  rw [lowerText, List.map_congr_left hlower, List.map_id', String.ofList_toList]

theorem settle_eq (es : List (String × Value)) :
    settle es = Pairs.ofList (es.filter (fun e => lowerText e.1 == e.1) ++
      (es.filter (fun e => !(lowerText e.1 == e.1))).map fun e => (lowerText e.1, e.2)) := by
  rw [settle, List.partition_eq_filter_filter]
  rfl

theorem settle_of_lower {es : List (String × Value)} (h : ∀ e ∈ es, lowerText e.1 = e.1) :
    settle es = Pairs.ofList es := by
  have hlow : es.filter (fun e => lowerText e.1 == e.1) = es :=
    List.filter_eq_self.2 fun e he => beq_iff_eq.2 (h e he)
  have hother : es.filter (fun e => !(lowerText e.1 == e.1)) = [] :=
    List.filter_eq_nil_iff.2 fun e he => by simp [h e he]
  rw [settle_eq, hlow, hother, List.map_nil, List.append_nil]

theorem exists_mem_of_mem_settle {es : List (String × Value)} {e : String × Value}
    (h : e ∈ settle es) : ∃ x ∈ es, e = (lowerText x.1, x.2) := by
  rw [settle_eq] at h
  rcases List.mem_append.1 (Pairs.mem_of_mem_ofList h) with h | h
  · obtain ⟨he, hlow⟩ := List.mem_filter.1 h
    exact ⟨e, he, by rw [eq_of_beq hlow]⟩
  · obtain ⟨x, hx, rfl⟩ := List.mem_map.1 h
    exact ⟨x, (List.mem_filter.1 hx).1, rfl⟩

theorem mem_keys_settle {es : List (String × Value)} {e : String × Value} (h : e ∈ es) :
    lowerText e.1 ∈ (settle es).keys := by
  rw [settle_eq, Pairs.mem_keys_ofList, List.map_append, List.mem_append]
  by_cases hlow : lowerText e.1 = e.1
  · exact .inl (List.mem_map.2 ⟨e, List.mem_filter.2 ⟨h, beq_iff_eq.2 hlow⟩, hlow.symm⟩)
  · refine .inr (List.mem_map.2 ⟨(lowerText e.1, e.2),
      List.mem_map.2 ⟨e, List.mem_filter.2 ⟨h, ?_⟩, rfl⟩, rfl⟩)
    simp [hlow]

theorem loweredEntries_eq_map (es : List (String × Value)) :
    loweredEntries es = es.map fun e => (e.1, lowered e.2) := by
  induction es with
  | nil => rfl
  | cons e es ih => rw [loweredEntries, ih, List.map_cons]

end Settings

/-! ## Trees as settings -/

namespace Yaml

theorem blockValues_eq_map (bs : List (String × Block)) :
    blockValues bs = bs.map fun e => (e.1, e.2.value) := by
  induction bs with
  | nil => rfl
  | cons b bs ih => rw [blockValues, ih, List.map_cons]

/-- The settings that the entries of a tree make. -/
def settled (bs : List (String × Block)) : Settings :=
  Settings.settle (Settings.loweredEntries (Pairs.ofList (blockValues bs)))

variable {bs : List (String × Block)}

theorem exists_mem_of_mem_settled {e : String × Value} (h : e ∈ settled bs) :
    ∃ b ∈ bs, e = (Settings.lowerText b.1, Settings.lowered b.2.value) := by
  obtain ⟨x, hx, rfl⟩ := Settings.exists_mem_of_mem_settle h
  rw [Settings.loweredEntries_eq_map] at hx
  obtain ⟨y, hy, rfl⟩ := List.mem_map.1 hx
  have hvalue := Pairs.mem_of_mem_ofList hy
  rw [blockValues_eq_map] at hvalue
  obtain ⟨b, hb, rfl⟩ := List.mem_map.1 hvalue
  exact ⟨b, hb, rfl⟩

theorem exists_mem_of_mem_settled_of_lower (hlower : ∀ k ∈ bs.map (·.1), Settings.lowerText k = k)
    {e : String × Value} (h : e ∈ settled bs) :
    ∃ b ∈ bs, e = (b.1, Settings.lowered b.2.value) := by
  obtain ⟨b, hb, rfl⟩ := exists_mem_of_mem_settled h
  exact ⟨b, hb, by rw [hlower b.1 (List.mem_map.2 ⟨b, hb, rfl⟩)]⟩

theorem mem_keys_settled {k : String} (h : k ∈ bs.map (·.1)) :
    Settings.lowerText k ∈ (settled bs).keys := by
  have hkey : k ∈ (Pairs.ofList (blockValues bs)).keys := by
    rw [Pairs.mem_keys_ofList, blockValues_eq_map]
    simpa [Function.comp_def] using h
  obtain ⟨e, he, rfl⟩ := List.mem_map.1 hkey
  refine Settings.mem_keys_settle (e := (e.1, Settings.lowered e.2)) ?_
  rw [Settings.loweredEntries_eq_map]
  exact List.mem_map.2 ⟨e, he, rfl⟩

/-- Without dots in the tree the settings have none. -/
theorem not_mem_of_mem_keys_settled (h : ∀ name ∈ bs.map (·.1), '.' ∉ name.toList) {k : String}
    (hk : k ∈ (settled bs).keys) : '.' ∉ k.toList := by
  obtain ⟨e, he, rfl⟩ := List.mem_map.1 hk
  obtain ⟨b, hb, rfl⟩ := exists_mem_of_mem_settled he
  rw [Settings.mem_lowerText_iff]
  exact h b.1 (List.mem_map.2 ⟨b, hb, rfl⟩)

/-- Under names in lower case the settings have the values of the tree. -/
theorem find?_settled (hkeys : (bs.map (·.1)).Nodup)
    (hlower : ∀ k ∈ bs.map (·.1), Settings.lowerText k = k) (k : String) :
    (settled bs).find? k = (Pairs.find? k bs).map fun b => Settings.lowered b.value := by
  have hvalues : ((blockValues bs).map (·.1)).Nodup := by
    rw [blockValues_eq_map]
    simpa [Function.comp_def] using hkeys
  have hentries : ((Settings.loweredEntries (Pairs.ofList (blockValues bs))).map (·.1)).Nodup := by
    rw [Settings.loweredEntries_eq_map]
    simpa [Function.comp_def] using (Pairs.ascending_ofList (blockValues bs)).nodup_keys
  have hsettle :
      settled bs = Pairs.ofList (Settings.loweredEntries (Pairs.ofList (blockValues bs))) := by
    refine Settings.settle_of_lower fun e he => ?_
    rw [Settings.loweredEntries_eq_map] at he
    obtain ⟨x, hx, rfl⟩ := List.mem_map.1 he
    have hvalue := Pairs.mem_of_mem_ofList hx
    rw [blockValues_eq_map] at hvalue
    obtain ⟨b, hb, rfl⟩ := List.mem_map.1 hvalue
    exact hlower b.1 (List.mem_map.2 ⟨b, hb, rfl⟩)
  rw [hsettle, Pairs.find?_ofList_of_nodup hentries, Settings.loweredEntries_eq_map,
    Pairs.find?_map_value, Pairs.find?_ofList_of_nodup hvalues, blockValues_eq_map,
    Pairs.find?_map_value, Option.map_map]
  rfl

end Yaml

/-! ## The entries of a configuration -/

namespace Config

/-- The names that may stand in the file of a configuration. -/
def fileNames : List String :=
  ["version", "spec", "output", "format", "package", "templates", "workers", "docs"]

/-- The names that may stand in the part on the documentation. -/
def docsNames : List String :=
  ["command", "output", "template", "pyproject", "params"]

theorem map_optional_sublist (isEmpty : Bool) (name : String) (b : Block) :
    ((optional isEmpty name b).map (·.1)).Sublist [name] := by
  rw [optional]
  split <;> simp

theorem map_entries_sublist (c : Config) : (c.entries.map (·.1)).Sublist fileNames := by
  simp only [entries, List.map_append]
  have hneeded := List.Sublist.refl ["version", "spec", "output", "format"]
  exact (((hneeded.append (map_optional_sublist ..)).append (map_optional_sublist ..)).append
    (map_optional_sublist ..)).append (map_optional_sublist ..)

theorem map_docsEntries_sublist (d : DocsConfig) :
    ((docsEntries d).map (·.1)).Sublist docsNames := by
  simp only [docsEntries, List.map_append]
  exact ((((map_optional_sublist ..).append (map_optional_sublist ..)).append
    (map_optional_sublist ..)).append (map_optional_sublist ..)).append (map_optional_sublist ..)

theorem nodup_entries (c : Config) : (c.entries.map (·.1)).Nodup :=
  (map_entries_sublist c).nodup (by decide)

theorem nodup_docsEntries (d : DocsConfig) : ((docsEntries d).map (·.1)).Nodup :=
  (map_docsEntries_sublist d).nodup (by decide)

@[simp] theorem find?_optional (k : String) (isEmpty : Bool) (name : String) (b : Block) :
    Pairs.find? k (optional isEmpty name b) = if name = k ∧ isEmpty = false then some b
      else none := by
  rw [optional]
  cases isEmpty
  · by_cases hk : name = k <;> simp [hk, Pairs.find?]
  · simp [Pairs.find?]

theorem lowerText_of_mem {name : String} (h : name ∈ fileNames ++ docsNames) :
    Settings.lowerText name = name := by
  have hsmall : ∀ name ∈ fileNames ++ docsNames, name.toList.all Char.isLower := by decide
  exact Settings.lowerText_of_isLower (hsmall name h)

theorem lowerText_entries (c : Config) : ∀ k ∈ c.entries.map (·.1), Settings.lowerText k = k :=
  fun _ hk => lowerText_of_mem (List.mem_append_left _ ((map_entries_sublist c).subset hk))

theorem lowerText_docsEntries (d : DocsConfig) :
    ∀ k ∈ (docsEntries d).map (·.1), Settings.lowerText k = k :=
  fun _ hk => lowerText_of_mem (List.mem_append_right _ ((map_docsEntries_sublist d).subset hk))

theorem find?_settled_entries (c : Config) (k : String) :
    (settled c.entries).find? k = (Pairs.find? k c.entries).map fun b => Settings.lowered b.value :=
  find?_settled (nodup_entries c) (lowerText_entries c) k

theorem find?_settled_docs (d : DocsConfig) (k : String) :
    (settled (docsEntries d)).find? k = (Pairs.find? k (docsEntries d)).map fun b =>
      Settings.lowered b.value :=
  find?_settled (nodup_docsEntries d) (lowerText_docsEntries d) k

/-- The entries on the documentation, if there are any, stand under their name. -/
theorem find?_entries_docs (c : Config) :
    Pairs.find? "docs" c.entries =
      if docsEntries c.docs ≠ [] then some (.mapping (docsEntries c.docs)) else none := by
  simp only [entries, optionalText, optionalMapping, Pairs.find?_append, find?_optional]
  simp [Pairs.find?]

theorem find?_docsEntries_params (d : DocsConfig) :
    Pairs.find? "params" (docsEntries d) = if sortEntries d.params.entries ≠ [] then
      some (.mapping (textBlocks (sortEntries d.params.entries))) else none := by
  simp only [docsEntries, optionalText, optionalMapping, Pairs.find?_append, find?_optional]
  simp [textBlocks]

theorem inner_settled_entries (c : Config) :
    (settled c.entries).inner "docs" = settled (docsEntries c.docs) := by
  rw [Settings.inner, find?_settled_entries, find?_entries_docs]
  by_cases h : docsEntries c.docs = []
  · rw [if_neg (not_not.2 h), h]
    rfl
  · rw [if_pos h]
    rfl

/-- The settings that the parameters of the documentation make. -/
def paramSettings (d : DocsConfig) : Settings :=
  settled (textBlocks (sortEntries d.params.entries))

theorem inner_settled_docs (d : DocsConfig) :
    (settled (docsEntries d)).inner "params" = paramSettings d := by
  rw [Settings.inner, find?_settled_docs, find?_docsEntries_params, paramSettings]
  by_cases h : sortEntries d.params.entries = []
  · rw [if_neg (not_not.2 h), h]
    rfl
  · rw [if_pos h]
    rfl

theorem mem_optional {isEmpty : Bool} {name : String} {b : Block} {e : String × Block}
    (h : e ∈ optional isEmpty name b) : e = (name, b) := by
  rw [optional] at h
  split at h
  · cases h
  · exact List.mem_singleton.1 h

/-- Only the entries on the documentation have entries below them. -/
theorem mem_entries {c : Config} {e : String × Block} (h : e ∈ c.entries) :
    (e.1 ∈ fileNames.dropLast ∧ ∀ bs, e.2 ≠ .mapping bs) ∨
      e = ("docs", .mapping (docsEntries c.docs)) := by
  simp only [entries, List.mem_append] at h
  rcases h with (((h | h) | h) | h) | h
  · simp only [List.mem_cons, List.not_mem_nil, or_false] at h
    rcases h with rfl | rfl | rfl | rfl <;> simp [fileNames]
  · obtain rfl := mem_optional h
    simp [fileNames]
  · obtain rfl := mem_optional h
    simp [fileNames]
  · obtain rfl := mem_optional h
    simp [fileNames]
  · exact .inr (mem_optional h)

/-- Only the parameters have entries below them. -/
theorem mem_docsEntries {d : DocsConfig} {e : String × Block} (h : e ∈ docsEntries d) :
    (e.1 ∈ docsNames.dropLast ∧ ∀ bs, e.2 ≠ .mapping bs) ∨
      e = ("params", .mapping (textBlocks (sortEntries d.params.entries))) := by
  simp only [docsEntries, List.mem_append] at h
  rcases h with (((h | h) | h) | h) | h
  · obtain rfl := mem_optional h
    simp [docsNames]
  · obtain rfl := mem_optional h
    simp [docsNames]
  · obtain rfl := mem_optional h
    simp [docsNames]
  · obtain rfl := mem_optional h
    simp [docsNames]
  · exact .inr (mem_optional h)

/-! ## The keys of the settings -/

theorem exists_text_of_mem_paramSettings {d : DocsConfig} {e : String × Value}
    (h : e ∈ paramSettings d) : ∃ s, e.2 = .text s := by
  obtain ⟨b, hb, rfl⟩ := exists_mem_of_mem_settled h
  obtain ⟨p, -, rfl⟩ := List.mem_map.1 hb
  exact ⟨p.2, rfl⟩

theorem sortEntries_perm {α : Type} (es : List (String × α)) : (sortEntries es).Perm es :=
  List.mergeSort_perm es _

theorem map_textBlocks_perm (d : DocsConfig) :
    ((textBlocks (sortEntries d.params.entries)).map (·.1)).Perm d.params.entries.keys := by
  have hkeys : (textBlocks (sortEntries d.params.entries)).map (·.1) =
      (sortEntries d.params.entries).map (·.1) := by
    simp [textBlocks, Function.comp_def]
  rw [hkeys]
  exact (sortEntries_perm d.params.entries).map _

theorem mem_keys_paramSettings {d : DocsConfig} {k : String} (hk : k ∈ d.params.entries.keys) :
    Settings.lowerText k ∈ (paramSettings d).keys :=
  mem_keys_settled ((map_textBlocks_perm d).mem_iff.2 hk)

theorem not_mem_of_mem_paramSettings {d : DocsConfig}
    (h : ∀ k ∈ d.params.entries.keys, '.' ∉ k.toList) {x : String}
    (hx : x ∈ (paramSettings d).keys) : '.' ∉ x.toList :=
  not_mem_of_mem_keys_settled
    (fun name hname => h name ((map_textBlocks_perm d).mem_iff.1 hname)) hx

theorem leavesOf_lowered {b : Block} (h : ∀ bs, b ≠ .mapping bs) (key : String) :
    Settings.leavesOf key (Settings.lowered b.value) = [key] := by
  cases b with
  | mapping bs => exact absurd rfl (h bs)
  | _ => rfl

/-- The paths of the standard settings. -/
def standardPaths : List (List String) :=
  [["docs", "command"], ["docs", "output"], ["docs", "pyproject"], ["docs", "template"],
    ["format"], ["output"], ["package"], ["spec"], ["templates"], ["version"], ["workers"]]

theorem leavesUnder_standard :
    Settings.leavesUnder "" Settings.standard = standardPaths.map (".".intercalate ·) :=
  rfl

theorem mem_standardPaths {w : String} (h : w ∈ fileNames.dropLast) : [w] ∈ standardPaths := by
  have hnames : ∀ w ∈ fileNames.dropLast, [w] ∈ standardPaths := by decide
  exact hnames w h

theorem mem_standardPaths_docs {x : String} (h : x ∈ docsNames.dropLast) :
    ["docs", x] ∈ standardPaths := by
  have hnames : ∀ x ∈ docsNames.dropLast, ["docs", x] ∈ standardPaths := by decide
  exact hnames x h

theorem wordsOf_standard {ws : List String} (h : ws ∈ standardPaths) :
    Settings.wordsOf (".".intercalate ws) = ws := by
  have hwords : ∀ ws ∈ standardPaths, ws ≠ [] ∧ ∀ w ∈ ws, '.' ∉ w.toList := by decide
  exact Settings.wordsOf_intercalate (hwords ws h).1 (hwords ws h).2

theorem mem_leavesUnder_settled {c : Config} {key : String}
    (h : key ∈ Settings.leavesUnder "" (settled c.entries)) :
    (∃ ws ∈ standardPaths, key = ".".intercalate ws) ∨
      ∃ x ∈ (paramSettings c.docs).keys, key = "docs.params" ++ "." ++ x := by
  obtain ⟨e, he, hkey⟩ := Settings.mem_leavesUnder.1 h
  obtain ⟨b, hb, rfl⟩ := exists_mem_of_mem_settled_of_lower (lowerText_entries c) he
  rcases mem_entries hb with ⟨hname, hleaf⟩ | rfl
  · rw [leavesOf_lowered hleaf, List.mem_singleton] at hkey
    exact .inl ⟨[b.1], mem_standardPaths hname, by simpa using hkey⟩
  obtain ⟨e, he, hkey⟩ := Settings.mem_leavesUnder.1 hkey
  obtain ⟨b, hb, rfl⟩ := exists_mem_of_mem_settled_of_lower (lowerText_docsEntries c.docs) he
  rcases mem_docsEntries hb with ⟨hname, hleaf⟩ | rfl
  · rw [leavesOf_lowered hleaf, List.mem_singleton] at hkey
    exact .inl ⟨["docs", b.1], mem_standardPaths_docs hname,
      by simpa [String.intercalate_cons_cons] using hkey⟩
  obtain ⟨e, he, hkey⟩ := Settings.mem_leavesUnder.1 hkey
  obtain ⟨s, hs⟩ := exists_text_of_mem_paramSettings he
  rw [hs] at hkey
  exact .inr ⟨e.1, List.mem_map.2 ⟨e, he, rfl⟩, List.mem_singleton.1 hkey⟩

/-- The settings have the keys of the standard ones, and one for each parameter. -/
theorem mem_allKeys_settled {c : Config} {key : String} :
    key ∈ Settings.allKeys (settled c.entries) ↔
    (∃ ws ∈ standardPaths, key = ".".intercalate ws) ∨
      ∃ x ∈ (paramSettings c.docs).keys, key = "docs.params" ++ "." ++ x := by
  rw [Settings.mem_allKeys, leavesUnder_standard]
  constructor
  · rintro (h | ⟨h, -⟩)
    · exact mem_leavesUnder_settled h
    · obtain ⟨ws, hws, rfl⟩ := List.mem_map.1 h
      exact .inl ⟨ws, hws, rfl⟩
  · rintro (⟨ws, hws, rfl⟩ | ⟨x, hx, rfl⟩)
    · refine .inr ⟨List.mem_map.2 ⟨ws, hws, rfl⟩, fun f hf hleaf => ?_⟩
      have hfronts : ∀ ws ∈ standardPaths, ∀ f ∈ Settings.fronts ws, f = ["docs"] := by decide
      have hdocs : ["docs"] ∉ standardPaths := by decide
      rw [wordsOf_standard hws] at hf
      rw [hfronts ws hws f hf, String.intercalate_singleton] at hleaf
      rcases mem_leavesUnder_settled hleaf with ⟨qs, hqs, heq⟩ | ⟨x, -, hx⟩
      · have hwords := wordsOf_standard hqs
        rw [← heq, Settings.wordsOf_of_not_mem (by decide)] at hwords
        exact hdocs (hwords ▸ hqs)
      · have hdot : '.' ∈ "docs".toList := by
          rw [hx]
          simp
        exact absurd hdot (by decide)
    · have hparam : "docs.params" ++ "." ++ x ∈
          Settings.leavesUnder ("" ++ "docs" ++ "." ++ "params" ++ ".") (paramSettings c.docs) := by
        obtain ⟨e, he, rfl⟩ := List.mem_map.1 hx
        obtain ⟨s, hs⟩ := exists_text_of_mem_paramSettings he
        refine Settings.mem_leavesUnder.2 ⟨e, he, ?_⟩
        rw [hs]
        exact List.mem_singleton_self _
      rw [← inner_settled_docs] at hparam
      have hdocs := Settings.mem_leavesUnder_of_inner hparam
      rw [← inner_settled_entries] at hdocs
      exact .inl (Settings.mem_leavesUnder_of_inner hdocs)

/-! ## The values of the settings -/

theorem not_mem_of_mem_settled_entries (c : Config) :
    ∀ k ∈ (settled c.entries).keys, '.' ∉ k.toList := by
  have hnames : ∀ name ∈ fileNames, '.' ∉ name.toList := by decide
  exact fun k => not_mem_of_mem_keys_settled fun name h =>
    hnames name ((map_entries_sublist c).subset h)

theorem not_mem_of_mem_settled_docs (d : DocsConfig) :
    ∀ k ∈ (settled (docsEntries d)).keys, '.' ∉ k.toList := by
  have hnames : ∀ name ∈ docsNames, '.' ∉ name.toList := by decide
  exact fun k => not_mem_of_mem_keys_settled fun name h =>
    hnames name ((map_docsEntries_sublist d).subset h)

theorem isBlocked_settled (c : Config) (x : String) :
    Settings.isBlocked (settled c.entries) ["docs", x] = false := by
  have hfronts : Settings.fronts ["docs", x] = [["docs"]] := rfl
  rw [Settings.isBlocked, hfronts, List.any_cons, List.any_nil, Bool.or_false,
    Settings.descend?_cons_dict, find?_settled_entries, find?_entries_docs]
  by_cases h : docsEntries c.docs = []
  · rw [if_neg (not_not.2 h)]
    rfl
  · rw [if_pos h]
    rfl

variable {env : Environment}

/-- The value of a setting on the documentation. -/
theorem value?_settled_docs (henv : env.Silent) (c : Config) {x : String} (hx : '.' ∉ x.toList) :
    Settings.value? env (settled c.entries) ("docs" ++ "." ++ x) =
      (Settings.descend? [x] (.dict (settled (docsEntries c.docs)))).or
        (Settings.descend? [x] (.dict (Settings.standard.inner "docs"))) := by
  have hwords : Settings.wordsOf ("docs" ++ "." ++ x) = ["docs", x] := by
    rw [Settings.wordsOf_append_dot, Settings.wordsOf_of_not_mem hx,
      Settings.wordsOf_of_not_mem (by decide)]
    rfl
  have hlength : ["docs", x].length = 1 + 1 := rfl
  rw [Settings.value?_of_silent henv, hwords, isBlocked_settled, hlength,
    Settings.search?_cons_cons (not_mem_of_mem_settled_entries c), inner_settled_entries,
    Settings.search?_singleton]
  rfl

theorem wordsOf_params (x : String) :
    Settings.wordsOf ("docs.params" ++ "." ++ x) = ["docs", "params"] ++ Settings.wordsOf x := by
  have hfront : Settings.wordsOf (".".intercalate ["docs", "params"]) = ["docs", "params"] :=
    Settings.wordsOf_intercalate (List.cons_ne_nil _ _) (by decide)
  rw [Settings.wordsOf_append_dot]
  exact congrArg (· ++ Settings.wordsOf x) hfront

/-- A parameter has its text as its value, also if its key has dots. -/
theorem value?_settled_params (henv : env.Silent) (c : Config) {x : String} {v : Value}
    (hx : (paramSettings c.docs).find? x = some v) (hv : v ≠ .null) :
    Settings.value? env (settled c.entries) ("docs.params" ++ "." ++ x) = some v := by
  obtain ⟨w, r, hw⟩ := List.exists_cons_of_ne_nil (Settings.wordsOf_ne_nil x)
  have hwords : Settings.wordsOf ("docs.params" ++ "." ++ x) = "docs" :: "params" :: w :: r := by
    rw [wordsOf_params, hw]
    rfl
  rw [Settings.value?_of_silent henv, hwords, List.length_cons, List.length_cons, List.length_cons,
    Settings.search?_cons_cons (not_mem_of_mem_settled_entries c), inner_settled_entries,
    Settings.search?_cons_cons (not_mem_of_mem_settled_docs c.docs), inner_settled_docs, ← hw,
    Settings.search?_of_find? hx hv]
  rfl

theorem apart_params {ws : List String} (h : ws ∈ standardPaths) :
    Settings.Apart ws ["docs", "params"] := by
  have hapart : ∀ ws ∈ standardPaths, Settings.Apart ws ["docs", "params"] := by decide
  exact hapart ws h

/-- The standard paths lead apart from each other and from the parameters. -/
theorem apart_of_mem_allKeys {c : Config} {ws : List String} (hws : ws ∈ standardPaths) {k : String}
    (hk : k ∈ Settings.allKeys (settled c.entries)) (hne : k ≠ ".".intercalate ws) :
    Settings.Apart (Settings.wordsOf k) ws := by
  have hapart : ∀ ws ∈ standardPaths, ∀ qs ∈ standardPaths, qs ≠ ws →
      Settings.Apart qs ws := by decide
  rcases mem_allKeys_settled.1 hk with ⟨qs, hqs, rfl⟩ | ⟨x, -, rfl⟩
  · rw [wordsOf_standard hqs]
    exact hapart ws hws qs hqs fun heq => hne (heq ▸ rfl)
  · rw [wordsOf_params]
    exact ((apart_params hws).append _).symm

theorem descend?_merged_settled (env : Environment) (c : Config) {ws : List String}
    (hws : ws ∈ standardPaths) :
    Settings.descend? ws (.dict (Settings.merged env (settled c.entries))) =
      Settings.value? env (settled c.entries) (".".intercalate ws) := by
  have hmerged := @Settings.descend?_merged env (settled c.entries) (".".intercalate ws)
    (mem_allKeys_settled.2 (.inl ⟨ws, hws, rfl⟩))
  rw [wordsOf_standard hws] at hmerged
  exact hmerged fun k hk hne => apart_of_mem_allKeys hws hk hne

end Config

end PayloadGen
