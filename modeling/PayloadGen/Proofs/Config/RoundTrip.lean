import PayloadGen.Config.Reader
import PayloadGen.Proofs.Config.File
import PayloadGen.Proofs.Except
import PayloadGen.Proofs.Files.Disk
import PayloadGen.Proofs.Text.Utf8

/-!
# Configurations that are written and read back

The file of a configuration leaves out what is empty, and what the file leaves out is standard when
it is read. So a configuration comes back `completed`: with the standard texts where those on the
documentation are empty (`Config.ofText_render`). A key of a parameter that has a dot is taken for
several words, and then the file cannot be read at all (`Config.paramsMisfits_ne_nil`). Those are
the only obstacles (`Config.read_write_iff`).
-/

namespace PayloadGen

open Text Yaml

namespace Config

/-- The configuration with the standard texts where those on the documentation are empty. -/
def completed (c : Config) : Config :=
  let orStandard (s : String) (standard : String) : String := if s = "" then standard else s
  { c with docs := { c.docs with
      command := orStandard c.docs.command standard.docs.command
      output := orStandard c.docs.output standard.docs.output
      template := orStandard c.docs.template standard.docs.template
      pyproject := orStandard c.docs.pyproject standard.docs.pyproject } }

/-! ## Settings that fit -/

theorem textAt_of_find? {d : Settings} {name s : String} (h : d.find? name = some (.text s))
    (front : String) : textAt front d name = ([], s) := by
  rw [textAt, h]
  rfl

theorem intAt_of_find? {d : Settings} {name : String} {n : Int} (h : d.find? name = some (.int n))
    (hn : fits64 n) : intAt d name = ([], n) := by
  have hbmod : Int.bmod n 0x10000000000000000 = n := by
    simp only [fits64, Bool.and_eq_true, decide_eq_true_eq] at hn
    exact Int.bmod_eq_of_le (by omega) (by omega)
  rw [intAt, h, Option.getD_some, toInt, hbmod]
  rfl

theorem entryMisfits_eq_nil {field : String} {es : List (String × Value)}
    (h : ∀ e ∈ es, ∃ s, e.2 = .text s) : entryMisfits field es = [] := by
  induction es with
  | nil => rfl
  | cons e es ih =>
    obtain ⟨⟨s, hs⟩, hes⟩ := List.forall_mem_cons.1 h
    obtain ⟨k, v⟩ := e
    obtain rfl : v = .text s := hs
    rw [entryMisfits, ih hes]
    rfl

theorem entryMisfits_ne_nil {field k : String} {es q : List (String × Value)}
    (h : (k, .dict q) ∈ es) : entryMisfits field es ≠ [] := by
  induction es with
  | nil => cases h
  | cons e es ih =>
    rw [entryMisfits]
    rcases List.mem_cons.1 h with rfl | h
    · simp [toText]
    · simp [ih h]

/-! ## The settings of a written configuration -/

variable {env : Environment} {c : Config}

/-- What is read under a name: what the file has or, if it has nothing, what is standard. -/
theorem find?_merged (henv : env.Silent) {w : String} (hw : w ∈ fileNames.dropLast) {v : Value}
    (hv : v ≠ .null) (h : ((settled c.entries).find? w).or (Settings.standard.find? w) = some v) :
    (Settings.merged env (settled c.entries)).find? w = some v := by
  have hdots : ∀ w ∈ fileNames.dropLast, '.' ∉ w.toList := by decide
  have hvalue := descend?_merged_settled env c (mem_standardPaths hw)
  rw [String.intercalate_singleton, Settings.value?_word henv _ (hdots w hw),
    Settings.descend?_or h hv] at hvalue
  exact Settings.find?_of_descend? hvalue

/-- What is read under a name on the documentation. -/
theorem find?_merged_docs (henv : env.Silent) {e : Settings}
    (he : (Settings.merged env (settled c.entries)).find? "docs" = some (.dict e)) {x : String}
    (hx : x ∈ docsNames.dropLast) {v : Value} (hv : v ≠ .null)
    (h : ((settled (docsEntries c.docs)).find? x).or ((Settings.standard.inner "docs").find? x) =
      some v) :
    e.find? x = some v := by
  have hdots : ∀ x ∈ docsNames.dropLast, '.' ∉ x.toList := by decide
  have hvalue := descend?_merged_settled env c (mem_standardPaths_docs hx)
  rw [String.intercalate_cons_cons, String.intercalate_singleton,
    value?_settled_docs henv c (hdots x hx), Settings.descend?_or h hv, Settings.descend?_cons_dict,
    he, Option.bind_some] at hvalue
  exact Settings.find?_of_descend? hvalue

/-- There are settings on the documentation. -/
theorem exists_find?_merged_docs (henv : env.Silent) (c : Config) :
    ∃ e, (Settings.merged env (settled c.entries)).find? "docs" = some (.dict e) := by
  have hpath : ["docs", "command"] ∈ standardPaths := by decide
  have hvalue : ∃ v, Settings.value? env (settled c.entries) (".".intercalate ["docs", "command"]) =
      some v := by
    rw [String.intercalate_cons_cons, String.intercalate_singleton,
      value?_settled_docs henv c (by decide)]
    cases Settings.descend? ["command"] (.dict (settled (docsEntries c.docs))) with
    | none => exact ⟨_, rfl⟩
    | some v => exact ⟨v, rfl⟩
  obtain ⟨v, hv⟩ := hvalue
  have hwords : Settings.wordsOf (".".intercalate ["docs", "command"]) = ["docs"] ++ ["command"] :=
    wordsOf_standard hpath
  obtain ⟨e, he⟩ :=
    Settings.exists_dict_merged (mem_allKeys_settled.2 (.inl ⟨_, hpath, rfl⟩)) hv hwords
      (List.cons_ne_nil _ _)
  exact ⟨e, Settings.find?_of_descend? he⟩

/-! ## Parameters -/

/-- If there is something under a path, it is a dictionary of texts. -/
def TextsAt (path : List String) (d : Settings) : Prop :=
  ∀ v, Settings.descend? path (.dict d) = some v → ∃ p, v = .dict p ∧ ∀ e ∈ p, ∃ s, e.2 = .text s

theorem exists_value?_params (henv : env.Silent) {x : String}
    (hx : x ∈ (paramSettings c.docs).keys) :
    ∃ s, Settings.value? env (settled c.entries) ("docs.params" ++ "." ++ x) = some (.text s) := by
  obtain ⟨v, hfind, hmem⟩ := Pairs.exists_find?_of_mem_keys hx
  obtain ⟨s, rfl⟩ := exists_text_of_mem_paramSettings hmem
  exact ⟨s, value?_settled_params henv c hfind (by simp)⟩

/-- A setting that is put in keeps the parameters texts, if no key of a parameter has a dot. -/
theorem textsAt_putValue (henv : env.Silent)
    (hdots : ∀ k ∈ c.docs.params.entries.keys, '.' ∉ k.toList) {key : String}
    (hkey : key ∈ Settings.allKeys (settled c.entries)) {d : Settings}
    (hd : TextsAt ["docs", "params"] d) :
    TextsAt ["docs", "params"] (Settings.putValue env (settled c.entries) d key) := by
  rcases mem_allKeys_settled.1 hkey with ⟨ws, hws, rfl⟩ | ⟨x, hx, rfl⟩
  · rw [Settings.putValue, wordsOf_standard hws]
    split
    · rename_i v _
      rwa [TextsAt, Settings.descend?_put_of_apart (apart_params hws)]
    · exact hd
  · obtain ⟨s, hs⟩ := exists_value?_params henv hx
    rw [Settings.putValue, hs, wordsOf_params,
      Settings.wordsOf_of_not_mem (not_mem_of_mem_paramSettings hdots hx)]
    -- The key has three words, so what is put is one more entry of the dictionary.
    obtain ⟨p, hput, hp⟩ := Settings.descend?_put_append (List.cons_ne_nil x []) (.text s) d
    intro v hv
    obtain rfl := Option.some.inj (hput.symm.trans hv)
    refine ⟨_, rfl, fun e he => ?_⟩
    rcases Pairs.mem_of_mem_insert he with rfl | he
    · exact ⟨s, rfl⟩
    · rcases hp with rfl | hp
      · cases he
      · obtain ⟨q, hq, htexts⟩ := hd _ hp
        obtain rfl := Value.dict.inj hq
        exact htexts e he

theorem textsAt_merged (henv : env.Silent)
    (hdots : ∀ k ∈ c.docs.params.entries.keys, '.' ∉ k.toList) :
    TextsAt ["docs", "params"] (Settings.merged env (settled c.entries)) :=
  List.foldlRecOn (motive := TextsAt ["docs", "params"]) _ _ (fun _ h => by cases h)
    fun _ hd _ hkey => textsAt_putValue henv hdots hkey hd

/-- What the parameters of the documentation do not fit. -/
def paramsMisfits (env : Environment) (c : Config) : List Misfit :=
  textsMisfits "docs.params"
    ((((Settings.merged env (settled c.entries)).inner "docs").find? "params").getD .null)

/-- Without dots in their keys the parameters fit. -/
theorem paramsMisfits_eq_nil (henv : env.Silent)
    (hdots : ∀ k ∈ c.docs.params.entries.keys, '.' ∉ k.toList) : paramsMisfits env c = [] := by
  obtain ⟨e, he⟩ := exists_find?_merged_docs henv c
  rw [paramsMisfits, Settings.inner_of_find? he]
  have htexts := textsAt_merged henv hdots
  simp only [TextsAt, Settings.descend?_cons_dict, he, Option.bind_some] at htexts
  cases hparams : Pairs.find? "params" e with
  | none => rfl
  | some v =>
    by_cases hv : v = .null
    · rw [hv]
      rfl
    · obtain ⟨p, rfl, hp⟩ := htexts v (by rw [hparams, Option.bind_some, Settings.descend?_nil hv])
      exact entryMisfits_eq_nil hp

/-- A parameter with a dot in its key does not fit: the first word of its key leads to a
dictionary. -/
theorem paramsMisfits_ne_nil (henv : env.Silent) {k : String} (hk : k ∈ c.docs.params.entries.keys)
    (hdot : '.' ∈ k.toList) : paramsMisfits env c ≠ [] := by
  obtain ⟨e, he⟩ := exists_find?_merged_docs henv c
  rw [paramsMisfits, Settings.inner_of_find? he]
  have hx := mem_keys_paramSettings hk
  obtain ⟨w, v, r, hwords⟩ := Settings.exists_wordsOf_of_mem (Settings.mem_lowerText_iff.2 hdot)
  obtain ⟨s, hs⟩ := exists_value?_params henv hx
  have hsplit : Settings.wordsOf ("docs.params" ++ "." ++ Settings.lowerText k) =
      ["docs", "params", w] ++ v :: r := by
    rw [wordsOf_params, hwords]
    rfl
  obtain ⟨q, hq⟩ :=
    Settings.exists_dict_merged (mem_allKeys_settled.2 (.inr ⟨_, hx, rfl⟩)) hs hsplit
      (List.cons_ne_nil v r)
  rw [Settings.descend?_cons_dict, he, Option.bind_some, Settings.descend?_cons_dict] at hq
  obtain ⟨y, hy, hq⟩ := Option.bind_eq_some_iff.1 hq
  rw [hy, Option.getD_some]
  cases y with
  | dict p =>
    exact entryMisfits_ne_nil (Pairs.mem_of_find? (Settings.find?_of_descend? hq))
  | _ => cases hq

/-! ## Reading back -/

theorem docsOf_merged (henv : env.Silent) (c : Config) :
    docsOf ((Settings.merged env (settled c.entries)).find? "docs") =
      (paramsMisfits env c, { c.completed.docs with params := .empty }) := by
  obtain ⟨e, he⟩ := exists_find?_merged_docs henv c
  have htext {x s standard : String} (hx : x ∈ docsNames.dropLast)
      (hfind : Pairs.find? x (docsEntries c.docs) = if s = "" then none else some (.text s))
      (hstandard : (Settings.standard.inner "docs").find? x = some (.text standard)) :
      textAt "docs." e x = ([], if s = "" then standard else s) := by
    refine textAt_of_find? (find?_merged_docs henv he hx (by simp) ?_) _
    rw [find?_settled_docs, hfind, hstandard]
    by_cases hs : s = "" <;> simp [hs, Block.value, Settings.lowered]
  have hcommand := htext (x := "command") (s := c.docs.command) (by decide)
    (by simp [docsEntries, optionalText, optionalMapping, Pairs.find?_append]) rfl
  have houtput := htext (x := "output") (s := c.docs.output) (by decide)
    (by simp [docsEntries, optionalText, optionalMapping, Pairs.find?_append]) rfl
  have htemplate := htext (x := "template") (s := c.docs.template) (by decide)
    (by simp [docsEntries, optionalText, optionalMapping, Pairs.find?_append]) rfl
  have hpyproject := htext (x := "pyproject") (s := c.docs.pyproject) (by decide)
    (by simp [docsEntries, optionalText, optionalMapping, Pairs.find?_append]) rfl
  rw [paramsMisfits, Settings.inner_of_find? he, he]
  simp only [docsOf, hcommand, houtput, htemplate, hpyproject, List.nil_append]
  rfl

theorem lowered_value_ne_null (b : Block) : Settings.lowered b.value ≠ .null := by
  cases b <;> simp [Block.value, Settings.lowered]

theorem find?_merged_written (henv : env.Silent) {w : String}
    (hw : w ∈ fileNames.dropLast) {b : Block} (hfind : Pairs.find? w c.entries = some b) :
    (Settings.merged env (settled c.entries)).find? w = some (Settings.lowered b.value) := by
  refine find?_merged henv hw (lowered_value_ne_null b) ?_
  rw [find?_settled_entries, hfind]
  rfl

/-- A value that is left out if it is the standard one comes back. -/
theorem find?_merged_optional (henv : env.Silent) {w : String} (hw : w ∈ fileNames.dropLast)
    {b : Block} {p : Prop} [Decidable p]
    (hfind : Pairs.find? w c.entries = if p then none else some b)
    (hstandard : p → Settings.standard.find? w = some (Settings.lowered b.value)) :
    (Settings.merged env (settled c.entries)).find? w = some (Settings.lowered b.value) := by
  by_cases hp : p
  · refine find?_merged henv hw (lowered_value_ne_null b) ?_
    rw [find?_settled_entries, hfind, if_pos hp]
    exact hstandard hp
  · exact find?_merged_written henv hw (by rw [hfind, if_neg hp])

theorem intAt_version (henv : env.Silent) (hvalid : c.validate = .ok ()) :
    intAt (Settings.merged env (settled c.entries)) "version" = ([], c.version) := by
  have hcurrent : c.version = currentVersion := by
    by_contra hversion
    simp [validate, hversion] at hvalid
  refine intAt_of_find? (find?_merged_written henv (b := .int c.version) (by decide) rfl) ?_
  rw [hcurrent]
  decide

theorem intAt_workers (henv : env.Silent) (hworkers : fits64 c.workers) :
    intAt (Settings.merged env (settled c.entries)) "workers" = ([], c.workers) := by
  have hfind : Pairs.find? "workers" c.entries = if c.workers = 0 then none
      else some (.int c.workers) := by
    simp [entries, optionalText, optionalMapping, Pairs.find?_append, Pairs.find?_cons]
  refine intAt_of_find? (find?_merged_optional henv (by decide) hfind fun h => ?_) hworkers
  rw [h]
  rfl

/-- The settings make the completed configuration, if the parameters fit. -/
theorem ofSettings_merged (henv : env.Silent) (hvalid : c.validate = .ok ())
    (hworkers : fits64 c.workers) :
    ofSettings (Settings.merged env (settled c.entries)) =
      if (paramsMisfits env c).isEmpty then
        .ok { c.completed with docs := { c.completed.docs with params := .empty } }
      else .error (paramsMisfits env c) := by
  have hspec :=
    textAt_of_find? (find?_merged_written henv (w := "spec") (b := .text c.spec) (by decide) rfl) ""
  have houtput :=
    textAt_of_find? (find?_merged_written henv (w := "output") (b := .text c.output)
      (by decide) rfl) ""
  have hformat :=
    textAt_of_find? (find?_merged_written henv (w := "format") (b := .text c.format)
      (by decide) rfl) ""
  have hoptional {w s : String} (hw : w ∈ fileNames.dropLast)
      (hfind : Pairs.find? w c.entries = if s = "" then none else some (.text s))
      (hstandard : Settings.standard.find? w = some (.text "")) :
      textAt "" (Settings.merged env (settled c.entries)) w = ([], s) := by
    refine textAt_of_find? (find?_merged_optional henv hw hfind fun hs => ?_) _
    rw [hs]
    exact hstandard
  have hpackage : textAt "" (Settings.merged env (settled c.entries)) "package" =
      ([], c.package) := by
    refine hoptional (by decide) ?_ rfl
    simp [entries, optionalText, optionalMapping, Pairs.find?_append, Pairs.find?_cons]
  have htemplates : textAt "" (Settings.merged env (settled c.entries)) "templates" =
      ([], c.templates) := by
    refine hoptional (by decide) ?_ rfl
    simp [entries, optionalText, optionalMapping, Pairs.find?_append, Pairs.find?_cons]
  simp only [ofSettings, intAt_version henv hvalid, hspec, houtput, hformat, hpackage, htemplates,
    intAt_workers henv hworkers, docsOf_merged henv c, List.nil_append]
  rfl

theorem distinct_of_leaf {b : Block} (h : ∀ bs, b ≠ .mapping bs) : b.Distinct := by
  cases b with
  | mapping bs => exact absurd rfl (h bs)
  | _ => trivial

theorem distinct_docsEntries (d : DocsConfig) :
    (Block.mapping (docsEntries d)).Distinct := by
  refine ⟨nodup_docsEntries d, entriesDistinct_iff.2 fun e he => ?_⟩
  rcases mem_docsEntries he with ⟨-, hleaf⟩ | rfl
  · exact distinct_of_leaf hleaf
  · refine ⟨(map_textBlocks_perm d).nodup_iff.2 d.params.ascending.nodup_keys,
      entriesDistinct_iff.2 fun e he => ?_⟩
    obtain ⟨p, -, rfl⟩ := List.mem_map.1 he
    trivial

theorem distinct_entries (c : Config) : (Block.mapping c.entries).Distinct := by
  refine ⟨nodup_entries c, entriesDistinct_iff.2 fun e he => ?_⟩
  rcases mem_entries he with ⟨-, hleaf⟩ | rfl
  · exact distinct_of_leaf hleaf
  · exact distinct_docsEntries c.docs

theorem allTexts_textFields (ps : List (String × String)) :
    (Filled.record (textFields ps)).allTexts = Dict.ofList ps := by
  rw [Filled.allTexts, textFields, List.filterMap_map]
  exact congrArg Dict.ofList (List.filterMap_some)

variable {path : String} {doc : Document}

/-- The parameters are read as they are written. -/
theorem fill_paramsShape (l : Library)
    (hshown : (Block.mapping c.entries).Shown doc.root) :
    ∃ filled, l.fill paramsShape doc.root = .ok filled ∧
      (((filled.field? "docs").bind (·.field? "params")).map (·.allTexts)).getD .empty =
        c.docs.params := by
  have hdocs := under_of_find? (nodup_entries c) (find?_entries_docs c)
  have hfields :
      Under "params" (docsEntries c.docs) (textBlocks (sortEntries c.docs.params.entries)) := by
    refine under_of_find? (nodup_docsEntries c.docs) ?_
    rw [find?_docsEntries_params]
    simp [textBlocks]
  refine ⟨_, l.fill_of_shown hshown (distinct_entries c) hdocs hfields, ?_⟩
  exact (allTexts_textFields _).trans (Dict.ofList_of_perm (sortEntries_perm c.docs.params.entries))

/-- A file that shows the tree of a configuration is read as the completed configuration, if its
parameters fit. -/
theorem ofText_render (henv : env.Silent) (hvalid : c.validate = .ok ())
    (hworkers : fits64 c.workers) (hread : Document.read path c.render = .ok (some doc))
    (hshown : (Block.mapping c.entries).Shown doc.root) :
    ofText env path c.render =
      if (paramsMisfits env c).isEmpty then .ok c.completed
      else .error (.unfit path (paramsMisfits env c)) := by
  obtain ⟨filled, hfill, htexts⟩ := fill_paramsShape [(path, doc)] hshown
  have hdict := Library.dict_of_shown [(path, doc)] hshown (distinct_entries c)
  have hsettings : ofSettings (Settings.merged env (Settings.settle (Settings.loweredEntries
      (Pairs.ofList (blockValues c.entries))))) = _ := ofSettings_merged henv hvalid hworkers
  by_cases hfit : (paramsMisfits env c).isEmpty
  · rw [if_pos hfit] at hsettings ⊢
    simp only [ofText, hread, hdict, hsettings, hfill, htexts, Except.mapError, bind, Except.bind,
      pure, Except.pure]
    rfl
  · rw [if_neg hfit] at hsettings ⊢
    simp only [ofText, hread, hdict, hsettings, Except.mapError, bind, Except.bind]

theorem read_ok (env : Environment) (path text : String) :
    read env path (.ok text) = ofText env path text := by
  rw [read]
  rfl

/-- A configuration that is written to a file is read from it as the completed one, if its
parameters fit. -/
theorem read_of_write (henv : env.Silent) (hvalid : c.validate = .ok ())
    (hworkers : fits64 c.workers) (hread : Document.read path c.render = .ok (some doc))
    (hshown : (Block.mapping c.entries).Shown doc.root) {d d' : Disk}
    (hwrite : d.write path (utf8 c.render) = .ok d') :
    read env path ((d'.read path).map lossy) =
      if (paramsMisfits env c).isEmpty then .ok c.completed
      else .error (.unfit path (paramsMisfits env c)) := by
  rw [Disk.read_of_write hwrite, Except.map, lossy_utf8, read_ok]
  exact ofText_render henv hvalid hworkers hread hshown

/-- The file keeps what is said on the documentation: no text is empty, and no key of a parameter
has a dot. -/
structure KeepsDocs (c : Config) : Prop where
  texts : ∀ s ∈ [c.docs.command, c.docs.output, c.docs.template, c.docs.pyproject], s ≠ ""
  params : ∀ k ∈ c.docs.params.entries.keys, '.' ∉ k.toList

theorem completed_eq_self_iff :
    c.completed = c ↔
      ∀ s ∈ [c.docs.command, c.docs.output, c.docs.template, c.docs.pyproject], s ≠ "" := by
  have hstandard (s : String) {t : String} (ht : t ≠ "") :
      (if s = "" then t else s) = s ↔ s ≠ "" := by
    by_cases hs : s = "" <;> simp [hs, ht]
  obtain ⟨version, spec, output, format, package, templates, workers, docs⟩ := c
  obtain ⟨command, folder, template, pyproject, params⟩ := docs
  simp only [completed, Config.mk.injEq, DocsConfig.mk.injEq, true_and, and_true]
  rw [hstandard command (by decide), hstandard folder (by decide), hstandard template (by decide),
    hstandard pyproject (by decide)]
  simp

/-- **A configuration is read back as it was written exactly if the file keeps what it says on the
documentation.** Take a configuration that is valid, an environment with no variable for this
program, and a file to which the configuration is written so that its document shows the tree of the
configuration. If no key of a parameter has a dot, the completed configuration is read from the
file. The configuration itself is read if moreover no text on the documentation is empty, and only
then. -/
theorem read_write_iff (henv : env.Silent) (hvalid : c.validate = .ok ())
    (hworkers : fits64 c.workers) {d d' : Disk} (hwrite : d.write path (utf8 c.render) = .ok d')
    (hyaml : ∃ doc, Document.read path c.render = .ok (some doc) ∧
      (Block.mapping c.entries).Shown doc.root) :
    ((∀ k ∈ c.docs.params.entries.keys, '.' ∉ k.toList) →
      read env path ((d'.read path).map lossy) = .ok c.completed) ∧
      (read env path ((d'.read path).map lossy) = .ok c ↔ c.KeepsDocs) := by
  obtain ⟨doc, hread, hshown⟩ := hyaml
  have hresult := read_of_write henv hvalid hworkers hread hshown hwrite
  have hkept (hdots : ∀ k ∈ c.docs.params.entries.keys, '.' ∉ k.toList) :
      read env path ((d'.read path).map lossy) = .ok c.completed := by
    rw [hresult, paramsMisfits_eq_nil henv hdots]
    rfl
  refine ⟨hkept, fun h => ?_, fun h => ?_⟩
  · by_cases hdots : ∀ k ∈ c.docs.params.entries.keys, '.' ∉ k.toList
    · rw [hkept hdots] at h
      exact ⟨completed_eq_self_iff.1 (Except.ok.inj h), hdots⟩
    · obtain ⟨k, hk, hdot⟩ : ∃ k ∈ c.docs.params.entries.keys, '.' ∈ k.toList := by
        simpa using hdots
      rw [hresult, if_neg (by simpa using paramsMisfits_ne_nil henv hk hdot)] at h
      cases h
  · rw [hkept h.params, completed_eq_self_iff.2 h.texts]

/-- Does the file of a configuration show its tree? -/
def isShown (path : String) (c : Config) : Bool :=
  (Document.read path c.render).toOption.any fun o => o.any fun doc =>
    decide ((Block.mapping c.entries).Shown doc.root)

theorem exists_shown {path : String} {c : Config} (h : isShown path c = true) :
    ∃ doc, Document.read path c.render = .ok (some doc) ∧
      (Block.mapping c.entries).Shown doc.root := by
  obtain ⟨o, hread, ho⟩ := (Option.any_eq_true _ _).1 h
  obtain ⟨doc, rfl, hshown⟩ := (Option.any_eq_true _ _).1 ho
  exact ⟨doc, Except.toOption_eq_some_iff.1 hread, of_decide_eq_true hshown⟩

/-- A folder for a project. -/
def lampFolder : Disk :=
  .ofListing [(["lamp"], .folder)] ["lamp"] rfl

theorem exists_write_lampFolder (content : Bytes) :
    ∃ d', lampFolder.write "/lamp/asyncgen.yaml" content = .ok d' :=
  ⟨_, rfl⟩

/-- A configuration with some file and some parameters of the documentation. -/
def lampConfig (pyproject : String) (params : List (String × String)) : Config :=
  ⟨1, "a.yml", "o.py", "pydantic", "", "", 0, ⟨"npx ag", "docs", "t", pyproject, .ofList params⟩⟩

theorem read_write_iff_lampConfig :
    ∃ d', lampFolder.write "/lamp/asyncgen.yaml"
      (utf8 (lampConfig "p.toml" [("Dark Mode", "no")]).render) = .ok d' ∧
      (lampConfig "p.toml" [("Dark Mode", "no")]).KeepsDocs ∧
      read [("HOME", "/lamp")] "/lamp/asyncgen.yaml" ((d'.read "/lamp/asyncgen.yaml").map lossy) =
        .ok (lampConfig "p.toml" [("Dark Mode", "no")]) := by
  obtain ⟨d', hwrite⟩ :=
    exists_write_lampFolder (utf8 (lampConfig "p.toml" [("Dark Mode", "no")]).render)
  have hkeeps : (lampConfig "p.toml" [("Dark Mode", "no")]).KeepsDocs := ⟨by decide, by decide⟩
  have henv : Environment.Silent [("HOME", "/lamp")] := by
    unfold Environment.Silent
    decide
  exact ⟨d', hwrite, hkeeps,
    (read_write_iff henv rfl rfl hwrite (exists_shown (by decide +kernel))).2.2 hkeeps⟩

/-- A text on the documentation that is empty comes back as the standard one, and with a dot in the
key of a parameter the file cannot be read. -/
theorem read_write_lampConfig_changed :
    (∃ d', lampFolder.write "/lamp/asyncgen.yaml" (utf8 (lampConfig "" []).render) = .ok d' ∧
      (lampConfig "" []).validate = .ok () ∧
      read [] "/lamp/asyncgen.yaml" ((d'.read "/lamp/asyncgen.yaml").map lossy) =
        .ok (lampConfig "pyproject.toml" [])) ∧
    ∃ d' misfits, lampFolder.write "/lamp/asyncgen.yaml"
      (utf8 (lampConfig "p.toml" [("a.b", "x")]).render) = .ok d' ∧
      (lampConfig "p.toml" [("a.b", "x")]).validate = .ok () ∧
      read [] "/lamp/asyncgen.yaml" ((d'.read "/lamp/asyncgen.yaml").map lossy) =
        .error (.unfit "/lamp/asyncgen.yaml" misfits) := by
  have henv : Environment.Silent [] := fun _ h => by cases h
  constructor
  · obtain ⟨d', hwrite⟩ := exists_write_lampFolder (utf8 (lampConfig "" []).render)
    have hshown : isShown "/lamp/asyncgen.yaml" (lampConfig "" []) = true := by decide +kernel
    obtain ⟨doc, hread, hshown⟩ := exists_shown hshown
    refine ⟨d', hwrite, rfl, ?_⟩
    rw [read_of_write henv rfl rfl hread hshown hwrite, paramsMisfits_eq_nil henv (by decide)]
    rfl
  · obtain ⟨d', hwrite⟩ :=
      exists_write_lampFolder (utf8 (lampConfig "p.toml" [("a.b", "x")]).render)
    have hshown : isShown "/lamp/asyncgen.yaml" (lampConfig "p.toml" [("a.b", "x")]) = true := by
      decide +kernel
    have hmisfits : paramsMisfits [] (lampConfig "p.toml" [("a.b", "x")]) ≠ [] :=
      paramsMisfits_ne_nil henv (k := "a.b") (by decide) (by decide)
    obtain ⟨doc, hread, hshown⟩ := exists_shown hshown
    refine ⟨d', paramsMisfits [] (lampConfig "p.toml" [("a.b", "x")]), hwrite, rfl, ?_⟩
    rw [read_of_write henv rfl rfl hread hshown hwrite, if_neg (by simpa using hmisfits)]

end Config

end PayloadGen
