import PayloadGen.Project.Generate
import PayloadGen.Proofs.Files.Disk

/-!
# What a failed generation leaves behind

Generation drafts the file before anything is written, so a fault of the draft leaves the disk as it
was. The templates are rendered only when the file has been written: a template that cannot be
rendered leaves that file and the folders on the way to it behind (`Session.Draft.IsWritten`), and
nothing else.
-/

namespace PayloadGen

open Text

/-- The parts of a generation. -/
inductive GeneratePhase where
  /-- The content of the file is found. -/
  | draft
  /-- Folders and files are written. -/
  | write
  /-- The templates are rendered. -/
  | render
  deriving DecidableEq

/-- The part of a generation that fails with an error. -/
def GenerateError.phase : GenerateError → GeneratePhase
  | .format _ | .templatesMissing _ | .templatesNoFolder _ | .compile _ | .render _ _ => .draft
  | .makeFolder _ | .write _ _ | .writeTemplates _ => .write
  | .templates _ => .render

namespace Session

variable {s : Session} {formats : Format.Register} {o : GenerateOptions} {d d' : Disk}
  {log : List Log.Entry} {e : GenerateError} {draft : Draft}

/-- The file of a draft has been written: it has its content, there may be new folders on the way to
it, and all else is as before. -/
structure Draft.IsWritten (draft : Draft) (d d' : Disk) : Prop where
  read : d'.read draft.path = .ok draft.content
  entry : ∀ q, d'.entryAt? q = d.entryAt? q ∨
    (d.entryAt? q = none ∧ d'.entryAt? q = some .folder ∧
      ∃ front : String, front.toList <+: (Path.dir draft.path).toList ∧ d'.locate front = .ok q) ∨
    (d'.locate draft.path = .ok q ∧ d'.entryAt? q = some (.file draft.content))

/-! ## Drafts -/

theorem phase_of_templatesFolder (h : s.templatesFolder d = .error e) : e.phase = .draft := by
  unfold templatesFolder at h
  split at h
  · cases h
  · dsimp only at h
    split at h
    · cases h
      rfl
    · cases h
      rfl
    · cases h

theorem phase_of_draft (h : s.draft formats o d = (log, .error e)) : e.phase = .draft := by
  unfold draft at h
  dsimp only at h
  split at h
  · cases h
    rfl
  · rename_i hfolder
    cases h
    exact phase_of_templatesFolder hfolder
  · split at h
    · cases h
      rfl
    · split at h
      · cases h
        rfl
      · cases h

/-! ## Writing -/

theorem Draft.isWritten_of_write {d₁ : Disk}
    (hfolder : d.ensureFolder (Path.dir draft.path) = .ok d₁)
    (hwrite : d₁.write draft.path draft.content = .ok d') : draft.IsWritten d d' := by
  have hadds := d.addsFolders_withFolders (Path.dir draft.path)
  rw [← Disk.eq_withFolders_of_ensureFolder hfolder] at hadds
  refine ⟨Disk.read_of_write hwrite, fun q => ?_⟩
  obtain ⟨p, hp, hadmits, rfl⟩ := Disk.exists_place_of_write hwrite
  have hkeeps := Disk.keepsFolders_put hadmits (.file draft.content)
  rw [Disk.entryAt?_put]
  split
  · rename_i hq
    exact .inr (.inr ⟨hq ▸ hkeeps.locate_eq_ok hp, rfl⟩)
  · obtain hsame | ⟨hnone, hnew, front, hfront, hlocate⟩ := hadds.entry q
    · exact .inl hsame
    · exact .inr (.inl ⟨hnone, hnew, front, hfront, hkeeps.locate_eq_ok hlocate⟩)

theorem Draft.writeTemplates_eq_error (h : draft.writeTemplates d = (d', .error e))
    (he : e.phase ≠ .write) :
    d' = d ∧ ∃ folder cause, draft.templates = some folder ∧ e = .templates cause ∧
      Template.renderAll (d.source folder) draft.unit = .error cause := by
  unfold Draft.writeTemplates at h
  split at h
  · cases h
  rename_i folder hfolder
  split at h
  · rename_i cause hcause
    cases h
    exact ⟨rfl, folder, cause, hfolder, rfl, hcause⟩
  · dsimp only at h
    split at h
    · cases h
      exact absurd rfl he
    · cases h

/-- When neither folder nor file is at fault the file has been written, and a template is at
fault. -/
theorem Draft.write_eq_error (h : draft.write d = (d', log, .error e)) (he : e.phase ≠ .write) :
    draft.IsWritten d d' ∧ ∃ folder cause, draft.templates = some folder ∧ e = .templates cause ∧
      Template.renderAll (d'.source folder) draft.unit = .error cause := by
  unfold Draft.write at h
  split at h
  · obtain ⟨-, hrest⟩ := Prod.mk.inj h
    obtain ⟨-, hresult⟩ := Prod.mk.inj hrest
    obtain rfl := Except.error.inj hresult
    exact absurd rfl he
  rename_i d₁ hfolder
  split at h
  · cases h
    exact absurd rfl he
  rename_i d₂ hwrite
  rcases htemplates : draft.writeTemplates d₂ with ⟨d₃, result⟩
  rw [htemplates] at h
  obtain ⟨rfl, hrest⟩ := Prod.mk.inj h
  obtain ⟨-, rfl⟩ := Prod.mk.inj hrest
  obtain ⟨rfl, htemplates⟩ := Draft.writeTemplates_eq_error htemplates he
  exact ⟨Draft.isWritten_of_write hfolder hwrite, htemplates⟩

/-- **A failed generation leaves the disk untouched unless a template is at fault.** If generation
fails, and not because a folder or file cannot be written, then the disk is as it was, except where
a template cannot be read or rendered: then the file of the format has been written, with the
folders on the way to it, and all else is as before.
-/
theorem generate_failed (h : s.generate formats o d = (d', log, .error e)) (he : e.phase ≠ .write) :
    (e.phase = .draft → d' = d) ∧
    (e.phase = .render → ∃ draft folder cause, (s.draft formats o d).2 = .ok draft ∧
      draft.templates = some folder ∧ e = .templates cause ∧
      Template.renderAll (d'.source folder) draft.unit = .error cause ∧ draft.IsWritten d d') := by
  unfold generate at h
  split at h
  · rename_i hdraft
    cases h
    refine ⟨fun _ => rfl, fun hrender => ?_⟩
    rw [phase_of_draft hdraft] at hrender
    cases hrender
  · rename_i draft hdraft
    rcases hwrite : draft.write d with ⟨d₂, more, result⟩
    rw [hwrite] at h
    obtain ⟨rfl, hrest⟩ := Prod.mk.inj h
    obtain ⟨-, rfl⟩ := Prod.mk.inj hrest
    obtain ⟨hwritten, folder, cause, hfolder, rfl, hrender⟩ := Draft.write_eq_error hwrite he
    refine ⟨fun hphase => ?_, fun _ => ?_⟩
    · cases hphase
    · exact ⟨draft, folder, cause, congrArg (·.2) hdraft, hfolder, rfl, hrender, hwritten⟩

/-- A project with one message and a folder of templates, which is to be written as a page. -/
def lampProject : Session where
  folder := "/lamp"
  config := ⟨1, "lamp.yml", "gen/lamp.md", "markdown", "", "templates", 1, ⟨"", "", "", "", .empty⟩⟩
  spec := ⟨"2.6.0", ⟨"Lamp", "1.0.0", ""⟩, [], [⟨"Lamp", "", "", .object "" [] [] true⟩]⟩

/-- The disk of the project, with one template. -/
def lampDisk (template : String) : Disk :=
  .ofListing
    [(["lamp"], .folder), (["lamp", "templates"], .folder),
      (["lamp", "templates", "lamp.txt.tmpl"], .file (utf8 template))]
    ["lamp"] rfl

theorem generate_failed_lampProject :
    (∃ log e, lampProject.generate Format.register ⟨"toml", "", "", none⟩ (lampDisk "") =
      (lampDisk "", log, .error e) ∧ e.phase = .draft) ∧
    ∃ d' log e draft, lampProject.generate Format.register ⟨"", "", "", none⟩
      (lampDisk "\x7b\x7b.Missing\x7d\x7d") =
        (d', log, .error e) ∧ e.phase = .render ∧
      (lampProject.draft Format.register ⟨"", "", "", none⟩
        (lampDisk "\x7b\x7b.Missing\x7d\x7d")).2 = .ok draft ∧
      draft.path = "/lamp/gen/lamp.md" ∧
      draft.IsWritten (lampDisk "\x7b\x7b.Missing\x7d\x7d") d' := by
  constructor
  · obtain ⟨e, hresult, hphase⟩ : ∃ e,
        (lampProject.generate Format.register ⟨"toml", "", "", none⟩ (lampDisk "")).2.2.error? =
          some e ∧
          e.phase = .draft := Option.map_eq_some_iff.1 (by decide +kernel)
    rcases hgenerate : lampProject.generate Format.register ⟨"toml", "", "", none⟩ (lampDisk "")
      with ⟨d', log, result⟩
    rw [hgenerate] at hresult
    obtain rfl := Except.error?_eq_some_iff.1 hresult
    obtain rfl := (generate_failed hgenerate (by rw [hphase]; decide)).1 hphase
    exact ⟨log, e, rfl, hphase⟩
  · obtain ⟨e, hresult, hphase⟩ : ∃ e,
        (lampProject.generate Format.register ⟨"", "", "", none⟩
          (lampDisk "\x7b\x7b.Missing\x7d\x7d")).2.2.error? = some e ∧ e.phase = .render :=
      Option.map_eq_some_iff.1 (by decide +kernel)
    obtain ⟨draft, hdraft, hpath⟩ : ∃ draft, (lampProject.draft Format.register ⟨"", "", "", none⟩
        (lampDisk "\x7b\x7b.Missing\x7d\x7d")).2.toOption = some draft ∧
        draft.path = "/lamp/gen/lamp.md" :=
      Option.map_eq_some_iff.1 (by decide +kernel)
    rcases hgenerate : lampProject.generate Format.register ⟨"", "", "", none⟩
      (lampDisk "\x7b\x7b.Missing\x7d\x7d") with ⟨d', log, result⟩
    rw [hgenerate] at hresult
    obtain rfl := Except.error?_eq_some_iff.1 hresult
    obtain ⟨draft', -, -, hdraft', -, -, -, hwritten⟩ :=
      (generate_failed hgenerate (by rw [hphase]; decide)).2 hphase
    obtain rfl := Except.ok.inj ((Except.toOption_eq_some_iff.1 hdraft).symm.trans hdraft')
    exact ⟨d', log, e, draft, rfl, hphase, hdraft', hpath, hwritten⟩

/-- A template that ends too early: the page is written and the generation fails. -/
theorem generate_lampProject_unfinished : ∃ d' log e content,
    lampProject.generate Format.register ⟨"", "", "", none⟩ (lampDisk "\x7b\x7b") =
      (d', log, .error e) ∧
      e.phase = .render ∧ (lampDisk "\x7b\x7b").hasEntry "/lamp/gen" = false ∧
      d'.read "/lamp/gen/lamp.md" = .ok content := by
  have hfailed : (fun r : Disk × List Log.Entry × Except GenerateError Generated =>
      (r.2.2.error?.map (·.phase), (r.1.read "/lamp/gen/lamp.md").toOption.isSome))
        (lampProject.generate Format.register ⟨"", "", "", none⟩ (lampDisk "\x7b\x7b")) =
      (some .render, true) := by decide +kernel
  rcases hgenerate : lampProject.generate Format.register ⟨"", "", "", none⟩
    (lampDisk "\x7b\x7b") with ⟨d', log, result⟩
  rw [hgenerate] at hfailed
  obtain ⟨hresult, hread⟩ := Prod.mk.inj hfailed
  obtain ⟨e, he, hphase⟩ := Option.map_eq_some_iff.1 hresult
  obtain rfl := Except.error?_eq_some_iff.1 he
  obtain ⟨content, hcontent⟩ := Option.isSome_iff_exists.1 hread
  exact ⟨d', log, e, content, rfl, hphase, by decide +kernel,
    Except.toOption_eq_some_iff.1 hcontent⟩

end Session

end PayloadGen
