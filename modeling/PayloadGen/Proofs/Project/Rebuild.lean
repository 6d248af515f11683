import PayloadGen.Project.Watch
import PayloadGen.Proofs.Watch.Run

/-!
# What generating does to the disk

Generating is taken apart into its edits of the disk (`Session.generateEdits`,
`Session.rebuildEdits`). Each has a mark that says what generating did there, and making them one
after the other gives the disk that generating leaves (`disk_edits_generate`, `disk_edits_rebuild`).

Which files are written is not the same in every rebuild, since templates come and go. But where
they are is: the output has one path (`SameProject.path_eq`), and all else is written beside it
(`generates_rebuild`).
-/

namespace PayloadGen

open Text Relation

/-- Who is behind an edit of the disk of a project. -/
inductive Origin where
  /-- Somebody else. -/
  | other
  /-- Generating, which made a folder on the way to its files. -/
  | folder
  /-- Generating, which wrote the file with this path. -/
  | written (path : String)
  deriving DecidableEq

namespace Session

variable {s s' : Session} {o : GenerateOptions} {d d' : Disk} {x : Watch.System Origin}

/-! ## The edits of a rebuild -/

/-- The folders to be made on the way to a path, from the outermost on, up to the first that cannot
be. -/
def foldersOnWay (d : Disk) : (fuel : Nat) → (path : String) → List String
  | 0, _ => []
  | fuel + 1, path =>
    match d.find path with
    | .ok _ => []
    | .error _ =>
      match Disk.parentPath? path with
      | none => [path]
      | some parent =>
        foldersOnWay d fuel parent ++
          match (Disk.makeFolders fuel d parent).2 with
          | .error _ => []
          | .ok _ => [path]

/-- A file that generating writes. -/
def writing (path : String) (content : Bytes) : Origin × Watch.Edit :=
  (.written path, .write path content)

/-- Rendered templates are written into a folder, up to the first that cannot be. -/
def renderedEdits (folder : String) : Disk → List Template.Rendered → List (Origin × Watch.Edit)
  | _, [] => []
  | d, r :: rest =>
    match d.write (Path.join [folder, r.name]) r.content with
    | .error _ => []
    | .ok d => writing (Path.join [folder, r.name]) r.content :: renderedEdits folder d rest

/-- The edits that write the templates of a draft. -/
def Draft.templateEdits (draft : Draft) (d : Disk) : List (Origin × Watch.Edit) :=
  match draft.templates with
  | none => []
  | some folder =>
    match Template.renderAll (d.source folder) draft.unit with
    | .error _ => []
    | .ok rendered => renderedEdits (Path.dir draft.path) d rendered

/-- The edits that write a draft. -/
def Draft.edits (draft : Draft) (d : Disk) : List (Origin × Watch.Edit) :=
  let folder := Path.dir draft.path
  (foldersOnWay d (folder.length + 1) folder).map (fun p => (.folder, .makeFolder p)) ++
    match d.ensureFolder folder with
    | .error _ => []
    | .ok d₁ =>
      match d₁.write draft.path draft.content with
      | .error _ => []
      | .ok d₂ => writing draft.path draft.content :: draft.templateEdits d₂

/-- The edits that generate the files of a project. -/
def generateEdits (s : Session) (formats : Format.Register) (o : GenerateOptions) (d : Disk) :
    List (Origin × Watch.Edit) :=
  match (s.draft formats o d).2 with
  | .error _ => []
  | .ok draft => draft.edits d

/-- The edits that generate the files again. -/
def rebuildEdits (s : Session) (o : GenerateOptions) (d : Disk) : List (Origin × Watch.Edit) :=
  match s.reload d with
  | .error _ => []
  | .ok s => s.generateEdits Format.register o d

theorem disk_edit_write (x : Watch.System Origin) (mark : Origin) (path : String)
    (content : Bytes) : (x.edit mark (.write path content)).disk =
    (x.disk.write path content).toOption.getD x.disk := by
  simp only [Watch.System.edit, Watch.Edit.apply]
  cases hwrite : x.disk.write path content with
  | error e => cases x.disk.locate path <;> rfl
  | ok d =>
    obtain ⟨p, hp, -, -⟩ := Disk.exists_place_of_write hwrite
    rw [hp]
    rfl

theorem disk_edit_makeFolder (x : Watch.System Origin) (mark : Origin) (path : String) :
    (x.edit mark (.makeFolder path)).disk = (x.disk.makeFolder path).toOption.getD x.disk := by
  simp only [Watch.System.edit, Watch.Edit.apply]
  cases hmake : x.disk.makeFolder path with
  | error e => cases x.disk.locate path <;> rfl
  | ok d =>
    obtain ⟨p, hp, -, -⟩ := Disk.exists_place_of_makeFolder hmake
    rw [hp]
    rfl

theorem edits_append (x : Watch.System Origin) (es es' : List (Origin × Watch.Edit)) :
    x.edits (es ++ es') = (x.edits es).edits es' := List.foldl_append

theorem disk_edit_makeLast (x : Watch.System Origin) (path : String) :
    (x.edit .folder (.makeFolder path)).disk = (x.disk.makeLast path).1 := by
  rw [disk_edit_makeFolder, Disk.makeLast, Disk.makeMissing]
  cases x.disk.makeFolder path with
  | ok d => rfl
  | error e =>
    dsimp only
    by_cases hfolder : x.disk.isFolder ((x.disk.locate path).toOption.getD [""]) = true
    · rw [if_pos hfolder]
      rfl
    · rw [if_neg hfolder]
      rfl

/-- Making folders one after the other gives the disk that is left, also when not all can be
made. -/
theorem disk_edits_folders (fuel : Nat) (path : String) :
    (x.edits ((foldersOnWay x.disk fuel path).map fun p => (.folder, .makeFolder p))).disk =
      (Disk.makeFolders fuel x.disk path).1 := by
  induction fuel generalizing path with
  | zero => rfl
  | succ fuel ih =>
    rw [Disk.makeFolders, foldersOnWay]
    cases x.disk.find path with
    | ok e => cases e <;> rfl
    | error e =>
      cases Disk.parentPath? path with
      | none => exact disk_edit_makeLast x path
      | some parent =>
        have hparent := ih parent
        rw [Option.map_some]
        dsimp only
        rcases hmade : Disk.makeFolders fuel x.disk parent with ⟨made, e | _⟩
        · rw [List.append_nil, hparent, hmade]
        · rw [List.map_append, edits_append]
          exact (disk_edit_makeLast _ path).trans (by rw [hparent, hmade])

theorem disk_edits_withFolders (path : String) :
    (x.edits ((foldersOnWay x.disk (path.length + 1) path).map
      fun p => (.folder, .makeFolder p))).disk = x.disk.withFolders path :=
  disk_edits_folders _ path

theorem disk_edits_rendered (folder : String) (rendered : List Template.Rendered)
    (x : Watch.System Origin) : (x.edits (renderedEdits folder x.disk rendered)).disk =
    (writeRendered folder x.disk rendered).1 := by
  induction rendered generalizing x with
  | nil => rfl
  | cons r rest ih =>
    rw [renderedEdits, writeRendered]
    cases hwrite : x.disk.write (Path.join [folder, r.name]) r.content with
    | error e => rfl
    | ok d =>
      have hdisk :=
        disk_edit_write x (.written (Path.join [folder, r.name]))
          (Path.join [folder, r.name]) r.content
      rw [hwrite] at hdisk
      have hrest :=
        ih (x.edit (.written (Path.join [folder, r.name]))
          (.write (Path.join [folder, r.name]) r.content))
      rw [hdisk] at hrest
      exact hrest

theorem disk_edits_templates (draft : Draft) (x : Watch.System Origin) :
    (x.edits (draft.templateEdits x.disk)).disk = (draft.writeTemplates x.disk).1 := by
  unfold Draft.templateEdits Draft.writeTemplates
  cases draft.templates with
  | none => rfl
  | some folder =>
    dsimp only
    cases Template.renderAll (x.disk.source folder) draft.unit with
    | error e => rfl
    | ok rendered =>
      dsimp only
      rw [disk_edits_rendered]
      rcases writeRendered (Path.dir draft.path) x.disk rendered with ⟨d, result⟩
      cases result <;> rfl

theorem disk_edits_draft (draft : Draft) (x : Watch.System Origin) :
    (x.edits (draft.edits x.disk)).disk = (draft.write x.disk).1 := by
  unfold Draft.edits Draft.write
  dsimp only
  rw [edits_append]
  have hfolders := disk_edits_withFolders (x := x) (Path.dir draft.path)
  generalize x.edits _ = y at hfolders ⊢
  cases hensure : x.disk.ensureFolder (Path.dir draft.path) with
  | error e =>
    dsimp only
    rw [← hfolders]
    rfl
  | ok d₁ =>
    obtain rfl : d₁ = y.disk := (Disk.eq_withFolders_of_ensureFolder hensure).trans hfolders.symm
    dsimp only
    cases hwrite : y.disk.write draft.path draft.content with
    | error e => rfl
    | ok d₂ =>
      have hd₂ := disk_edit_write y (.written draft.path) draft.path draft.content
      rw [hwrite] at hd₂
      have htemplates :=
        disk_edits_templates draft (y.edit (.written draft.path) (.write draft.path draft.content))
      rw [hd₂] at htemplates
      exact htemplates

theorem disk_edits_generate (s : Session) (formats : Format.Register) (o : GenerateOptions)
    (x : Watch.System Origin) :
    (x.edits (s.generateEdits formats o x.disk)).disk = (s.generate formats o x.disk).1 := by
  unfold generateEdits generate
  rcases s.draft formats o x.disk with ⟨log, result⟩
  cases result with
  | error e => rfl
  | ok draft =>
    refine (disk_edits_draft draft x).trans ?_
    dsimp only

/-- The edits of a rebuild give the disk of the rebuild. -/
theorem disk_edits_rebuild (s : Session) (o : GenerateOptions) (x : Watch.System Origin) :
    (x.edits (s.rebuildEdits o x.disk)).disk = (s.rebuild o x.disk).2.1 := by
  unfold rebuildEdits rebuild
  cases s.reload x.disk with
  | error e => rfl
  | ok s =>
    refine (disk_edits_generate s Format.register o x).trans ?_
    dsimp only

/-! ## The paths of generated files -/

/-- What generating does: a file that it writes is the output or stands beside it. -/
def Generates (output : String) : Origin → Watch.Edit → Prop
  | .other, _ => False
  | .folder, edit => ∃ path, edit = .makeFolder path
  | .written path, edit =>
    (path = output ∨ ∃ name, path = Path.join [Path.dir output, name]) ∧
      ∃ content, edit = .write path content

theorem Generates.not_takes {output : String} {mark : Origin} {edit : Watch.Edit}
    (h : Generates output mark edit) : ¬ edit.Takes := by
  cases mark with
  | other => exact h.elim
  | folder =>
    obtain ⟨path, rfl⟩ := h
    exact id
  | written path =>
    obtain ⟨-, content, rfl⟩ := h
    exact id

theorem generates_renderedEdits (output : String) (rendered : List Template.Rendered) (d : Disk) :
    ∀ x ∈ renderedEdits (Path.dir output) d rendered, Generates output x.1 x.2 := by
  induction rendered generalizing d with
  | nil => simp [renderedEdits]
  | cons r rest ih =>
    intro x hx
    rw [renderedEdits] at hx
    split at hx
    · cases hx
    · rcases List.mem_cons.1 hx with rfl | hx
      · exact ⟨.inr ⟨r.name, rfl⟩, r.content, rfl⟩
      · exact ih _ x hx

theorem generates_draft (draft : Draft) (d : Disk) :
    ∀ x ∈ draft.edits d, Generates draft.path x.1 x.2 := by
  intro x hx
  unfold Draft.edits at hx
  rcases List.mem_append.1 hx with hx | hx
  · obtain ⟨p, -, rfl⟩ := List.mem_map.1 hx
    exact ⟨p, rfl⟩
  · split at hx
    · cases hx
    split at hx
    · cases hx
    rcases List.mem_cons.1 hx with rfl | hx
    · exact ⟨.inl rfl, draft.content, rfl⟩
    · unfold Draft.templateEdits at hx
      split at hx
      · cases hx
      split at hx
      · cases hx
      · exact generates_renderedEdits _ _ _ x hx

theorem not_takes_rebuildEdits (s : Session) (o : GenerateOptions) (d : Disk) :
    ∀ x ∈ s.rebuildEdits o d, ¬ x.2.Takes := by
  intro x hx
  unfold rebuildEdits at hx
  split at hx
  · cases hx
  unfold generateEdits at hx
  split at hx
  · cases hx
  · exact (generates_draft _ d x hx).not_takes

/-- The sessions work on one project with one configuration. -/
structure SameProject (s s' : Session) : Prop where
  folder : s'.folder = s.folder
  config : s'.config = s.config

theorem sameProject_rebuild (s : Session) (o : GenerateOptions) (d : Disk) :
    SameProject s (s.rebuild o d).1 := by
  unfold rebuild
  cases hreload : s.reload d with
  | error e => exact ⟨rfl, rfl⟩
  | ok s' =>
    obtain ⟨spec, -, hs'⟩ := Except.bind_eq_ok_iff.1 hreload
    cases hs'
    exact ⟨rfl, rfl⟩

/-- Where the output is written is decided by the configuration and the options. -/
theorem path_of_draft {formats : Format.Register} {draft : Draft}
    (h : (s.draft formats o d).2 = .ok draft) :
    ∃ t, formats.translator (s.formatName o) = .ok t ∧ draft.path = s.outputPath o t.extension := by
  unfold Session.draft at h
  dsimp only at h
  split at h
  · cases h
  · cases h
  · rename_i t templates ht htemplates
    refine ⟨t, ht, ?_⟩
    split at h
    · cases h
    · split at h
      · cases h
      · cases h
        rfl

theorem SameProject.path_eq (hs : SameProject s s') {formats : Format.Register}
    {draft draft' : Draft} (h : (s.draft formats o d).2 = .ok draft)
    (h' : (s'.draft formats o d').2 = .ok draft') : draft'.path = draft.path := by
  obtain ⟨t, ht, hpath⟩ := path_of_draft h
  obtain ⟨t', ht', hpath'⟩ := path_of_draft h'
  have hname : s'.formatName o = s.formatName o := by simp only [formatName, hs.config]
  rw [hname] at ht'
  cases ht.symm.trans ht'
  rw [hpath, hpath']
  simp only [outputPath, Session.path, hs.folder, hs.config]

theorem Draft.output_of_writeTemplates {draft : Draft} {g : Generated}
    (h : draft.writeTemplates d = (d', .ok g)) : g.output = draft.path := by
  unfold Draft.writeTemplates at h
  split at h
  · cases h
    rfl
  · split at h
    · cases h
    · dsimp only at h
      split at h
      · cases h
      · cases h
        rfl

theorem Draft.output_of_write {draft : Draft} {log : List Log.Entry} {g : Generated}
    (h : draft.write d = (d', log, .ok g)) : g.output = draft.path := by
  unfold Draft.write at h
  split at h
  · simp at h
  split at h
  · cases h
  rename_i d₂ hwrite
  rcases htemplates : draft.writeTemplates d₂ with ⟨d₃, result⟩
  rw [htemplates] at h
  cases h
  exact Draft.output_of_writeTemplates htemplates

theorem output_of_generate {formats : Format.Register} {log : List Log.Entry} {g : Generated}
    (h : s.generate formats o d = (d', log, .ok g)) :
    ∃ draft, (s.draft formats o d).2 = .ok draft ∧ g.output = draft.path := by
  unfold generate at h
  split at h
  · cases h
  · rename_i draft hdraft
    rcases hwrite : draft.write d with ⟨d₂, more, result⟩
    rw [hwrite] at h
    cases h
    exact ⟨draft, congrArg Prod.snd hdraft, Draft.output_of_write hwrite⟩

/-- A rebuild writes where the first generation wrote, or beside it. -/
theorem generates_rebuild {d₀ d₁ : Disk} {log : List Log.Entry} {g : Generated}
    (hfirst : s.generate Format.register o d₀ = (d₁, log, .ok g)) (hs : SameProject s s')
    (d : Disk) : ∀ x ∈ s'.rebuildEdits o d, Generates g.output x.1 x.2 := by
  obtain ⟨draft, hdraft, houtput⟩ := output_of_generate hfirst
  intro x hx
  unfold rebuildEdits at hx
  split at hx
  · cases hx
  rename_i s'' hreload
  unfold generateEdits at hx
  split at hx
  · cases hx
  rename_i draft' hdraft'
  have hs'' : SameProject s s'' := by
    obtain ⟨spec, -, hspec⟩ := Except.bind_eq_ok_iff.1 hreload
    cases hspec
    exact ⟨hs.folder, hs.config⟩
  rw [houtput, ← hs''.path_eq hdraft hdraft']
  exact generates_draft draft' d x hx

end Session

end PayloadGen
