import PayloadGen.Proofs.Dict
import PayloadGen.Proofs.Project.Rebuild

/-!
# Rebuilds that cause rebuilds

While a project is watched its files are generated again and again, and the folders in which they
are written may be watched too. A run of the project (`Session.Proceeds`) is a run of a watched disk
in which every event knows whether generating is behind it (`runs_of_proceeds`). The files that were
generated first are never heeded. A file that is generated later, from a template that was added
while the project was watched, is heeded like any other (`heeds_generated_file_iff`), so that a
rebuild can be the cause of the next one (`rebuilds_for_generated_file`).
-/

namespace PayloadGen.Session

open Text Relation

variable {s : Session} {o : GenerateOptions} {d : Disk}

/-! ## Runs of a watched project -/

/-- A project that is watched: the session, and the watched disk. -/
structure WatchedProject where
  session : Session
  system : Watch.System Origin

/-- What can happen next to a watched project. If a timer runs out and a rebuild is asked for, the
files are generated again, and what that does to the disk is told like all else. -/
inductive Proceeds (w : Watch.Watcher) (o : GenerateOptions) :
    WatchedProject → WatchedProject → Prop
  | edit (x : WatchedProject) (edit : Watch.Edit) :
    Proceeds w o x { x with system := x.system.edit .other edit }
  | handle {x : WatchedProject} {mark : Origin} {e : Watch.Event}
    {rest : List (Origin × Watch.Event)} :
    x.system.pending = (mark, e) :: rest →
      Proceeds w o x { x with system := x.system.handle w mark e }
  | signal (x : WatchedProject) {signal : Watch.Signal} : (∀ e, signal ≠ .event e) →
    (x.system.loop.step w x.system.disk signal).2.2 = false →
    Proceeds w o x { x with system := x.system.signal w signal }
  | rebuild (x : WatchedProject) {timer : Nat} :
    (x.system.loop.step w x.system.disk (.expiry timer)).2.2 = true →
    Proceeds w o x ⟨(x.session.rebuild o x.system.disk).1,
      (x.system.signal w (.expiry timer)).edits (x.session.rebuildEdits o x.system.disk)⟩

theorem proceeds_handleAll {w : Watch.Watcher} (session : Session) (events : List Watch.Event)
    (x : Watch.System Origin) (h : x.pending = events.map (.other, ·)) :
    ∃ cause, ReflTransGen (Proceeds w o) ⟨session, x⟩
      ⟨session, x.disk, (x.loop.heedAll w x.disk events).1, [], cause⟩ := by
  induction events generalizing x with
  | nil =>
    obtain ⟨disk, loop, pending, cause⟩ := x
    cases h
    exact ⟨cause, .refl⟩
  | cons e events ih =>
    obtain ⟨cause, hrest⟩ := ih (x.handle w .other e) (congrArg List.tail h)
    refine ⟨cause, .head (.handle h) ?_⟩
    rw [Watch.heedAll_fst] at hrest ⊢
    exact hrest

/-- An edit and the quiet period after it are a run of the project; what its rebuild is told of
waits at the end. -/
theorem proceeds_heed (x : Watching) (d : Disk) (edit : Watch.Edit) (cause : Option Origin) :
    ∃ t : WatchedProject, ReflTransGen (Proceeds x.watcher x.options) ⟨x.session, d, x.loop,
      [], cause⟩ t ∧
      t.session = (x.heed d edit).1.session ∧ t.system.disk = (x.heed d edit).2.1 ∧
      t.system.loop = (x.heed d edit).1.loop := by
  rcases happly : edit.apply d x.loop.registry with ⟨d', registry, events⟩
  rcases hheed : Watch.Loop.heedAll x.watcher d' { x.loop with registry } events with ⟨l, notes⟩
  have hedit : (⟨d, x.loop, [], cause⟩ : Watch.System Origin).edit .other edit =
      ⟨d', { x.loop with registry }, events.map (.other, ·), cause⟩ := by
    simp only [Watch.System.edit, happly, List.nil_append]
  obtain ⟨cause', hhandle⟩ := proceeds_handleAll (o := x.options) (w := x.watcher) x.session events
    ⟨d', { x.loop with registry }, events.map (.other, ·), cause⟩ rfl
  rw [hheed] at hhandle
  have hrun : ReflTransGen (Proceeds x.watcher x.options) ⟨x.session, d, x.loop, [], cause⟩
      ⟨x.session, d', l, [], cause'⟩ := .head (.edit _ edit) (hedit ▸ hhandle)
  unfold Watching.heed Watch.Loop.afterEdit
  rw [happly]
  dsimp only
  rw [hheed]
  dsimp only
  cases harmed : l.armed with
  | none => exact ⟨_, hrun, rfl, rfl, rfl⟩
  | some timer =>
    have hagain : (l.step x.watcher d' (.expiry timer)).2.2 = true := by
      simp [Watch.Loop.step, harmed]
    have hdisk := disk_edits_rebuild x.session x.options
      (Watch.System.signal x.watcher ⟨d', l, [], cause'⟩ (.expiry timer))
    have hloop :=
      Watch.loop_edits (Watch.System.signal x.watcher ⟨d', l, [], cause'⟩ (.expiry timer))
        (not_takes_rebuildEdits x.session x.options d')
    refine ⟨_, hrun.tail (.rebuild _ hagain), ?_⟩
    rcases hrebuild : x.session.rebuild x.options d' with ⟨session, d'', log, result⟩
    simp only [Watch.System.signal, hrebuild] at hdisk hloop ⊢
    simp only [hagain, Bool.not_true, Bool.false_eq_true, if_false]
    cases result with
    | error e => exact ⟨rfl, hdisk, hloop⟩
    | ok g => exact ⟨rfl, hdisk, hloop⟩

/-- There is a run of the project in which nobody carries a watch along. -/
abbrev ProceedsSteadily (w : Watch.Watcher) (o : GenerateOptions) :
    WatchedProject → WatchedProject → Prop :=
  ReflTransGen fun x x' => Proceeds w o x x' ∧ ¬ Watch.Carries x.system x'.system

/-- Somebody else edits as they like, and generating does what it does. -/
def mayEdit (output : String) (mark : Origin) (edit : Watch.Edit) : Prop :=
  mark = .other ∨ Generates output mark edit

variable {w : Watch.Watcher} {start t : WatchedProject} {d₀ : Disk} {log notes : List Log.Entry}
  {g : Generated}

/-- What generating does carries no watch along. -/
theorem runsWithout_carries_edits {es : List (Origin × Watch.Edit)}
    (h : ∀ e ∈ es, Generates g.output e.1 e.2) (x : Watch.System Origin) :
    Watch.RunsWithout w (mayEdit g.output) Watch.Carries x (x.edits es) := by
  induction es generalizing x with
  | nil => exact .refl
  | cons e es ih =>
    obtain ⟨he, hes⟩ := List.forall_mem_cons.1 h
    exact .head ⟨.edit x (.inr he), Watch.not_carries_edit he.not_takes⟩ (ih hes _)

/-- A run of the project is a run of its disk, in the hands of somebody else and of the
generator. -/
theorem runs_of_proceeds (hfirst : s.generate Format.register o d₀ = (d, log, .ok g))
    (hs : SameProject s start.session) (hrun : ProceedsSteadily w o start t) :
    SameProject s t.session ∧ Watch.RunsWithout w (mayEdit g.output) Watch.Carries start.system
      t.system := by
  induction hrun with
  | refl => exact ⟨hs, .refl⟩
  | @tail x x' _ hstep ih =>
    obtain ⟨hs, hruns⟩ := ih
    obtain ⟨hstep, hcarries⟩ := hstep
    cases hstep with
    | edit edit => exact ⟨hs, hruns.tail ⟨.edit _ (.inl rfl), hcarries⟩⟩
    | handle hpending => exact ⟨hs, hruns.tail ⟨.handle hpending, hcarries⟩⟩
    | signal hsignal _ => exact ⟨hs, hruns.tail ⟨.signal _ hsignal, hcarries⟩⟩
    | @rebuild timer hagain =>
      have hsame := sameProject_rebuild x.session o x.system.disk
      refine ⟨⟨hsame.folder.trans hs.folder, hsame.config.trans hs.config⟩, ?_⟩
      have hexpiry :
          Watch.Happens w (mayEdit g.output) x.system (x.system.signal w (.expiry timer)) :=
        .signal _ fun e h => by cases h
      refine (hruns.tail ⟨hexpiry, Watch.not_carries ?_⟩).trans
        (runsWithout_carries_edits (generates_rebuild hfirst hs x.system.disk) _)
      simp only [Watch.System.signal, Watch.Loop.step]
      split <;> rfl

theorem begins_watch {x : Watching} (h : s.watch o d g = (notes, .ok x)) :
    x.watcher.ignored = g.paths.map d.absolutePath ∧
      Watch.Begins x.watcher (⟨d, x.loop, [], none⟩ : Watch.System Origin) := by
  unfold watch at h
  dsimp only at h
  rcases hadd : Watch.Registry.empty.addTrees d (s.watcher d g).folders with
    ⟨registry, told, result⟩
  rw [hadd] at h
  cases result with
  | error e => cases h
  | ok _ =>
    cases h
    exact ⟨rfl, congrArg (fun r => Watch.Loop.start r.1) hadd.symm, rfl, rfl⟩

/-- The file asks for a rebuild, and it is none of the files that were generated first. -/
def Overlooked (d : Disk) (g : Generated) (path : String) : Prop :=
  Watch.isRelevant (d.absolutePath path) = true ∧ d.absolutePath path ∉ g.paths.map d.absolutePath

/-- An event of a file that generating wrote is heeded if the file is overlooked, and otherwise
not. -/
theorem heeds_iff_overlooked {d' : Disk} {path : String} {content : Bytes} {e : Watch.Event}
    (hhere : d'.here = d.here) (hignored : w.ignored = g.paths.map d.absolutePath)
    (h : (Watch.Edit.write path content).Tells d' e) :
    w.heeds d' e = true ↔ Overlooked d g path := by
  obtain ⟨hplace, hcounts⟩ := h
  rw [Disk.placeOf_congr hhere, Disk.placeOf_congr hhere] at hplace
  rw [Watch.heeds_congr hhere, Watch.heeds_iff, hignored, hplace, ← Disk.absolutePath_eq]
  exact ⟨fun h => ⟨h.2.2, h.2.1⟩, fun h => ⟨hcounts, h.2, h.1⟩⟩

/-- **Which rebuilds a rebuild can cause.** In every run of a watched project in which nobody
carries a watch along, an event of a file that generating wrote is heeded just if the file asks for
a rebuild and is none of those that were generated first; so the output itself is never heeded. And
whenever a rebuild is to come, it is known for what: for something that somebody else did, for a new
folder or for such a file. -/
theorem heeds_generated_file_iff {x : Watching}
    (hfirst : s.generate Format.register o d₀ = (d, log, .ok g))
    (hwatch : s.watch o d g = (notes, .ok x))
    (hrun : ProceedsSteadily x.watcher o ⟨s, d, x.loop, [], none⟩ t) :
    (∀ path e, (.written path, e) ∈ t.system.pending →
      (path = g.output ∨ ∃ name, path = Path.join [Path.dir g.output, name]) ∧
      (x.watcher.heeds t.system.disk e = true ↔ Overlooked d g path)) ∧
    (∀ path, t.system.cause = some (.written path) → Overlooked d g path) ∧
    (t.system.loop.armed.isSome → t.system.cause.isSome) := by
  obtain ⟨hignored, hbegins⟩ := begins_watch hwatch
  obtain ⟨-, hruns⟩ := runs_of_proceeds hfirst ⟨rfl, rfl⟩ hrun
  have hhere : t.system.disk.here = d.here := (Watch.RunsWithout.runs hruns).here
  have htold := Watch.told_of_runsWithout_carries hbegins hruns
  refine ⟨fun path e he => ?_, fun path hcause => ?_,
    Watch.cause_of_armed hbegins (Watch.RunsWithout.runs hruns)⟩
  · obtain ⟨edit, hmay, htells⟩ := htold.pending _ he
    obtain ⟨hpath, content, rfl⟩ := hmay.resolve_left (by simp)
    exact ⟨hpath, heeds_iff_overlooked hhere hignored htells⟩
  · obtain ⟨e, edit, hheeds, hmay, htells⟩ := htold.cause _ hcause
    obtain ⟨-, content, rfl⟩ := hmay.resolve_left (by simp)
    exact (heeds_iff_overlooked hhere hignored htells).1 hheeds

/-! ## An example -/

/-- A project whose output stands beside its document. -/
def shelfProject : Session where
  folder := "/shelf"
  config := ⟨1, "shelf.yml", "types.json", "markdown", "", "templates", 1, ⟨"", "", "", "", .empty⟩⟩
  spec := ⟨"2.6.0", ⟨"", "", ""⟩, [], []⟩

/-- The disk of the project, with a folder for templates that has none. -/
def shelfDisk : Disk :=
  .ofListing
    [(["shelf"], .folder), (["shelf", "shelf.yml"], .file (utf8 "asyncapi: 2.6.0\n")),
      (["shelf", "templates"], .folder)]
    ["shelf"] rfl

/-- Nothing is overridden. -/
def shelfOptions : GenerateOptions := ⟨"", "", "", none⟩

/-- The disk after the files were generated first. -/
def shelfMade : Disk := (shelfProject.generate Format.register shelfOptions shelfDisk).1

/-- The watcher of the project. -/
def shelfWatcher : Watch.Watcher := ⟨["/shelf", "/shelf/templates"], ["/shelf/types.json"]⟩

/-- Both folders are registered. -/
def shelfLoop : Watch.Loop :=
  .start (Watch.Registry.empty.addAll shelfMade ["/shelf", "/shelf/templates"]).1

/-- Watching begins. -/
def shelfStart : WatchedProject := ⟨shelfProject, shelfMade, shelfLoop, [], none⟩

/-- A template is added. -/
def shelfAdded : WatchedProject :=
  { shelfStart with system := shelfStart.system.edit .other (.write "templates/new.json.tmpl" []) }

/-- The event of the template is handled. -/
def shelfTold : WatchedProject :=
  { shelfAdded with
    system :=
      shelfAdded.system.handle shelfWatcher .other ⟨"/shelf/templates/new.json.tmpl", .create⟩ }

/-- The files are generated again, with one more. -/
def shelfRebuilt : WatchedProject :=
  ⟨(shelfTold.session.rebuild shelfOptions shelfTold.system.disk).1,
    (shelfTold.system.signal shelfWatcher (.expiry 0)).edits
      (shelfTold.session.rebuildEdits shelfOptions shelfTold.system.disk)⟩

/-- The event of the output is handled. -/
def shelfPassed : WatchedProject :=
  { shelfRebuilt with
    system :=
      shelfRebuilt.system.handle shelfWatcher (.written "/shelf/types.json")
        ⟨"/shelf/types.json", .write⟩ }

/-- The event of the new file is handled. -/
def shelfHeeded : WatchedProject :=
  { shelfPassed with
    system :=
      shelfPassed.system.handle shelfWatcher (.written "/shelf/new.json")
        ⟨"/shelf/new.json", .create⟩ }

theorem treeFolders_shelfMade :
    Watch.treeFolders shelfMade "/shelf" = .ok ["/shelf", "/shelf/templates"] := by
  obtain ⟨hplace, hentries, hfolder, hfound, hbelow⟩ :
      (shelfMade.locate "/shelf").toOption = some ["shelf"] ∧
      shelfMade.entries.length = 4 ∧ shelfMade.isFolder ["shelf"] = true ∧
      (shelfMade.entries.filterMap fun e => if e.1.dropLast == ["shelf"] then e.1.getLast?
        else none) =
        ["shelf.yml", "templates", "types.json"] ∧
      (["shelf.yml", "templates", "types.json"].flatMap fun name =>
        if Watch.passedOver.contains name then [] else
          Watch.foldersFrom shelfMade 4 (Path.join ["/shelf", name]) (["shelf"] ++ [name])) =
            ["/shelf/templates"] := by
    decide +kernel
  have hnames : shelfMade.names ["shelf"] = ["shelf.yml", "templates", "types.json"] := by
    rw [Disk.names, hfound, sortTexts_of_pairwise (by decide +kernel)]
  have hentry : (shelfMade.entryAt? ["shelf"]).isSome := by rw [Disk.isFolder_iff.1 hfolder]; rfl
  rw [Watch.treeFolders_eq_ok_of_entry (Except.toOption_eq_some_iff.1 hplace) hentry, hentries,
    Watch.foldersFrom, if_pos hfolder, hnames, hbelow]

theorem watch_shelfProject (hg : g.paths = ["/shelf/types.json"]) : ∃ notes,
    shelfProject.watch shelfOptions shelfMade g =
      (notes, .ok ⟨shelfProject, shelfOptions, shelfWatcher, shelfLoop⟩) := by
  have hwatcher : shelfProject.watcher shelfMade g = shelfWatcher := by
    have hfolders : Path.dir (shelfProject.path shelfProject.config.spec) = "/shelf" := by
      decide +kernel
    have htemplates : shelfProject.path shelfProject.config.templates = "/shelf/templates" := by
      decide +kernel
    have hignored : shelfMade.absolutePath "/shelf/types.json" = "/shelf/types.json" := by
      decide +kernel
    simp only [watcher, hg, hfolders, htemplates, List.map_cons, List.map_nil, hignored]
    rfl
  have htemplates : Watch.treeFolders shelfMade "/shelf/templates" = .ok ["/shelf/templates"] :=
    Except.toOption_eq_some_iff.1 (by decide +kernel)
  -- The second tree is part of the first, so that it is registered already.
  have hseen : (shelfLoop.registry.addAll shelfMade ["/shelf/templates"]).1 =
      shelfLoop.registry := by
    rw [Watch.Registry.addAll_fst]
    exact Watch.Registry.add_of_mem (by decide +kernel)
  obtain ⟨notes, hadd⟩ : ∃ notes, Watch.Registry.empty.addTrees shelfMade shelfWatcher.folders =
      (shelfLoop.registry, notes, .ok ()) := by
    rw [shelfWatcher, Watch.Registry.addTrees_cons (by decide) treeFolders_shelfMade,
      Watch.Registry.addTrees_cons (by decide) htemplates]
    exact ⟨_, Prod.ext hseen rfl⟩
  unfold watch
  dsimp only
  rw [hwatcher, hadd]
  exact ⟨_, rfl⟩

theorem generate_shelfProject : ∃ log g, g.paths = ["/shelf/types.json"] ∧
    shelfProject.generate Format.register shelfOptions shelfDisk = (shelfMade, log, .ok g) := by
  have hresult :
      (shelfProject.generate Format.register shelfOptions shelfDisk).2.2.toOption.map (·.paths) =
      some ["/shelf/types.json"] := by decide +kernel
  obtain ⟨g, hg, hpaths⟩ := Option.map_eq_some_iff.1 hresult
  refine ⟨_, g, hpaths, Prod.ext rfl (Prod.ext rfl ?_)⟩
  exact Except.toOption_eq_some_iff.1 hg

/-- What happens in the run, seen at the events that wait and at the watches. -/
theorem shelf_facts :
    shelfAdded.system.pending = [(.other, ⟨"/shelf/templates/new.json.tmpl", .create⟩)] ∧
    shelfTold.system.loop.registry.watches = shelfAdded.system.loop.registry.watches ∧
    (shelfTold.system.loop.step shelfWatcher shelfTold.system.disk (.expiry 0)).2.2 = true ∧
    shelfRebuilt.system.loop.registry.watches = shelfTold.system.loop.registry.watches ∧
    shelfRebuilt.system.pending = [(.written "/shelf/types.json", ⟨"/shelf/types.json", .write⟩),
      (.written "/shelf/new.json", ⟨"/shelf/new.json", .create⟩)] ∧
    shelfPassed.system.loop.registry.watches = shelfRebuilt.system.loop.registry.watches ∧
    shelfPassed.system.pending = [(.written "/shelf/new.json", ⟨"/shelf/new.json", .create⟩)] ∧
    shelfHeeded.system.loop.registry.watches = shelfPassed.system.loop.registry.watches ∧
    shelfWatcher.heeds shelfPassed.system.disk ⟨"/shelf/new.json", .create⟩ = true ∧
    shelfHeeded.system.cause = some (.written "/shelf/new.json") ∧
    (shelfHeeded.system.loop.step shelfWatcher shelfHeeded.system.disk (.expiry 1)).2.2 = true := by
  decide +kernel

theorem proceeds_shelfRebuilt :
    ProceedsSteadily shelfWatcher shelfOptions shelfStart shelfRebuilt := by
  obtain ⟨hadded, htold, hagain, hrebuilt, -⟩ := shelf_facts
  have hadd : Proceeds shelfWatcher shelfOptions shelfStart shelfAdded := .edit _ _
  have hhandle : Proceeds shelfWatcher shelfOptions shelfAdded shelfTold := .handle hadded
  have hrebuild : Proceeds shelfWatcher shelfOptions shelfTold shelfRebuilt := .rebuild _ hagain
  exact .tail (.tail (.single ⟨hadd, Watch.not_carries_edit id⟩) ⟨hhandle, Watch.not_carries htold⟩)
    ⟨hrebuild, Watch.not_carries hrebuilt⟩

theorem proceeds_shelfHeeded :
    ProceedsSteadily shelfWatcher shelfOptions shelfStart shelfHeeded := by
  obtain ⟨-, -, -, -, hrebuilt, houtput, hpassed, hnew, -⟩ := shelf_facts
  have hpass : Proceeds shelfWatcher shelfOptions shelfRebuilt shelfPassed := .handle hrebuilt
  have hheed : Proceeds shelfWatcher shelfOptions shelfPassed shelfHeeded := .handle hpassed
  exact (proceeds_shelfRebuilt.tail ⟨hpass, Watch.not_carries houtput⟩).tail
    ⟨hheed, Watch.not_carries hnew⟩

/-- The output is written again, and this is not heeded, though the name of the output asks for a
rebuild. -/
theorem heeds_generated_file_iff_shelfRebuilt : ∃ log notes g,
    shelfProject.generate Format.register shelfOptions shelfDisk = (shelfMade, log, .ok g) ∧
      shelfProject.watch shelfOptions shelfMade g =
        (notes, .ok ⟨shelfProject, shelfOptions, shelfWatcher, shelfLoop⟩) ∧
      ProceedsSteadily shelfWatcher shelfOptions shelfStart shelfRebuilt ∧
      (.written "/shelf/types.json", ⟨"/shelf/types.json", .write⟩) ∈ shelfRebuilt.system.pending ∧
      Watch.isRelevant "/shelf/types.json" = true ∧
      shelfWatcher.heeds shelfRebuilt.system.disk ⟨"/shelf/types.json", .write⟩ = false := by
  obtain ⟨log, g, hpaths, hfirst⟩ := generate_shelfProject
  obtain ⟨notes, hwatch⟩ := watch_shelfProject hpaths
  have hpending : (.written "/shelf/types.json", ⟨"/shelf/types.json", .write⟩) ∈
      shelfRebuilt.system.pending := by
    obtain ⟨-, -, -, -, hrebuilt, -⟩ := shelf_facts
    rw [hrebuilt]
    exact List.mem_cons_self
  refine ⟨log, notes, g, hfirst, hwatch, proceeds_shelfRebuilt, hpending, by decide +kernel, ?_⟩
  obtain ⟨hpendings, -, -⟩ := heeds_generated_file_iff hfirst hwatch proceeds_shelfRebuilt
  refine Bool.eq_false_iff.2 fun hheeds => ?_
  have hoverlooked := (hpendings _ _ hpending).2.1 hheeds
  exact hoverlooked.2 (by simp [hpaths])

/-- A rebuild writes a file that was not there before, and the next rebuild is for that file and
nothing else. -/
theorem rebuilds_for_generated_file : ∃ log notes g,
    shelfProject.generate Format.register shelfOptions shelfDisk = (shelfMade, log, .ok g) ∧
      shelfProject.watch shelfOptions shelfMade g =
        (notes, .ok ⟨shelfProject, shelfOptions, shelfWatcher, shelfLoop⟩) ∧
      ProceedsSteadily shelfWatcher shelfOptions shelfStart shelfHeeded ∧
      shelfPassed.system.pending = [(.written "/shelf/new.json", ⟨"/shelf/new.json", .create⟩)] ∧
      shelfWatcher.heeds shelfPassed.system.disk ⟨"/shelf/new.json", .create⟩ = true ∧
      shelfHeeded.system.cause = some (.written "/shelf/new.json") ∧
      (shelfHeeded.system.loop.step shelfWatcher shelfHeeded.system.disk (.expiry 1)).2.2 =
        true := by
  obtain ⟨log, g, hpaths, hfirst⟩ := generate_shelfProject
  obtain ⟨notes, hwatch⟩ := watch_shelfProject hpaths
  obtain ⟨-, -, -, -, -, -, hpassed, -, hheeds⟩ := shelf_facts
  exact ⟨log, notes, g, hfirst, hwatch, proceeds_shelfHeeded, hpassed, hheeds⟩

end PayloadGen.Session
