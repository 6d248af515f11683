import PayloadGen.Proofs.Watch.Run

/-!
# New folders are watched

When the event of a new folder is handled, the folder and the folders in it are registered with
their paths. What has been registered before gets no new watch, and that is how a folder can be
forgotten: its watch ended when it was removed or renamed, and its path is registered still
(`forgets_folder`). In every run that is the only reason for which a folder of the new tree is not
watched afterwards (`watches_new_folder`).
-/

namespace PayloadGen.Watch

open PayloadGen Relation

variable {α : Type} {w : Watcher} {d : Disk} {e : Event} {folder : String}

/-- The folder that an event brings is where the event says. -/
theorem newFolder?_eq_some (h : e.newFolder? d = some folder) :
    folder = e.path ∧ ∃ place, d.locate folder = .ok place ∧ d.entryAt? place = some .folder := by
  unfold Event.newFolder? at h
  split at h
  · rename_i hfind
    obtain rfl := Option.some.inj h
    obtain ⟨place, hplace, hentry⟩ := Except.bind_eq_ok_iff.1 hfind
    refine ⟨rfl, place, hplace, ?_⟩
    split at hentry
    · rename_i hsome
      rw [hsome, Except.ok.inj hentry]
    · cases hentry
  · cases h

/-- The folders of a new tree are registered. -/
theorem registry_step_of_newFolder {l : Loop} {paths : List String}
    (hnew : e.newFolder? d = some folder) (hname : Path.base folder ∉ passedOver)
    (htree : treeFolders d folder = .ok paths) :
    (l.step w d (.event e)).1.registry = (l.registry.addAll d paths).1 := by
  have hpassed : ¬ passedOver.contains (Path.base folder) = true :=
    fun h => hname (List.contains_iff_mem.1 h)
  simp only [Loop.step, Loop.heed, hnew, Loop.enter, if_neg hpassed,
    Registry.addTree_of_treeFolders htree]

/-- **New folders are watched unless their watch was lost.** In every run, if the next event brings
a folder that is not passed over, then handling it leaves the folder and each folder below it
watched, as far as no name on the way is passed over, unless its path was registered before and it
is not watched already. That is not so in a run in which no edit that removes or renames ended the
watch of the folder. -/
theorem watches_new_folder {may : α → Edit → Prop} {start s : System α} {mark : α}
    {rest : List (α × Event)} (hstart : Begins w start) (hrun : Runs w may start s)
    (hpending : s.pending = (mark, e) :: rest) (hnew : e.newFolder? s.disk = some folder)
    (hname : Path.base folder ∉ passedOver) :
    Runs w may start (s.handle w mark e) ∧
    ∃ place, s.disk.locate folder = .ok place ∧
      ∀ names, (∀ n ∈ names, n ∉ passedOver) → s.disk.isFolder (place ++ names) = true →
        ((s.handle w mark e).Watches (place ++ names) ↔
          s.Watches (place ++ names) ∨ treePath folder names ∉ s.loop.registry.seen) ∧
        (RunsWithout w may (Ends (place ++ names)) start s →
          (s.handle w mark e).Watches (place ++ names)) := by
  obtain ⟨-, place, hplace, hfolder⟩ := newFolder?_eq_some hnew
  have htree := treeFolders_eq_ok_of_entry hplace (by simp [hfolder])
  refine ⟨hrun.tail (.handle hpending), place, hplace, fun names hnames hentry => ?_⟩
  have hentry := Disk.isFolder_iff.1 hentry
  have hleads := placeOf_treePath hplace hentry
  have hafter : (s.handle w mark e).Watches (place ++ names) ↔
      s.Watches (place ++ names) ∨ treePath folder names ∉ s.loop.registry.seen := by
    have hwatches := Registry.watches_addAll (r := s.loop.registry) (q := place ++ names)
      (Registry.exists_locate_of_mem_treeFolders htree)
    rw [← registry_step_of_newFolder (w := w) hnew hname htree] at hwatches
    refine hwatches.trans (or_congr_right ⟨?_, fun hseen => ?_⟩)
    · -- two folders of the tree with one place have the same names on the way, and so one path
      rintro ⟨p, hp, hseen, hsame⟩
      obtain ⟨names', -, hentry', rfl⟩ := (mem_treeFolders hplace htree).1 hp
      rw [placeOf_treePath hplace hentry', List.append_cancel_left_eq] at hsame
      rwa [← hsame]
    · exact ⟨_, (mem_treeFolders hplace htree).2 ⟨names, hnames, hentry, rfl⟩, hseen, hleads⟩
  refine ⟨hafter, fun hkept => hafter.2 ?_⟩
  by_cases hseen : treePath folder names ∈ s.loop.registry.seen
  · exact .inl (held_of_runsWithout_ends hstart hkept _ hseen hleads)
  · exact .inr hseen

/-! ## An example -/

/-- A watcher of one folder. -/
def apiWatcher : Watcher := ⟨["api"], []⟩

/-- The folder, with another one in it. -/
def apiDisk : Disk :=
  .ofListing [(["p"], .folder), (["p", "api"], .folder), (["p", "api", "sub"], .folder)] ["p"] rfl

/-- Watching begins. -/
def apiStart : System Unit :=
  ⟨apiDisk, .start (Registry.empty.addTrees apiDisk apiWatcher.folders).1, [], none⟩

theorem begins_apiStart : Begins apiWatcher apiStart where
  loop := rfl
  pending := rfl
  cause := rfl

/-- A folder is made inside, and one inside that before the event of the first is handled. -/
def apiDeep : System Unit :=
  (apiStart.edit () (.makeFolder "api/new")).edit () (.makeFolder "api/new/deep")

/-- Both folders are watched once that event has been handled. -/
theorem watches_new_folder_apiDeep :
    Begins apiWatcher apiStart ∧ Runs apiWatcher (fun _ _ => True) apiStart apiDeep ∧
      Event.newFolder? apiDeep.disk ⟨"api/new", .create⟩ = some "api/new" ∧
      ∀ names ∈ [[], ["deep"]],
        (apiDeep.handle apiWatcher () ⟨"api/new", .create⟩).Watches
          (["p", "api", "new"] ++ names) := by
  have hrun : Runs apiWatcher (fun _ _ => True) apiStart apiDeep :=
    .tail (.single (.edit _ trivial)) (.edit _ trivial)
  have hpending : apiDeep.pending = ((), ⟨"api/new", .create⟩) :: [] := by decide +kernel
  have hnew : Event.newFolder? apiDeep.disk ⟨"api/new", .create⟩ = some "api/new" := by
    decide +kernel
  have hplace : (apiDeep.disk.locate "api/new").toOption = some ["p", "api", "new"] := by
    decide +kernel
  obtain ⟨-, place, hlocate, hwatches⟩ :=
    watches_new_folder begins_apiStart hrun hpending hnew (by decide +kernel)
  obtain rfl := Except.ok.inj ((Except.toOption_eq_some_iff.1 hplace).symm.trans hlocate)
  refine ⟨begins_apiStart, hrun, hnew, fun names hnames => ?_⟩
  have hcases : (∀ n ∈ names, n ∉ passedOver) ∧
      apiDeep.disk.isFolder (["p", "api", "new"] ++ names) = true ∧
      treePath "api/new" names ∉ apiDeep.loop.registry.seen := by
    revert names
    decide +kernel
  obtain ⟨hpassed, hfolder, hseen⟩ := hcases
  exact (hwatches names hpassed hfolder).1.2 (.inr hseen)

/-- The folder inside is removed. -/
def apiRemoved : System Unit := apiStart.edit () (.remove "api/sub")

/-- The removal is handled, and then the folder is made again. -/
def apiAgain : System Unit :=
  (apiRemoved.handle apiWatcher () ⟨"api/sub", .remove⟩).edit () (.makeFolder "api/sub")

/-- A folder that is removed and made again is not watched any more. -/
theorem forgets_folder :
    Begins apiWatcher apiStart ∧ Runs apiWatcher (fun _ _ => True) apiStart apiAgain ∧
      apiAgain.pending = [((), ⟨"api/sub", .create⟩)] ∧
      Event.newFolder? apiAgain.disk ⟨"api/sub", .create⟩ = some "api/sub" ∧
      "sub" ∉ passedOver ∧ apiAgain.disk.isFolder ["p", "api", "sub"] = true ∧
      (apiAgain.handle apiWatcher () ⟨"api/sub", .create⟩).loop.registry.watch?
        ["p", "api", "sub"] = none := by
  have hremoved : apiRemoved.pending = [((), ⟨"api/sub", .remove⟩)] := by decide +kernel
  refine ⟨begins_apiStart, ?_, by decide +kernel, by decide +kernel, by decide, by decide +kernel,
    by decide +kernel⟩
  exact .tail (.tail (.single (.edit _ trivial)) (.handle hremoved)) (.edit _ trivial)

end PayloadGen.Watch
