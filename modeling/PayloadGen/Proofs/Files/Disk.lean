import Mathlib.Data.List.DropRight
import PayloadGen.Files.Disk
import PayloadGen.Proofs.Except

/-!
# What the operations of a disk change

A file is written at the place to which its path leads, and everything else stays
(`exists_place_of_write`). Making folders adds folders on the way to a path, where nothing was
before, and changes nothing else (`Disk.AddsFolders`). Paths that lead somewhere still lead there
when every folder stays a folder (`locate_eq_ok`), so a file that was written is read back
(`read_of_write`).
-/

namespace PayloadGen.Disk

open Text

variable {d d' d'' : Disk}

/-! ## Entries -/

theorem entryAt?_put {p : Place} (h : d.entries.Admits p) (e : DiskEntry) (q : Place) :
    (d.put p e h).entryAt? q = if q = p then some e else d.entryAt? q :=
  Listing.entryAt?_put (Listing.ne_nil_of_not_folder h.free) e q

@[simp] theorem here_put {p : Place} (h : d.entries.Admits p) (e : DiskEntry) :
    (d.put p e h).here = d.here := rfl

/-! ## Paths -/

/-- Folders of the first disk are folders of the second, in which relative paths begin at the same
place. -/
structure KeepsFolders (d d' : Disk) : Prop where
  here : d'.here = d.here
  folder : ∀ q, d.entryAt? q = some .folder → d'.entryAt? q = some .folder

theorem KeepsFolders.walk_eq_ok (h : KeepsFolders d d') {p q : Place} {parts : List String}
    (hwalk : d.walk p parts = .ok q) : d'.walk p parts = .ok q := by
  induction parts generalizing p with
  | nil => exact hwalk
  | cons part parts ih =>
    rw [walk] at hwalk ⊢
    split at hwalk
    · cases hwalk
    · cases hwalk
    · rename_i hfolder
      rw [h.folder p hfolder]
      dsimp only
      split at hwalk
      · rename_i hstay
        rw [if_pos hstay]
        exact ih hwalk
      rename_i hstay
      rw [if_neg hstay]
      split at hwalk
      · rename_i hup
        rw [if_pos hup]
        exact ih hwalk
      rename_i hup
      rw [if_neg hup]
      split at hwalk
      · cases hwalk
      rename_i hlong
      rw [if_neg hlong]
      exact ih hwalk

theorem KeepsFolders.locate_eq_ok (h : KeepsFolders d d') {path : String} {q : Place}
    (hlocate : d.locate path = .ok q) : d'.locate path = .ok q := by
  unfold locate at hlocate ⊢
  split at hlocate
  · cases hlocate
  split at hlocate
  · cases hlocate
  rename_i hempty hnull
  rw [if_neg hempty, if_neg hnull, h.here]
  exact h.walk_eq_ok hlocate

theorem keepsFolders_put {p : Place} (h : d.entries.Admits p) (e : DiskEntry) :
    KeepsFolders d (d.put p e h) where
  here := rfl
  folder q hq := by
    have hne : q ≠ p := by
      rintro rfl
      exact h.free hq
    rw [entryAt?_put, if_neg hne, hq]

/-! ## Files -/

theorem exists_place_of_write {path : String} {content : Bytes}
    (h : d.write path content = .ok d') :
    ∃ p, d.locate path = .ok p ∧ ∃ hp : d.entries.Admits p, d' = d.put p (.file content) hp := by
  unfold write at h
  dsimp only at h
  split at h
  · cases h
  · rename_i p hp
    split at h
    · cases h
    · rename_i hfolder
      split at h
      · rename_i hparent
        exact ⟨p, hp, admits_of_locate hp hfolder hparent, (Except.ok.inj h).symm⟩
      · cases h

/-- A file that was written is read back. -/
theorem read_of_write {path : String} {content : Bytes} (h : d.write path content = .ok d') :
    d'.read path = .ok content := by
  obtain ⟨p, hlocate, hp, rfl⟩ := exists_place_of_write h
  have hfind : (d.put p (.file content) hp).find path = .ok (.file content) := by
    have hfile : (d.put p (.file content) hp).entryAt? p = some (.file content) := by
      rw [entryAt?_put, if_pos rfl]
    have hlocate := (keepsFolders_put hp (.file content)).locate_eq_ok hlocate
    simp [find, hlocate, hfile, bind, Except.bind]
  rw [read, hfind]

/-! ## Folders -/

/-- The second disk is the first with new folders, to each of which a front of the path leads. -/
structure AddsFolders (path : String) (d d' : Disk) : Prop where
  here : d'.here = d.here
  entry : ∀ q, d'.entryAt? q = d.entryAt? q ∨
    d.entryAt? q = none ∧ d'.entryAt? q = some .folder ∧
      ∃ front : String, front.toList <+: path.toList ∧ d'.locate front = .ok q

namespace AddsFolders

variable {path : String}

theorem refl : AddsFolders path d d := ⟨rfl, fun _ => .inl rfl⟩

theorem keepsFolders (h : AddsFolders path d d') : KeepsFolders d d' where
  here := h.here
  folder q hq := by
    obtain heq | ⟨hnone, hfolder, -⟩ := h.entry q
    · rw [heq, hq]
    · exact hfolder

theorem trans {parent : String} (hparent : parent.toList <+: path.toList)
    (h : AddsFolders parent d d') (h' : AddsFolders path d' d'') : AddsFolders path d d'' where
  here := h'.here.trans h.here
  entry q := by
    obtain heq | ⟨hnone, hfolder, front, hfront, hlocate⟩ := h'.entry q
    · obtain heq' | ⟨hnone, hfolder, front, hfront, hlocate⟩ := h.entry q
      · exact .inl (heq.trans heq')
      · exact .inr ⟨hnone, heq.trans hfolder, front, hfront.trans hparent,
          h'.keepsFolders.locate_eq_ok hlocate⟩
    · obtain heq' | ⟨-, hfolder', -⟩ := h.entry q
      · exact .inr ⟨heq' ▸ hnone, hfolder, front, hfront, hlocate⟩
      · rw [hfolder'] at hnone
        cases hnone

end AddsFolders

theorem exists_place_of_makeFolder {path : String} (h : d.makeFolder path = .ok d') :
    ∃ p, d.locate path = .ok p ∧ d.entryAt? p = none ∧
      ∃ hp : d.entries.Admits p, d' = d.put p .folder hp := by
  unfold makeFolder at h
  dsimp only at h
  split at h
  · cases h
  rename_i p hp
  split at h
  · cases h
  rename_i hentry
  split at h
  · exact ⟨p, hp, by simpa using hentry, _, (Except.ok.inj h).symm⟩
  · cases h

theorem addsFolders_of_makeFolder {path : String} (h : d.makeFolder path = .ok d') :
    AddsFolders path d d' := by
  obtain ⟨p, hlocate, hnone, hp, rfl⟩ := exists_place_of_makeFolder h
  refine ⟨rfl, fun q => ?_⟩
  rw [entryAt?_put]
  split
  · rename_i hq
    subst hq
    exact .inr ⟨hnone, rfl, path, List.prefix_rfl, (keepsFolders_put hp _).locate_eq_ok hlocate⟩
  · exact .inl rfl

theorem addsFolders_of_makeMissing {path : String} (h : d.makeMissing path = .ok d') :
    AddsFolders path d d' := by
  unfold makeMissing at h
  split at h
  · obtain rfl := Except.ok.inj h
    exact addsFolders_of_makeFolder ‹_›
  · split at h
    · obtain rfl := Except.ok.inj h
      exact .refl
    · cases h

theorem addsFolders_makeLast (d : Disk) (path : String) :
    AddsFolders path d (d.makeLast path).1 := by
  unfold makeLast
  split
  · exact addsFolders_of_makeMissing ‹_›
  · exact .refl

theorem parentPath?_isFront {path parent : String} (h : parentPath? path = some parent) :
    parent.toList <+: path.toList := by
  unfold parentPath? at h
  dsimp only at h
  split at h
  · cases h
  · obtain rfl := Option.some.inj h
    rw [String.toList_ofList]
    -- the path without slashes at its end, without its last part, without the slash before that
    have hbody := List.rdropWhile_prefix (· == '/') path.toList
    have hfront := List.rdropWhile_prefix (· != '/') (trimRightWhere (· == '/') path.toList)
    exact ((List.dropLast_prefix _).trans hfront).trans hbody

/-- Folders are made along a path from its front, also when not all of them can be made. -/
theorem addsFolders_makeFolders (fuel : Nat) (d : Disk) (path : String) :
    AddsFolders path d (makeFolders fuel d path).1 := by
  induction fuel generalizing d path with
  | zero => exact .refl
  | succ fuel ih =>
    rw [makeFolders]
    split
    · exact .refl
    · exact .refl
    split
    · rename_i made e hmade
      obtain ⟨parent, hparent, hmade⟩ := Option.map_eq_some_iff.1 hmade
      have hadds := ih d parent
      rw [hmade] at hadds
      exact hadds.trans (parentPath?_isFront hparent) .refl
    · rename_i made _ hmade
      obtain ⟨parent, hparent, hmade⟩ := Option.map_eq_some_iff.1 hmade
      have hadds := ih d parent
      rw [hmade] at hadds
      exact hadds.trans (parentPath?_isFront hparent) (addsFolders_makeLast made path)
    · exact addsFolders_makeLast d path

theorem addsFolders_withFolders (d : Disk) (path : String) :
    AddsFolders path d (d.withFolders path) :=
  addsFolders_makeFolders _ d path

theorem eq_withFolders_of_ensureFolder {path : String} (h : d.ensureFolder path = .ok d') :
    d' = d.withFolders path := by
  obtain ⟨_, -, rfl⟩ := Except.map_eq_ok_iff.1 h
  rfl

end PayloadGen.Disk
