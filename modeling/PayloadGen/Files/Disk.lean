import PayloadGen.Files.Basic
import PayloadGen.Files.Listing

/-!
# A disk with files and folders

`Disk` is a tree of folders with files in them, and a folder in which relative paths begin.
Operations that change it give back a new disk; those that fail say why in the words of the system.
Everything on a disk stands in a folder and has a name that files can have, and the operations keep
it so.
-/

namespace PayloadGen

open Text

/-- A disk. -/
structure Disk where
  /-- What stands where. -/
  entries : Listing
  /-- The folder in which relative paths begin. -/
  here : Place
  isFileName_here : ∀ n ∈ here, IsFileName n
  sound : entries.Sound

namespace Disk

/-- What stands at a place. -/
def entryAt? (d : Disk) (p : Place) : Option DiskEntry :=
  d.entries.entryAt? p

/-- Is the place a folder? -/
def isFolder (d : Disk) (p : Place) : Bool :=
  d.entries.isFolder p

theorem isFolder_iff {d : Disk} {p : Place} :
    d.isFolder p = true ↔ d.entryAt? p = some .folder :=
  Listing.isFolder_iff

/-- The path of a place from the root. -/
def pathOf (p : Place) : String :=
  "/" ++ "/".intercalate p

/-- The path of the folder in which relative paths begin. -/
def workingPath (d : Disk) : String :=
  pathOf d.here

/-- The path counted from the root. -/
def absolutePath (d : Disk) (path : String) : String :=
  if Path.isAbsolute path then Path.clean path else Path.join [d.workingPath, path]

/-! ## Finding places -/

/-- The place to which parts lead; every part but the last must be a folder. -/
def walk (d : Disk) : Place → List String → Except FileCause Place
  | p, [] => .ok p
  | p, part :: r =>
    match d.entryAt? p with
    | none => .error .noEntry
    | some (.file _) => .error .notDirectory
    | some .folder =>
      if part = "" || part = "." then d.walk p r
      else if part = ".." then d.walk p.dropLast r
      else if 255 < part.utf8ByteSize then .error .nameTooLong
      else d.walk (p ++ [part]) r

/-- The place to which a path leads. There may be nothing at it. -/
def locate (d : Disk) (path : String) : Except FileCause Place :=
  if path = "" then .error .noEntry
  else if path.toList.contains '\x00' then .error .invalid
  else d.walk (if Path.isAbsolute path then [] else d.here) (Path.parts path)

theorem isFileName_of_walk {d : Disk} {p q : Place} {parts : List String}
    (hparts : ∀ w ∈ parts, '/' ∉ w.toList ∧ '\x00' ∉ w.toList) (hp : ∀ n ∈ p, IsFileName n)
    (h : d.walk p parts = .ok q) : ∀ n ∈ q, IsFileName n := by
  induction parts generalizing p with
  | nil =>
    obtain rfl := Except.ok.inj h
    exact hp
  | cons part parts ih =>
    obtain ⟨⟨hslash, hnull⟩, hparts⟩ := List.forall_mem_cons.1 hparts
    rw [walk] at h
    split at h
    · cases h
    · cases h
    · split at h
      · exact ih hparts hp h
      · rename_i hskip
        split at h
        · exact ih hparts (fun n hn => hp n (List.dropLast_subset _ hn)) h
        · rename_i hup
          split at h
          · cases h
          · rename_i hlong
            have hskip : part ≠ "" ∧ part ≠ "." := by simpa using hskip
            have hpart : IsFileName part :=
              ⟨⟨hskip.1, hskip.2, hup⟩, hslash, hnull, Nat.le_of_not_lt hlong⟩
            refine ih hparts (fun n hn => ?_) h
            rcases List.mem_append.1 hn with hn | hn
            · exact hp n hn
            · exact List.mem_singleton.1 hn ▸ hpart

/-- The ways in which a path leads to a place. -/
theorem locate_eq_ok_iff {d : Disk} {path : String} {q : Place} :
    d.locate path = .ok q ↔ path ≠ "" ∧ '\x00' ∉ path.toList ∧
      d.walk (if Path.isAbsolute path then [] else d.here) (Path.parts path) = .ok q := by
  unfold locate
  by_cases hempty : path = ""
  · simp [hempty]
  · by_cases hnull : '\x00' ∈ path.toList <;> simp [hempty, hnull]

/-- A path leads to a place whose names files can have. -/
theorem isFileName_of_locate {d : Disk} {path : String} {q : Place} (h : d.locate path = .ok q) :
    ∀ n ∈ q, IsFileName n := by
  obtain ⟨-, hnull, hwalk⟩ := locate_eq_ok_iff.1 h
  refine isFileName_of_walk (fun w hw => ⟨Path.not_mem_of_mem_parts hw, fun hmem =>
    hnull (Path.mem_of_mem_parts hw hmem)⟩) ?_ hwalk
  split
  · simp
  · exact d.isFileName_here

/-- What stands at the end of a path. -/
def find (d : Disk) (path : String) : Except FileCause DiskEntry := do
  match d.entryAt? (← d.locate path) with
  | some e => .ok e
  | none => .error .noEntry

/-- What stands at the end of a path, or why that cannot be said. -/
def stat (d : Disk) (path : String) : Except FileError DiskEntry :=
  (d.find path).mapError fun c => ⟨"stat", path, c⟩

/-- Is there something at the end of a path? -/
def hasEntry (d : Disk) (path : String) : Bool :=
  (d.find path).toOption.isSome

/-! ## Files -/

/-- The content of a file. -/
def read (d : Disk) (path : String) : Except FileError Bytes :=
  match d.find path with
  | .ok (.file content) => .ok content
  | .ok .folder => .error ⟨"read", path, .isDirectory⟩
  | .error c => .error ⟨"open", path, c⟩

/-- Something at a place, whatever was there before. -/
def put (d : Disk) (p : Place) (e : DiskEntry) (h : d.entries.Admits p) : Disk :=
  { d with entries := d.entries.put p e, sound := d.sound.put h e }

/-- Something may be put at the end of a path, if there is no folder, and it is in one. -/
theorem admits_of_locate {d : Disk} {path : String} {p : Place} (hplace : d.locate path = .ok p)
    (hfree : ¬ d.isFolder p = true) (hparent : d.isFolder p.dropLast = true) :
    d.entries.Admits p :=
  Listing.admits_iff.2 ⟨Bool.eq_false_iff.2 hfree, hparent, isFileName_of_locate hplace⟩

/-- A file with this content; one that exists already is overwritten. -/
def write (d : Disk) (path : String) (content : Bytes) : Except FileError Disk :=
  let refuse (c : FileCause) : Except FileError Disk := .error ⟨"open", path, c⟩
  match hplace : d.locate path with
  | .error c => refuse c
  | .ok p =>
    if hfolder : d.isFolder p then refuse .isDirectory
    else if hparent : d.isFolder p.dropLast then
      .ok (d.put p (.file content) (admits_of_locate hplace hfolder hparent))
    else refuse .noEntry

/-- Something is put at a place if it may be there. -/
def add (d : Disk) (p : Place) (e : DiskEntry) : Disk :=
  if h : d.entries.Admits p then d.put p e h else d

/-! ## Folders -/

theorem not_isFolder_of_not_isSome {d : Disk} {p : Place} (h : ¬ (d.entryAt? p).isSome) :
    ¬ d.isFolder p = true := by
  rw [isFolder_iff]
  intro hfolder
  simp [hfolder] at h

/-- A new folder. -/
def makeFolder (d : Disk) (path : String) : Except FileError Disk :=
  let refuse (c : FileCause) : Except FileError Disk := .error ⟨"mkdir", path, c⟩
  match hplace : d.locate path with
  | .error c => refuse c
  | .ok p =>
    if hentry : (d.entryAt? p).isSome then refuse .taken
    else if hparent : d.isFolder p.dropLast then
      .ok (d.put p .folder (admits_of_locate hplace (not_isFolder_of_not_isSome hentry) hparent))
    else refuse .noEntry

/-- The path without its last part, if it has more than one. -/
def parentPath? (path : String) : Option String :=
  let body := trimRightWhere (· == '/') path.toList
  let front := trimRightWhere (· != '/') body
  match front.dropLast with
  | [] => none
  | parent => some (String.ofList parent)

/-- A new folder. That there is one already is no fault. -/
def makeMissing (d : Disk) (path : String) : Except FileError Disk :=
  match d.makeFolder path with
  | .ok d => .ok d
  | .error e => if d.isFolder ((d.locate path).toOption.getD [""]) then .ok d else .error e

/-- The last folder of a path: the disk afterwards, and how it ends. -/
def makeLast (d : Disk) (path : String) : Disk × Except FileError Unit :=
  match d.makeMissing path with
  | .ok made => (made, .ok ())
  | .error e => (d, .error e)

/-- The folders on the way to a path and the one at its end are made, up to the first that cannot
be: the disk afterwards, and how it ends. -/
def makeFolders : (fuel : Nat) → Disk → (path : String) → Disk × Except FileError Unit
  | 0, d, _ => (d, .ok ())
  | fuel + 1, d, path =>
    match d.find path with
    | .ok .folder => (d, .ok ())
    | .ok (.file _) => (d, .error ⟨"mkdir", path, .notDirectory⟩)
    | .error _ =>
      match (parentPath? path).map (makeFolders fuel d) with
      | some (made, .error e) => (made, .error e)
      | some (made, .ok _) => made.makeLast path
      | none => d.makeLast path

/-- The disk with as many of the folders on the way to a path, and at its end, as can be made. -/
def withFolders (d : Disk) (path : String) : Disk :=
  (makeFolders (path.length + 1) d path).1

/-- A folder with all folders on the way to it. -/
def ensureFolder (d : Disk) (path : String) : Except FileError Disk :=
  (makeFolders (path.length + 1) d path).2.map fun _ => d.withFolders path

/-- The disk without what is at a path, and all below it. -/
def remove (d : Disk) (path : String) : Disk :=
  match d.locate path with
  | .ok (a :: r) =>
    { d with
      entries := d.entries.without (a :: r)
      sound := d.sound.without (List.cons_ne_nil a r) }
  | _ => d

/-- What is at a place, and all below it, at another place. -/
def move (d : Disk) (p q : Place) (h : d.entries.AdmitsMove p q) : Disk :=
  { d with entries := d.entries.moved p q, sound := d.sound.moved h }

/-- A file or folder under another name. -/
def rename (d : Disk) (old new : String) : Except FileCause Disk :=
  match d.locate old with
  | .error c => .error c
  | .ok p =>
    match hnew : d.locate new with
    | .error c => .error (if (d.entryAt? p).isSome then c else .noEntry)
    | .ok q =>
      if htarget : d.isFolder q then .error .taken
      else if hsource : (d.entryAt? p).isSome then
        if hparent : d.isFolder q.dropLast then
          have hadmits := admits_of_locate hnew htarget hparent
          if hfolder : d.isFolder p then
            if hwithin : Place.isWithin q p then .error .invalid
            else if (d.entryAt? q).isSome then .error .notDirectory
            else .ok (d.move p q ⟨hadmits, hsource, fun _ h => hwithin (Place.isWithin_iff.2 h)⟩)
          else .ok (d.move p q ⟨hadmits, hsource, fun h => absurd (isFolder_iff.2 h) hfolder⟩)
        else .error .noEntry
      else .error .noEntry

/-- The names in a folder, in ascending order. -/
def names (d : Disk) (p : Place) : List String :=
  sortTexts (d.entries.filterMap fun e =>
    if e.1.dropLast == p then e.1.getLast? else none)

/-- The files below a place: the path from there, and the content. -/
def filesBelow (d : Disk) (p : Place) : List (String × Bytes) :=
  d.entries.filterMap fun
    | (q, .file content) =>
      if Place.isWithin q p then some ("/".intercalate (q.drop p.length), content) else none
    | _ => none

/-! ## A folder as a source of documents -/

theorem walk_append {d : Disk} {p : Place} {xs ys : List String} :
    d.walk p (xs ++ ys) = (d.walk p xs).bind (d.walk · ys) := by
  induction xs generalizing p with
  | nil => rfl
  | cons x xs ih =>
    simp only [List.cons_append, walk]
    split
    · rfl
    · rfl
    · repeat' split
      all_goals first | rfl | exact ih

/-- Parts without dots lead to the place below. -/
theorem eq_append_of_walk {d : Disk} {p q : Place} {xs : List String}
    (hxs : ∀ x ∈ xs, x ≠ "" ∧ x ≠ "." ∧ x ≠ "..") (h : d.walk p xs = .ok q) : q = p ++ xs := by
  induction xs generalizing p with
  | nil => simpa [walk, eq_comm] using h
  | cons x xs ih =>
    obtain ⟨hempty, hdot, hdots⟩ := hxs x (by simp)
    simp only [walk, hempty, hdot, hdots, decide_false, Bool.or_false, Bool.false_eq_true,
      if_false] at h
    split at h
    · cases h
    · cases h
    · split at h
      · cases h
      · simpa using ih (fun y hy => hxs y (by simp [hy])) h

/-- A file that can be read has an entry at the place to which the parts of its path lead. -/
theorem exists_entry_of_read {d : Disk} {path : String} {content : Bytes}
    (h : d.read path = .ok content) :
    ∃ p q, d.walk p (Path.parts path) = .ok q ∧ d.entryAt? q = some (.file content) := by
  unfold read find locate at h
  split at h
  · rename_i c hfind
    cases h
    split at hfind
    · cases hfind
    · split at hfind
      · cases hfind
      · cases hwalk : d.walk (if Path.isAbsolute path then [] else d.here) (Path.parts path) with
        | error e => simp [hwalk, bind, Except.bind] at hfind
        | ok q =>
          refine ⟨_, q, hwalk, ?_⟩
          cases hentry : d.entryAt? q with
          | none => simp [hwalk, hentry, bind, Except.bind] at hfind
          | some e => simpa [hwalk, hentry, bind, Except.bind] using hfind
  · cases h
  · cases h

theorem mem_entries_of_file {d : Disk} {q : Place} {content : Bytes}
    (h : d.entryAt? q = some (.file content)) : (q, DiskEntry.file content) ∈ d.entries := by
  cases q with
  | nil => cases h
  | cons a r =>
    obtain ⟨e, he, hfile⟩ := Option.map_eq_some_iff.1 h
    have hplace : e.1 = a :: r := by simpa using List.find?_some he
    exact hplace ▸ hfile ▸ List.mem_of_find?_eq_some he

/-- The text of a file below a folder. -/
def readBelow (d : Disk) (folder name : String) : Except FileError String :=
  if !Path.isInner name then .error ⟨"readfile", name, .invalid⟩
  else match d.read (folder ++ "/" ++ name) with
    | .ok content => .ok (lossy content)
    | .error e => .error { e with path := name }

theorem readBelow_eq_ok {d : Disk} {folder name text : String}
    (h : d.readBelow folder name = .ok text) :
    Path.isInner name ∧ ∃ content, d.read (folder ++ "/" ++ name) = .ok content := by
  unfold readBelow at h
  split at h
  · cases h
  · rename_i hname
    refine ⟨by simpa using hname, ?_⟩
    split at h
    · exact ⟨_, ‹_›⟩
    · cases h

/-- The name of a file below a folder ends the place where it stands. -/
theorem exists_place_of_readBelow {d : Disk} {folder name text : String}
    (h : d.readBelow folder name = .ok text) :
    ∃ p content, (p ++ Path.parts name, DiskEntry.file content) ∈ d.entries := by
  obtain ⟨hinner, content, hread⟩ := readBelow_eq_ok h
  obtain ⟨start, q, hwalk, hentry⟩ := exists_entry_of_read hread
  rw [Path.parts_append_slash, walk_append] at hwalk
  cases hp : d.walk start (Path.parts folder) with
  | error e => simp [hp, Except.bind] at hwalk
  | ok p =>
    simp only [hp, Except.bind] at hwalk
    simp only [Path.isInner, Bool.or_eq_true, decide_eq_true_eq, List.all_eq_true,
      Bool.and_eq_true] at hinner
    rcases hinner with rfl | hparts
    · -- The name `.` leads to the folder itself, which is no file.
      have hdot : Path.parts "." = ["."] := by decide
      rw [hdot, walk] at hwalk
      split at hwalk
      · cases hwalk
      · cases hwalk
      · rename_i hfolder
        cases hwalk
        simp [hfolder] at hentry
    · have hq :=
        eq_append_of_walk (fun x hx => ⟨(hparts x hx).1.1, (hparts x hx).1.2, (hparts x hx).2⟩)
          hwalk
      exact ⟨p, content, hq ▸ mem_entries_of_file hentry⟩

/-- The names under which a place can be reached from a folder above it. -/
def namesOf (q : Place) : List String :=
  (List.range q.length).map fun k => "/".intercalate (q.drop k)

theorem mem_namesOf (p : Place) (name : String) : name ∈ namesOf (p ++ Path.parts name) := by
  have hne : Path.parts name ≠ [] := by simp [Path.parts, List.splitOn_ne_nil]
  refine List.mem_map.2 ⟨p.length, List.mem_range.2 ?_, by simp⟩
  have hpos : 0 < (Path.parts name).length := List.length_pos_iff.2 hne
  simp only [List.length_append]
  omega

/-- The files of a folder and of the folders in it. -/
def source (d : Disk) (folder : String) : FileSource where
  names := match d.locate folder with
    | .ok p => d.names p
    | .error _ => []
  read := d.readBelow folder
  isInner_of_read _ _ h := (readBelow_eq_ok h).1
  finite := by
    refine ⟨d.entries.flatMap fun e => namesOf e.1, fun name text h => ?_⟩
    obtain ⟨p, content, hmem⟩ := exists_place_of_readBelow h
    exact List.mem_flatMap.2 ⟨_, hmem, mem_namesOf p name⟩

/-- The disk with these entries, on which relative paths begin at a place. -/
def ofListing (entries : Listing) (here : Place)
    (h : (entries.isSound && here.all fun n => decide (IsFileName n)) = true) : Disk where
  entries
  here
  isFileName_here := by simpa using (Bool.and_eq_true_iff.1 h).2
  sound := Listing.sound_of_isSound (Bool.and_eq_true_iff.1 h).1

/-- A disk with an empty folder in which relative paths begin. They begin at the root if no folder
can have such a place. -/
def blank (here : Place) : Disk :=
  if h : ∀ n ∈ here, IsFileName n then ⟨Listing.wayTo here, here, h, Listing.sound_wayTo h⟩
  else ofListing [] [] rfl

end Disk

end PayloadGen
