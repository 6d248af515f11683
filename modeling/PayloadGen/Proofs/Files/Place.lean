import PayloadGen.Proofs.Files.Disk
import PayloadGen.Proofs.Files.Path

/-!
# Where paths lead

A name leads one place down, `..` leads up, and other parts lead nowhere (`Path.go`). So the place
to which a path leads can be told from its parts (`Disk.placeOf`), and the disk only decides whether
one gets there (`eq_placeOf_of_locate`). The shortest form of a path leads to the same place
(`placeOf_clean`), and the path counted from the root is that of the place (`absolutePath_eq`).
-/

namespace PayloadGen

open Text

namespace Path

theorem exists_mem_parts_of_mem {p : String} {c : Char} (hc : c ∈ p.toList) (hslash : c ≠ '/') :
    ∃ w ∈ parts p, c ∈ w.toList := by
  obtain ⟨w, hw, hcw⟩ := exists_mem_splitOn_of_mem hc hslash
  exact ⟨String.ofList w, List.mem_map_of_mem hw, by simpa using hcw⟩

/-! ## One part after the other -/

/-- The place to which one part leads. -/
def go (p : Place) (part : String) : Place :=
  if part = "" || part = "." then p else if part = ".." then p.dropLast else p ++ [part]

theorem go_skip {w : String} (h : w = "" ∨ w = ".") (p : Place) : go p w = p := by
  rcases h with rfl | rfl <;> simp [go]

@[simp] theorem go_up (p : Place) : go p ".." = p.dropLast := by
  simp [go]

theorem go_of_isName {w : String} (h : IsName w) (p : Place) : go p w = p ++ [w] := by
  simp [go, h.1, h.2.1, h.2.2]

theorem foldl_go_of_isName {ws : List String} (h : ∀ w ∈ ws, IsName w) (p : Place) :
    ws.foldl go p = p ++ ws := by
  induction ws generalizing p with
  | nil => simp
  | cons w ws ih =>
    rw [List.foldl_cons, go_of_isName (h w List.mem_cons_self),
      ih fun v hv => h v (List.mem_cons_of_mem _ hv)]
    simp

/-! ## Shortest paths -/

/-- The parts of a shortest path so far, the last one first: ways up, and then names. A path from
the root has no way up. -/
structure IsShortest (absolute : Bool) (done : List String) : Prop where
  shape : ∃ names k, done = names ++ List.replicate k ".." ∧ ∀ w ∈ names, IsName w
  up : absolute = true → ".." ∉ done

theorem IsShortest.step {absolute : Bool} {done : List String} (h : IsShortest absolute done)
    (w : String) : IsShortest absolute (step absolute done w) := by
  rcases part_cases w with hskip | rfl | hname
  · rwa [step_skip hskip]
  · obtain ⟨names, k, rfl, hnames⟩ := h.shape
    cases names with
    | nil =>
      cases absolute with
      | true =>
        obtain rfl : k = 0 := by simpa using h.up rfl
        exact ⟨⟨[], 0, by simp [Path.step], by simp⟩, fun _ => by simp [Path.step]⟩
      | false =>
        refine ⟨⟨[], k + 1, ?_, by simp⟩, by simp⟩
        cases k with
        | zero => simp [Path.step]
        | succ k => simp [Path.step, List.replicate_succ]
    | cons x names =>
      rw [List.cons_append, step_up_of_ne (hnames x List.mem_cons_self).2.2]
      exact ⟨⟨names, k, rfl, fun v hv => hnames v (List.mem_cons_of_mem _ hv)⟩,
        fun habsolute hup => h.up habsolute (List.mem_cons_of_mem _ hup)⟩
  · rw [step_of_isName hname]
    obtain ⟨names, k, rfl, hnames⟩ := h.shape
    refine ⟨⟨w :: names, k, rfl, fun v hv => ?_⟩, fun habsolute hup => ?_⟩
    · rcases List.mem_cons.1 hv with rfl | hv
      · exact hname
      · exact hnames v hv
    · rcases List.mem_cons.1 hup with heq | hup
      · exact hname.2.2 heq.symm
      · exact h.up habsolute hup

theorem IsShortest.foldl_step {absolute : Bool} {done : List String} (h : IsShortest absolute done)
    (ws : List String) : IsShortest absolute (ws.foldl (Path.step absolute) done) := by
  induction ws generalizing done with
  | nil => exact h
  | cons w ws ih => exact ih (h.step w)

theorem isShortest_nil (absolute : Bool) : IsShortest absolute [] :=
  ⟨⟨[], 0, rfl, by simp⟩, by simp⟩

/-- One part more leads from the place so far to that of the part. Above the root there is
nothing. -/
theorem foldl_go_step {absolute : Bool} {done : List String} (h : IsShortest absolute done)
    {base : Place} (hbase : absolute = true → base = []) (w : String) :
    (step absolute done w).reverse.foldl go base = go (done.reverse.foldl go base) w := by
  rcases part_cases w with hskip | rfl | hname
  · rw [step_skip hskip, go_skip hskip]
  · obtain ⟨names, k, rfl, hnames⟩ := h.shape
    cases names with
    | nil =>
      cases absolute with
      | true =>
        obtain rfl : k = 0 := by simpa using h.up rfl
        simp [step, hbase rfl]
      | false =>
        cases k with
        | zero => simp [step]
        | succ k => simp [step, List.replicate_succ, List.foldl_append]
    | cons x names =>
      have hx := hnames x List.mem_cons_self
      rw [List.cons_append, step_up_of_ne hx.2.2]
      simp [List.foldl_append, go_of_isName hx]
  · simp [step_of_isName hname, List.foldl_append]

theorem foldl_go_foldl_step {absolute : Bool} {done : List String} (h : IsShortest absolute done)
    {base : Place} (hbase : absolute = true → base = []) (ws : List String) :
    (ws.foldl (step absolute) done).reverse.foldl go base =
      ws.foldl go (done.reverse.foldl go base) := by
  induction ws generalizing done with
  | nil => rfl
  | cons w ws ih => rw [List.foldl_cons, ih (h.step w), foldl_go_step h hbase, List.foldl_cons]

/-- The parts of the shortest path lead where all parts lead. -/
theorem foldl_go_cleanParts (p : String) {base : Place} (hbase : isAbsolute p = true → base = []) :
    (cleanParts p).foldl go base = (parts p).foldl go base :=
  foldl_go_foldl_step (isShortest_nil _) hbase (parts p)

theorem mem_of_mem_cleanParts {p w : String} (h : w ∈ cleanParts p) : w ∈ parts p ∧ w ≠ "" :=
  (mem_of_mem_foldl_step (List.mem_reverse.1 h)).resolve_left List.not_mem_nil

theorem isName_of_mem_cleanParts {p w : String} (habsolute : isAbsolute p = true)
    (h : w ∈ cleanParts p) : IsName w := by
  have hshortest := (isShortest_nil (isAbsolute p)).foldl_step (parts p)
  obtain ⟨names, k, hdone, hnames⟩ := hshortest.shape
  have hmem := List.mem_reverse.1 h
  rw [hdone] at hmem
  rcases List.mem_append.1 hmem with hw | hw
  · exact hnames w hw
  · obtain rfl := List.eq_of_mem_replicate hw
    exact absurd (List.mem_reverse.1 h) (hshortest.up habsolute)

/-- The parts of a shortest path are what it was made of, behind the root if it begins there. -/
theorem parts_clean (p : String) :
    parts (clean p) = (if isAbsolute p then [""] else []) ++
      (if cleanParts p = [] then (if isAbsolute p then [""] else ["."]) else cleanParts p) := by
  have hslash : ∀ w ∈ cleanParts p, '/' ∉ w.toList :=
    fun w hw => not_mem_of_mem_parts (mem_of_mem_cleanParts hw).1
  cases habsolute : isAbsolute p with
  | false =>
    have hclean : clean p = ofParts (cleanParts p) := by
      rw [clean_of_relative habsolute, cleanParts, habsolute]
    rw [hclean]
    by_cases hnil : cleanParts p = []
    · simp only [hnil]
      decide
    · simp [hnil, parts_ofParts hnil hslash]
  | true =>
    have hclean : clean p = "" ++ "/" ++ "/".intercalate (cleanParts p) := by
      simp [clean, habsolute]
    rw [hclean, parts_append_slash]
    by_cases hnil : cleanParts p = []
    · simp only [hnil]
      decide
    · rw [parts_intercalate hnil hslash]
      simp [hnil, show parts "" = [""] by decide]

theorem isAbsolute_clean (p : String) : isAbsolute (clean p) = isAbsolute p := by
  cases habsolute : isAbsolute p with
  | true =>
    rw [clean, if_pos habsolute]
    simp [isAbsolute]
  | false =>
    by_cases hnil : cleanParts p = []
    · have hparts : parts (clean p) = ["."] := by simp [parts_clean, habsolute, hnil]
      exact isAbsolute_eq_false hparts (.inl (by decide))
    · obtain ⟨w, ws, hcons⟩ := List.exists_cons_of_ne_nil hnil
      have hw : w ≠ "" := (mem_of_mem_cleanParts (hcons ▸ List.mem_cons_self)).2
      have hparts : parts (clean p) = w :: ws := by simp [parts_clean, habsolute, hcons]
      exact isAbsolute_eq_false hparts (.inl hw)

theorem foldl_go_parts_clean (p : String) {base : Place} (hbase : isAbsolute p = true → base = []) :
    (parts (clean p)).foldl go base = (parts p).foldl go base := by
  rw [← foldl_go_cleanParts p hbase, parts_clean]
  by_cases hnil : cleanParts p = []
  · cases isAbsolute p <;> simp [hnil, go]
  · cases isAbsolute p <;> simp [hnil, go]

theorem clean_ne_empty (p : String) : clean p ≠ "" := by
  intro hempty
  have hparts := parts_clean p
  rw [hempty, show parts "" = [""] by decide] at hparts
  by_cases hnil : cleanParts p = []
  · cases habsolute : isAbsolute p <;> simp [habsolute, hnil] at hparts
  · cases habsolute : isAbsolute p with
    | false =>
      have hmem : "" ∈ cleanParts p := by
        simp only [habsolute, hnil, if_false, List.nil_append, Bool.false_eq_true] at hparts
        exact hparts ▸ List.mem_cons_self
      exact (mem_of_mem_cleanParts hmem).2 rfl
    | true => simp [habsolute, hnil] at hparts

theorem isAbsolute_append_slash {p : String} (hp : p ≠ "") (q : String) :
    isAbsolute (p ++ "/" ++ q) = isAbsolute p := by
  cases hlist : p.toList with
  | nil => exact absurd (String.toList_inj.1 (hlist.trans String.toList_empty.symm)) hp
  | cons c r => simp [isAbsolute, hlist]

/-- A name at the end of a path is at the end of the shortest path too. -/
theorem cleanParts_append_name {p n : String} (hp : p ≠ "") (hn : IsName n)
    (hslash : '/' ∉ n.toList) : cleanParts (p ++ "/" ++ n) = cleanParts p ++ [n] := by
  rw [cleanParts, isAbsolute_append_slash hp, parts_append_slash, parts_of_not_mem hslash,
    List.foldl_append]
  simp [step_of_isName hn, cleanParts]

theorem join_pair {p q : String} (hp : p ≠ "") (hq : q ≠ "") :
    join [p, q] = clean (p ++ "/" ++ q) := by
  simp [join, hp, hq, String.intercalate_cons_cons]

end Path

/-! ## Places of a disk -/

namespace Disk

variable {d d' : Disk} {p q : Place} {path : String}

/-- The place to which a path leads, whatever there is on the way. -/
def placeOf (d : Disk) (path : String) : Place :=
  (Path.parts path).foldl Path.go (if Path.isAbsolute path then [] else d.here)

theorem placeOf_congr (h : d'.here = d.here) : d'.placeOf path = d.placeOf path := by
  rw [placeOf, placeOf, h]

theorem eq_foldl_go_of_walk {parts : List String} (h : d.walk p parts = .ok q) :
    q = parts.foldl Path.go p := by
  induction parts generalizing p with
  | nil => exact (Except.ok.inj h).symm
  | cons part parts ih =>
    rw [walk] at h
    split at h
    · cases h
    · cases h
    rw [List.foldl_cons, Path.go]
    split at h
    · rename_i hskip
      rw [if_pos hskip]
      exact ih h
    rename_i hskip
    rw [if_neg hskip]
    split at h
    · rename_i hup
      rw [if_pos hup]
      exact ih h
    rename_i hup
    rw [if_neg hup]
    split at h
    · cases h
    · exact ih h

/-- A path that leads somewhere leads to its place. -/
theorem eq_placeOf_of_locate (h : d.locate path = .ok q) : q = d.placeOf path :=
  eq_foldl_go_of_walk (locate_eq_ok_iff.1 h).2.2

theorem placeOf_clean (d : Disk) (path : String) :
    d.placeOf (Path.clean path) = d.placeOf path := by
  rw [placeOf, Path.isAbsolute_clean,
    Path.foldl_go_parts_clean path (fun habsolute => by simp [habsolute]), placeOf]

theorem placeOf_append_slash (hpath : path ≠ "") (name : String) :
    d.placeOf (path ++ "/" ++ name) = (Path.parts name).foldl Path.go (d.placeOf path) := by
  rw [placeOf, Path.isAbsolute_append_slash hpath, Path.parts_append_slash,
    List.foldl_append, placeOf]

/-- A file in a folder has the place of the folder and its name. -/
theorem placeOf_append_name (hpath : path ≠ "") {name : String} (hname : IsFileName name) :
    d.placeOf (path ++ "/" ++ name) = d.placeOf path ++ [name] := by
  rw [placeOf_append_slash hpath, Path.parts_of_not_mem hname.slash]
  exact Path.go_of_isName hname.name _

/-! ## Names -/

theorem utf8ByteSize_le_of_walk {parts : List String} (h : d.walk p parts = .ok q) :
    ∀ w ∈ parts, w.utf8ByteSize ≤ 255 := by
  induction parts generalizing p with
  | nil => simp
  | cons part parts ih =>
    rw [walk] at h
    split at h
    · cases h
    · cases h
    rw [List.forall_mem_cons]
    split at h
    · rename_i hskip
      refine ⟨?_, ih h⟩
      rcases (by simpa using hskip : part = "" ∨ part = ".") with rfl | rfl <;> decide
    split at h
    · rename_i hup
      exact ⟨hup ▸ by decide, ih h⟩
    split at h
    · cases h
    · rename_i hlong
      exact ⟨Nat.le_of_not_lt hlong, ih h⟩

/-! ## Paths from the root -/

theorem clean_of_absolute (h : Path.isAbsolute path = true) :
    Path.clean path = pathOf ((Path.parts path).foldl Path.go []) := by
  have hplace : (Path.cleanParts path).foldl Path.go [] = (Path.parts path).foldl Path.go [] :=
    Path.foldl_go_cleanParts path fun _ => rfl
  rw [Path.foldl_go_of_isName (fun w => Path.isName_of_mem_cleanParts h), List.nil_append] at hplace
  simp [Path.clean, h, pathOf, ← hplace]

theorem isAbsolute_pathOf (q : Place) : Path.isAbsolute (pathOf q) = true := by
  simp [Path.isAbsolute, pathOf]

/-- The path of a place leads to it. -/
theorem foldl_go_parts_pathOf (hq : ∀ n ∈ q, IsFileName n) :
    (Path.parts (pathOf q)).foldl Path.go [] = q := by
  have hpath : pathOf q = "" ++ "/" ++ "/".intercalate q := by simp [pathOf]
  rw [hpath, Path.parts_append_slash]
  by_cases hnil : q = []
  · subst hnil
    decide
  · rw [Path.parts_intercalate hnil fun n hn => (hq n hn).slash, List.foldl_append,
      Path.foldl_go_of_isName fun n hn => (hq n hn).name]
    rfl

/-- The path counted from the root is that of the place. -/
theorem absolutePath_eq (d : Disk) (path : String) :
    d.absolutePath path = pathOf (d.placeOf path) := by
  unfold absolutePath placeOf
  split
  · rename_i habsolute
    exact clean_of_absolute habsolute
  · have hworking : workingPath d ≠ "" := fun hempty => by
      have := isAbsolute_pathOf d.here
      rw [show pathOf d.here = "" from hempty] at this
      cases this
    by_cases hpath : path = ""
    · subst hpath
      rw [Path.join, show [d.workingPath, ""].filter (· ≠ "") = [d.workingPath] by simp [hworking]]
      simp only [String.intercalate_singleton]
      rw [workingPath, clean_of_absolute (isAbsolute_pathOf d.here),
        foldl_go_parts_pathOf d.isFileName_here]
      rfl
    · have habsolute : Path.isAbsolute (d.workingPath ++ "/" ++ path) = true :=
        (Path.isAbsolute_append_slash hworking path).trans (isAbsolute_pathOf d.here)
      rw [Path.join_pair hworking hpath, clean_of_absolute habsolute, Path.parts_append_slash,
        List.foldl_append, workingPath, foldl_go_parts_pathOf d.isFileName_here]

end Disk

end PayloadGen
