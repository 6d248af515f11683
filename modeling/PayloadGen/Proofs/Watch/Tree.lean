import PayloadGen.Proofs.Files.Walk
import PayloadGen.Watch.Tree

/-!
# What is registered and what is watched

The folders of a tree have paths that are made of the path of the root and the names on the way
(`treePath`), and each of them is found at its place (`locate_treePath`, `mem_treeFolders`). A path
is registered once. It brings a watch of its place, unless it was registered before
(`watches_addAll`).

A watch is of use if what happens is told under a path that leads to the place. That is
`Registry.Watches` for one place and `Registry.Honest` for all that are watched.
-/

namespace PayloadGen.Watch

open PayloadGen

/-- What is told on the way does not matter to what is done, and comes after what was told
before. -/
theorem foldl_notes {σ ι : Type} (f : σ → ι → σ × List Note) (xs : List ι) (x : σ)
    (notes : List Note) :
    xs.foldl (fun y i => ((f y.1 i).1, y.2 ++ (f y.1 i).2)) (x, notes) =
      (xs.foldl (fun y i => (f y i).1) x,
        notes ++ (xs.foldl (fun y i => ((f y.1 i).1, y.2 ++ (f y.1 i).2)) (x, [])).2) := by
  induction xs generalizing x notes with
  | nil => simp
  | cons i xs ih =>
    rw [List.foldl_cons, List.foldl_cons, List.foldl_cons, ih, ih _ ([] ++ _)]
    simp

variable {d : Disk} {r r' : Registry} {root path : String} {place q : Place} {names : List String}

/-! ## The folders of a tree -/

/-- The path of what is found along names below a root. -/
def treePath (root : String) (names : List String) : String :=
  names.foldl (fun path name => Path.join [path, name]) root

theorem treePath_cons (root name : String) (names : List String) :
    treePath root (name :: names) = treePath (Path.join [root, name]) names := rfl

/-- What stands in a tree is found under its path. -/
theorem locate_treePath (hroot : d.locate root = .ok place)
    (h : (d.entryAt? (place ++ names)).isSome) :
    d.locate (treePath root names) = .ok (place ++ names) := by
  induction names generalizing root place with
  | nil => simpa [treePath] using hroot
  | cons n names ih =>
    have hn : IsFileName n := Disk.isFileName_of_isSome h n (by simp)
    have hfolder : d.entryAt? place = some .folder :=
      Disk.folder_of_append (List.cons_ne_nil n names) h
    have hnext := ih (Disk.locate_join hroot hfolder hn) (by simpa using h)
    simpa [treePath_cons] using hnext

theorem placeOf_treePath (hroot : d.locate root = .ok place)
    (h : d.entryAt? (place ++ names) = some .folder) :
    d.placeOf (treePath root names) = place ++ names :=
  (Disk.eq_placeOf_of_locate (locate_treePath hroot (by simp [h]))).symm

theorem mem_foldersFrom {fuel : Nat} {p : String} :
    p ∈ foldersFrom d fuel root place ↔
      ∃ names, names.length < fuel ∧ (∀ n ∈ names, n ∉ passedOver) ∧
        d.entryAt? (place ++ names) = some .folder ∧ p = treePath root names := by
  induction fuel generalizing root place with
  | zero => simp [foldersFrom]
  | succ fuel ih =>
    rw [foldersFrom]
    split
    · rename_i hfolder
      rw [List.mem_cons, List.mem_flatMap]
      constructor
      · rintro (rfl | ⟨n, hn, hp⟩)
        · exact ⟨[], Nat.succ_pos _, by simp, by simpa using Disk.isFolder_iff.1 hfolder, rfl⟩
        · split at hp
          · cases hp
          rename_i hpassed
          obtain ⟨names, hlength, hnames, hentry, rfl⟩ := ih.1 hp
          refine ⟨n :: names, Nat.succ_lt_succ hlength, ?_, by simpa using hentry, rfl⟩
          exact List.forall_mem_cons.2 ⟨fun h => hpassed (List.contains_iff_mem.2 h), hnames⟩
      · rintro ⟨names, hlength, hnames, hentry, rfl⟩
        cases names with
        | nil => exact .inl rfl
        | cons n names =>
          obtain ⟨hn, hnames⟩ := List.forall_mem_cons.1 hnames
          have hentry : d.entryAt? (place ++ [n] ++ names) = some .folder := by simpa using hentry
          have hfolder : d.entryAt? (place ++ [n]) = some .folder :=
            Disk.folder_of_isPrefix (List.prefix_append _ _) hentry
          refine .inr ⟨n, Disk.mem_names.2 (by simp [hfolder]), ?_⟩
          rw [if_neg fun h => hn (List.contains_iff_mem.1 h)]
          exact ih.2 ⟨names, Nat.lt_of_succ_lt_succ hlength, hnames, hentry, rfl⟩
    · rename_i hfolder
      refine ⟨fun h => absurd h List.not_mem_nil, ?_⟩
      rintro ⟨names, -, -, hentry, -⟩
      exact absurd (Disk.isFolder_iff.2 (Disk.folder_of_isPrefix (List.prefix_append _ _) hentry))
        hfolder

theorem treeFolders_eq_ok {paths : List String} (h : treeFolders d root = .ok paths) :
    ∃ place, d.locate root = .ok place ∧
      paths = foldersFrom d (d.entries.length + 1) root place := by
  unfold treeFolders at h
  obtain ⟨place, hplace, h⟩ := Except.bind_eq_ok_iff.1 h
  refine ⟨place, Except.mapError_eq_ok_iff.1 hplace, ?_⟩
  split at h
  · cases h
  · exact (Except.ok.inj h).symm

theorem treeFolders_eq_ok_of_entry (hroot : d.locate root = .ok place)
    (h : (d.entryAt? place).isSome) :
    treeFolders d root = .ok (foldersFrom d (d.entries.length + 1) root place) := by
  obtain ⟨e, he⟩ := Option.isSome_iff_exists.1 h
  simp [treeFolders, hroot, he, Except.mapError, bind, Except.bind, pure, Except.pure]

/-- The folders of a tree are those to which no name leads that is passed over. -/
theorem mem_treeFolders (hroot : d.locate root = .ok place) {paths : List String}
    (h : treeFolders d root = .ok paths) {p : String} :
    p ∈ paths ↔ ∃ names, (∀ n ∈ names, n ∉ passedOver) ∧
      d.entryAt? (place ++ names) = some .folder ∧
      p = treePath root names := by
  obtain ⟨place', hplace', rfl⟩ := treeFolders_eq_ok h
  obtain rfl := Except.ok.inj (hroot.symm.trans hplace')
  rw [mem_foldersFrom]
  constructor
  · rintro ⟨names, -, hrest⟩
    exact ⟨names, hrest⟩
  · rintro ⟨names, hnames, hentry, rfl⟩
    have hlength : names.length ≤ d.entries.length :=
      Disk.length_le_entries (p := place) (by simp [hentry])
    exact ⟨names, Nat.lt_succ_of_le hlength, hnames, hentry, rfl⟩

/-! ## Watches -/

namespace Registry

/-- The place is watched, and what happens there is told under a path that leads to it. -/
def Watches (r : Registry) (d : Disk) (q : Place) : Prop :=
  ∃ path, r.watch? q = some path ∧ d.placeOf path = q

/-- What happens is told under paths that lead to where it happens. -/
def Honest (r : Registry) (d : Disk) : Prop :=
  ∀ x ∈ r.watches, x.2 ≠ "" ∧ d.placeOf x.2 = x.1

theorem watch?_setWatch (r : Registry) (place : Place) (path : String) (q : Place) :
    (r.setWatch place path).watch? q = if q = place then some path else r.watch? q := by
  have hfilter : ∀ x : Place × String,
      (x.1 != place && x.1 == q) = (decide (q ≠ place) && x.1 == q) := by
    intro x
    cases hx : x.1 == q with
    | false => simp
    | true =>
      obtain rfl := eq_of_beq hx
      by_cases hplace : x.1 = place <;> simp [hplace]
  simp only [watch?, setWatch, List.find?_append, List.find?_filter, Bool.decide_and,
    Bool.decide_eq_true, hfilter]
  by_cases hq : q = place
  · subst hq
    have hnone : r.watches.find? (fun _ => false) = none := by simp
    simp [hnone]
  · have hne : (place == q) = false := beq_false_of_ne (Ne.symm hq)
    simp [hq, hne]

theorem honest_setWatch (h : r.Honest d) (hpath : path ≠ "") (hplace : d.placeOf path = place) :
    (r.setWatch place path).Honest d := by
  intro x hx
  rcases List.mem_append.1 hx with hx | hx
  · exact h x (List.mem_of_mem_filter hx)
  · obtain rfl := List.mem_singleton.1 hx
    exact ⟨hpath, hplace⟩

/-! ## Registering -/

theorem add_of_mem (h : path ∈ r.seen) : (r.add d path).1 = r := by
  simp [add, h]

theorem add_of_not_mem (h : path ∉ r.seen) (hpath : d.locate path = .ok place) :
    (r.add d path).1 = setWatch { r with seen := r.seen ++ [path] } place (Path.clean path) := by
  simp [add, h, hpath]

theorem mem_seen_add {p : String} : p ∈ (r.add d path).1.seen ↔ p ∈ r.seen ∨ p = path := by
  by_cases hseen : path ∈ r.seen
  · rw [add_of_mem hseen]
    exact ⟨.inl, fun h => h.elim id fun heq => heq ▸ hseen⟩
  · cases hpath : d.locate path <;> simp [add, hseen, hpath, setWatch]

/-- A path that leads somewhere brings a watch, if it is new. -/
theorem watches_add (hpath : d.locate path = .ok place) :
    (r.add d path).1.Watches d q ↔ r.Watches d q ∨ path ∉ r.seen ∧ q = place := by
  by_cases hseen : path ∈ r.seen
  · simp [add_of_mem hseen, hseen]
  · have hplace : d.placeOf (Path.clean path) = place :=
      (d.placeOf_clean path).trans (Disk.eq_placeOf_of_locate hpath).symm
    rw [add_of_not_mem hseen hpath]
    unfold Watches
    rw [watch?_setWatch]
    by_cases hq : q = place
    · simp [hq, hseen, hplace]
    · simp [hq]
      rfl

theorem honest_add (h : r.Honest d) (path : String) : (r.add d path).1.Honest d := by
  by_cases hseen : path ∈ r.seen
  · rwa [add_of_mem hseen]
  · cases hpath : d.locate path with
    | error c =>
      have hadd : (r.add d path).1 = { r with seen := r.seen ++ [path] } := by
        simp [add, hseen, hpath]
      rw [hadd]
      exact h
    | ok place =>
      rw [add_of_not_mem hseen hpath]
      exact honest_setWatch h (Path.clean_ne_empty path)
        ((d.placeOf_clean path).trans (Disk.eq_placeOf_of_locate hpath).symm)

theorem addAll_fst (r : Registry) (paths : List String) :
    (r.addAll d paths).1 = paths.foldl (fun r path => (r.add d path).1) r :=
  congrArg Prod.fst (foldl_notes (add d) paths r [])

theorem addAll_cons (r : Registry) (path : String) (paths : List String) :
    r.addAll d (path :: paths) = (((r.add d path).1.addAll d paths).1,
      (r.add d path).2 ++ ((r.add d path).1.addAll d paths).2) := by
  rw [addAll_fst]
  exact foldl_notes (add d) paths (r.add d path).1 ([] ++ (r.add d path).2)

theorem mem_seen_addAll {paths : List String} {p : String} :
    p ∈ (r.addAll d paths).1.seen ↔ p ∈ r.seen ∨ p ∈ paths := by
  rw [addAll_fst]
  induction paths generalizing r with
  | nil => simp
  | cons path paths ih => rw [List.foldl_cons, ih, mem_seen_add, List.mem_cons, or_assoc]

/-- Paths that lead somewhere bring watches of their places, as far as they are new. -/
theorem watches_addAll {paths : List String}
    (hpaths : ∀ p ∈ paths, ∃ place, d.locate p = .ok place) : (r.addAll d paths).1.Watches d q ↔
      r.Watches d q ∨ ∃ p ∈ paths, p ∉ r.seen ∧ d.placeOf p = q := by
  rw [addAll_fst]
  induction paths generalizing r with
  | nil => simp
  | cons path paths ih =>
    obtain ⟨⟨place, hpath⟩, hpaths⟩ := List.forall_mem_cons.1 hpaths
    obtain rfl := Disk.eq_placeOf_of_locate hpath
    rw [List.foldl_cons, ih hpaths, watches_add hpath, or_assoc]
    refine or_congr_right ⟨?_, ?_⟩
    · rintro (⟨hseen, rfl⟩ | ⟨p, hp, hseen, rfl⟩)
      · exact ⟨path, List.mem_cons_self, hseen, rfl⟩
      · exact ⟨p, List.mem_cons_of_mem _ hp, fun h => hseen (mem_seen_add.2 (.inl h)), rfl⟩
    · rintro ⟨p, hp, hseen, rfl⟩
      by_cases heq : p = path
      · exact .inl ⟨heq ▸ hseen, by rw [heq]⟩
      · refine .inr ⟨p, (List.mem_cons.1 hp).resolve_left heq, fun h => ?_, rfl⟩
        exact (mem_seen_add.1 h).elim hseen heq

theorem honest_addAll (h : r.Honest d) (paths : List String) : (r.addAll d paths).1.Honest d := by
  rw [addAll_fst]
  induction paths generalizing r with
  | nil => exact h
  | cons path paths ih => exact ih (honest_add h path)

/-! ## Trees -/

/-- What registering keeps: watches stay, and every path that was not registered before leads to a
watched place. -/
structure Grows (d : Disk) (r r' : Registry) : Prop where
  watches : ∀ q, r.Watches d q → r'.Watches d q
  seen : ∀ p ∈ r'.seen, p ∈ r.seen ∨ r'.Watches d (d.placeOf p)
  honest : r.Honest d → r'.Honest d

theorem Grows.refl (d : Disk) (r : Registry) : Grows d r r :=
  ⟨fun _ h => h, fun _ h => .inl h, fun h => h⟩

theorem Grows.trans {r'' : Registry} (h : Grows d r r') (h' : Grows d r' r'') : Grows d r r'' where
  watches q hq := h'.watches q (h.watches q hq)
  seen p hp := by
    rcases h'.seen p hp with hp | hp
    · exact (h.seen p hp).imp_right (h'.watches _)
    · exact .inr hp
  honest hr := h'.honest (h.honest hr)

theorem addTree_of_treeFolders {paths : List String} (h : treeFolders d root = .ok paths) :
    r.addTree d root = .ok (r.addAll d paths) := by
  simp [addTree, h, bind, Except.bind, pure, Except.pure]

theorem addTrees_cons {roots paths : List String} (hroot : root ≠ "")
    (h : treeFolders d root = .ok paths) :
    r.addTrees d (root :: roots) = (((r.addAll d paths).1.addTrees d roots).1,
      (r.addAll d paths).2 ++ ((r.addAll d paths).1.addTrees d roots).2.1,
      ((r.addAll d paths).1.addTrees d roots).2.2) := by
  rw [addTrees.eq_3 d r root roots hroot, addTree_of_treeFolders h]

theorem addTree_eq_ok {notes : List Note} (h : r.addTree d root = .ok (r', notes)) :
    ∃ paths, treeFolders d root = .ok paths ∧ r' = (r.addAll d paths).1 := by
  obtain ⟨paths, hpaths, h⟩ := Except.bind_eq_ok_iff.1 h
  exact ⟨paths, hpaths, congrArg Prod.fst (Except.ok.inj h).symm⟩

theorem exists_locate_of_mem_treeFolders {paths : List String}
    (h : treeFolders d root = .ok paths) : ∀ p ∈ paths, ∃ place, d.locate p = .ok place := by
  intro p hp
  obtain ⟨place, hroot, -⟩ := treeFolders_eq_ok h
  obtain ⟨names, -, hentry, rfl⟩ := (mem_treeFolders hroot h).1 hp
  exact ⟨_, locate_treePath hroot (by simp [hentry])⟩

theorem grows_addTree {notes : List Note} (h : r.addTree d root = .ok (r', notes)) :
    Grows d r r' := by
  obtain ⟨paths, hpaths, rfl⟩ := addTree_eq_ok h
  have hlocate := exists_locate_of_mem_treeFolders hpaths
  refine ⟨fun q hq => (watches_addAll hlocate).2 (.inl hq), fun p hp => ?_,
    fun hr => honest_addAll hr paths⟩
  by_cases hseen : p ∈ r.seen
  · exact .inl hseen
  · have hmem := (mem_seen_addAll.1 hp).resolve_left hseen
    exact .inr ((watches_addAll hlocate).2 (.inr ⟨p, hmem, hseen, rfl⟩))

theorem grows_addTrees (d : Disk) (r : Registry) (roots : List String) :
    Grows d r (r.addTrees d roots).1 := by
  induction roots generalizing r with
  | nil => exact .refl d r
  | cons root roots ih =>
    by_cases hempty : root = ""
    · subst hempty
      exact ih r
    · rw [addTrees.eq_3 d r root roots hempty]
      cases htree : r.addTree d root with
      | error e => exact .refl d r
      | ok x => exact (grows_addTree htree).trans (ih x.1)

end Registry

end PayloadGen.Watch
