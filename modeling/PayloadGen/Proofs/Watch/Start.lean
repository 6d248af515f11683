import Mathlib.Data.List.Infix
import PayloadGen.Proofs.Watch.Tree

/-!
# What is watched from the start

A watcher begins by registering the trees that it is given, one after the other. Trees may overlap:
a folder that is passed over on the way from one root can be below another one, and a folder that is
registered already still leads to others that are not. `addTrees_exact` says that, whatever the
roots, every folder that one of them covers is registered once, and nothing else is.

A path from the root of the disk is that of the place to which it leads (`Disk.pathOf_inj`), so that
a registry is determined by the places that were registered (`Registry.ofPlaces`). One step adds a
place if it is new (`exists_add_ofPlaces`); a run over the folders of a tree, and one over several
trees, add all that is missing (`exists_addAll_ofPlaces`, `exists_addTrees_ofPlaces`).
-/

namespace PayloadGen

/-! ## Paths from the root -/

namespace Disk

variable {d : Disk} {p q : Place} {path : String}

theorem pathOf_ne_empty (p : Place) : pathOf p ≠ "" := by
  simp [pathOf]

theorem clean_pathOf (hp : ∀ n ∈ p, IsFileName n) : Path.clean (pathOf p) = pathOf p := by
  rw [clean_of_absolute (isAbsolute_pathOf p), foldl_go_parts_pathOf hp]

theorem pathOf_inj (hp : ∀ n ∈ p, IsFileName n) (hq : ∀ n ∈ q, IsFileName n) :
    pathOf p = pathOf q ↔ p = q := by
  refine ⟨fun h => ?_, congrArg pathOf⟩
  rw [← foldl_go_parts_pathOf hp, h, foldl_go_parts_pathOf hq]

theorem join_pathOf (hp : ∀ n ∈ p, IsFileName n) {n : String} (hn : IsFileName n) :
    Path.join [pathOf p, n] = pathOf (p ++ [n]) := by
  have habsolute : Path.isAbsolute (pathOf p ++ "/" ++ n) = true :=
    (Path.isAbsolute_append_slash (pathOf_ne_empty p) n).trans (isAbsolute_pathOf p)
  rw [Path.join_pair (pathOf_ne_empty p) hn.name.1, clean_of_absolute habsolute,
    Path.parts_append_slash, List.foldl_append, foldl_go_parts_pathOf hp,
    Path.parts_of_not_mem hn.slash, List.foldl_cons, List.foldl_nil, Path.go_of_isName hn.name]

theorem placeOf_pathOf (hp : ∀ n ∈ p, IsFileName n) : d.placeOf (pathOf p) = p := by
  rw [placeOf, if_pos (isAbsolute_pathOf p), foldl_go_parts_pathOf hp]

/-- A shortest path from the root is that of the place to which it leads. -/
theorem eq_pathOf_of_locate (habsolute : Path.isAbsolute path = true)
    (hclean : Path.clean path = path) (h : d.locate path = .ok p) : path = pathOf p := by
  rw [clean_of_absolute habsolute] at hclean
  rw [eq_placeOf_of_locate h, placeOf, if_pos habsolute, hclean]

theorem exists_locate_of_find {e : DiskEntry} (h : d.find path = .ok e) :
    ∃ p, d.locate path = .ok p ∧ d.entryAt? p = some e := by
  obtain ⟨p, hp, hentry⟩ := Except.bind_eq_ok_iff.1 h
  refine ⟨p, hp, ?_⟩
  cases he : d.entryAt? p with
  | none =>
    rw [he] at hentry
    cases hentry
  | some e' =>
    rw [he] at hentry
    exact congrArg some (Except.ok.inj hentry)

theorem isFileName_of_isFolder (hp : d.isFolder p = true) : ∀ n ∈ p, IsFileName n :=
  isFileName_of_isSome (d := d) (by simp [isFolder_iff.1 hp])

end Disk

namespace Watch

open Disk

variable {d : Disk} {r : Registry} {p q : Place} {ps : List Place}

theorem treePath_pathOf {names : List String} (hnames : ∀ n ∈ p ++ names, IsFileName n) :
    treePath (pathOf p) names = pathOf (p ++ names) := by
  induction names generalizing p with
  | nil => simp [treePath]
  | cons n names ih =>
    have hp : ∀ m ∈ p, IsFileName m := fun m hm => hnames m (List.mem_append_left _ hm)
    have hn : IsFileName n := hnames n (by simp)
    rw [List.append_cons] at hnames ⊢
    rw [treePath_cons, join_pathOf hp hn, ih hnames]

/-- What stands on a disk is found under the path of its place. -/
theorem locate_pathOf (hp : d.isFolder p = true) : d.locate (pathOf p) = .ok p := by
  have hroot : d.locate "/" = .ok [] := by
    rw [locate_eq_ok_iff]
    exact ⟨by decide, by decide, rfl⟩
  have htree : d.locate (treePath (pathOf []) p) = .ok ([] ++ p) :=
    locate_treePath hroot (by simp [isFolder_iff.1 hp])
  rwa [treePath_pathOf (by simpa using isFileName_of_isFolder hp)] at htree

theorem find_pathOf (hp : d.isFolder p = true) : d.find (pathOf p) = .ok .folder := by
  simp [find, locate_pathOf hp, isFolder_iff.1 hp, bind, Except.bind]

/-! ## The folders that roots cover -/

/-- The folder is one of the roots, or below one along names that are not passed over. -/
def Covers (d : Disk) (roots : List String) (q : Place) : Prop :=
  d.isFolder q = true ∧ ∃ p names, pathOf p ∈ roots ∧ q = p ++ names ∧ ∀ n ∈ names, n ∉ passedOver

theorem covers_cons {root : String} {roots : List String} :
    Covers d (root :: roots) q ↔ Covers d [root] q ∨ Covers d roots q := by
  unfold Covers
  rw [← and_or_left]
  refine and_congr_right fun _ => ?_
  simp only [List.mem_cons, List.not_mem_nil, or_false, or_and_right, exists_or]

theorem not_covers_empty : ¬ Covers d [""] q := by
  rintro ⟨-, p, -, hp, -⟩
  exact pathOf_ne_empty p (List.mem_singleton.1 hp)

/-- The folders of a tree are those that its root covers. -/
theorem exists_treeFolders_pathOf (hp : d.isFolder p = true) :
    ∃ qs : List Place, treeFolders d (pathOf p) = .ok (qs.map pathOf) ∧ ∀ q, q ∈ qs ↔
      Covers d [pathOf p] q := by
  have hlocate := locate_pathOf hp
  have htree := treeFolders_eq_ok_of_entry hlocate (by simp [isFolder_iff.1 hp])
  set paths := foldersFrom d (d.entries.length + 1) (pathOf p) p
  have hmem : ∀ path, path ∈ paths ↔ ∃ q, Covers d [pathOf p] q ∧ path = pathOf q := by
    intro path
    rw [mem_treeFolders hlocate htree]
    constructor
    · rintro ⟨names, hpassed, hentry, rfl⟩
      have hfolder : d.isFolder (p ++ names) = true := isFolder_iff.2 hentry
      exact ⟨p ++ names, ⟨hfolder, p, names, List.mem_singleton_self _, rfl, hpassed⟩,
        treePath_pathOf (isFileName_of_isFolder hfolder)⟩
    · rintro ⟨q, ⟨hfolder, p', names, hp', rfl, hpassed⟩, rfl⟩
      have hq := isFileName_of_isFolder hfolder
      obtain rfl : p' = p := (pathOf_inj (fun n hn => hq n (List.mem_append_left _ hn))
        (isFileName_of_isFolder hp)).1 (List.mem_singleton.1 hp')
      exact ⟨names, hpassed, isFolder_iff.1 hfolder, (treePath_pathOf hq).symm⟩
  have hplace : ∀ q, Covers d [pathOf p] q → d.placeOf (pathOf q) = q :=
    fun q hq => placeOf_pathOf (isFileName_of_isFolder hq.1)
  refine ⟨paths.map d.placeOf, ?_, fun q => ?_⟩
  · have hsame : ∀ path ∈ paths, pathOf (d.placeOf path) = path := by
      intro path hpath
      obtain ⟨q, hq, rfl⟩ := (hmem path).1 hpath
      rw [hplace q hq]
    have hmap : paths.map (pathOf ∘ d.placeOf) = paths :=
      (List.map_congr_left hsame).trans (List.map_id' paths)
    rw [htree, List.map_map, hmap]
  · rw [List.mem_map]
    constructor
    · rintro ⟨path, hpath, rfl⟩
      obtain ⟨q, hq, rfl⟩ := (hmem path).1 hpath
      rwa [hplace q hq]
    · exact fun hq => ⟨pathOf q, (hmem _).2 ⟨q, hq, rfl⟩, hplace q hq⟩

/-! ## Registering -/

namespace Registry

/-- The registry in which these places have been registered, in this order. -/
def ofPlaces (ps : List Place) : Registry :=
  ⟨ps.map pathOf, ps.map fun p => (p, pathOf p)⟩

/-- The note that a place is watched. -/
def noteOf (p : Place) : Note :=
  .watching (pathOf p)

/-- Of the folders that are asked for, exactly those are added that are missing, each once. -/
structure Completes (d : Disk) (wanted : Place → Prop) (ps fresh : List Place) : Prop where
  folder : ∀ p ∈ ps ++ fresh, d.isFolder p = true
  nodup : (ps ++ fresh).Nodup
  mem : ∀ q, q ∈ ps ++ fresh ↔ q ∈ ps ∨ wanted q

theorem completes_nil (hps : ∀ p ∈ ps, d.isFolder p = true) (hnodup : ps.Nodup) :
    Completes d (fun _ => False) ps [] where
  folder := by simpa using hps
  nodup := by simpa using hnodup
  mem q := by simp

theorem Completes.trans {wanted wanted' : Place → Prop} {fresh fresh' : List Place}
    (h : Completes d wanted ps fresh) (h' : Completes d wanted' (ps ++ fresh) fresh') :
    Completes d (fun q => wanted q ∨ wanted' q) ps (fresh ++ fresh') where
  folder := by simpa using h'.folder
  nodup := by simpa using h'.nodup
  mem q := by rw [← List.append_assoc, h'.mem, h.mem, or_assoc]

theorem Completes.congr {wanted wanted' : Place → Prop} {fresh : List Place}
    (h : Completes d wanted ps fresh) (hwanted : ∀ q, wanted q ↔ wanted' q) :
    Completes d wanted' ps fresh :=
  ⟨h.folder, h.nodup, fun q => (h.mem q).trans (or_congr_right (hwanted q))⟩

/-- One step: a folder is registered if it is new. -/
theorem exists_add_ofPlaces (hps : ∀ p ∈ ps, d.isFolder p = true) (hnodup : ps.Nodup)
    (hq : d.isFolder q = true) :
    ∃ fresh, Completes d (· = q) ps fresh ∧
      (ofPlaces ps).add d (pathOf q) = (ofPlaces (ps ++ fresh), fresh.map noteOf) := by
  have hnames := isFileName_of_isFolder hq
  have hseen : pathOf q ∈ ps.map pathOf ↔ q ∈ ps := by
    refine ⟨fun h => ?_, List.mem_map_of_mem⟩
    obtain ⟨p, hp, heq⟩ := List.mem_map.1 h
    rwa [← (pathOf_inj (isFileName_of_isFolder (hps p hp)) hnames).1 heq]
  by_cases hmem : q ∈ ps
  · refine ⟨[], ⟨by simpa using hps, by simpa using hnodup, fun q' => ?_⟩,
      by simp [add, ofPlaces, hseen, hmem]⟩
    simpa using fun h : q' = q => h ▸ hmem
  · refine ⟨[q], ⟨?_, List.nodup_append_comm.1 (by simpa using ⟨hmem, hnodup⟩), by simp⟩, ?_⟩
    · simpa [or_imp, forall_and] using ⟨hps, hq⟩
    -- no watch is replaced, since none of the places before is this one
    have hothers : (ps.map fun p => (p, pathOf p)).filter (·.1 != q) =
        ps.map fun p => (p, pathOf p) := by
      refine List.filter_eq_self.2 fun x hx => ?_
      obtain ⟨p, hp, rfl⟩ := List.mem_map.1 hx
      exact bne_iff_ne.2 fun heq => hmem (heq ▸ hp)
    simp [add, ofPlaces, hseen, hmem, locate_pathOf hq, setWatch, hothers,
      clean_pathOf hnames, noteOf]

/-- A run over several folders registers those that are new. -/
theorem exists_addAll_ofPlaces (hps : ∀ p ∈ ps, d.isFolder p = true) (hnodup : ps.Nodup)
    {qs : List Place} (hqs : ∀ q ∈ qs, d.isFolder q = true) :
    ∃ fresh, Completes d (· ∈ qs) ps fresh ∧
      (ofPlaces ps).addAll d (qs.map pathOf) = (ofPlaces (ps ++ fresh), fresh.map noteOf) := by
  induction qs generalizing ps with
  | nil => exact ⟨[], (completes_nil hps hnodup).congr (by simp), by simp [addAll]⟩
  | cons q qs ih =>
    obtain ⟨hq, hqs⟩ := List.forall_mem_cons.1 hqs
    obtain ⟨fresh, hfresh, hadd⟩ := exists_add_ofPlaces hps hnodup hq
    obtain ⟨fresh', hfresh', hadd'⟩ := ih hfresh.folder hfresh.nodup hqs
    refine ⟨fresh ++ fresh', (hfresh.trans hfresh').congr (by simp), ?_⟩
    rw [List.map_cons, addAll_cons, hadd, hadd']
    simp

/-- A run over several trees registers the folders that they cover. -/
theorem exists_addTrees_ofPlaces (hps : ∀ p ∈ ps, d.isFolder p = true) (hnodup : ps.Nodup)
    {roots : List String}
    (hroots : ∀ root ∈ roots, root ≠ "" → ∃ p, d.isFolder p = true ∧ root = pathOf p) :
    ∃ fresh, Completes d (Covers d roots) ps fresh ∧
      (ofPlaces ps).addTrees d roots = (ofPlaces (ps ++ fresh), fresh.map noteOf, .ok ()) := by
  induction roots generalizing ps with
  | nil => exact ⟨[], (completes_nil hps hnodup).congr (by simp [Covers]), by simp [addTrees]⟩
  | cons root roots ih =>
    obtain ⟨hroot, hrest⟩ := List.forall_mem_cons.1 hroots
    by_cases hempty : root = ""
    · subst hempty
      obtain ⟨fresh, hfresh, hadd⟩ := ih hps hnodup hrest
      refine ⟨fresh, hfresh.congr fun q => ?_, by rw [addTrees, hadd]⟩
      rw [covers_cons, or_iff_right not_covers_empty]
    · obtain ⟨p, hp, rfl⟩ := hroot hempty
      obtain ⟨qs, htree, hqs⟩ := exists_treeFolders_pathOf hp
      obtain ⟨fresh, hfresh, hadd⟩ := exists_addAll_ofPlaces hps hnodup fun q hq => ((hqs q).1 hq).1
      obtain ⟨fresh', hfresh', hadd'⟩ := ih hfresh.folder hfresh.nodup hrest
      refine ⟨fresh ++ fresh', (hfresh.trans hfresh').congr fun q => ?_, ?_⟩
      · rw [covers_cons, hqs]
      · rw [addTrees_cons hempty htree, hadd, hadd']
        simp

end Registry

/-- **Exactly the folders that the roots cover are watched.** Let every root that is not empty be a
shortest path from the root of the disk to a folder. Then watching begins without fail, and it
registers the folders that the roots cover, each one time: a folder that is a root, or below a root
along names of which none is passed over. No other path is registered. -/
theorem addTrees_exact {roots : List String}
    (hroots : ∀ root ∈ roots, root ≠ "" →
      Path.isAbsolute root = true ∧ Path.clean root = root ∧ d.find root = .ok .folder) :
    ∃ places : List Place, (places.map pathOf).Nodup ∧ (∀ q, q ∈ places ↔ Covers d roots q) ∧
      Registry.empty.addTrees d roots =
        (⟨places.map pathOf, places.map fun q => (q, pathOf q)⟩,
          places.map (fun q => .watching (pathOf q)), .ok ()) := by
  have hfolders : ∀ root ∈ roots, root ≠ "" → ∃ p, d.isFolder p = true ∧ root = pathOf p := by
    intro root hroot hne
    obtain ⟨habsolute, hclean, hfind⟩ := hroots root hroot hne
    obtain ⟨p, hp, hentry⟩ := exists_locate_of_find hfind
    exact ⟨p, isFolder_iff.2 hentry, eq_pathOf_of_locate habsolute hclean hp⟩
  obtain ⟨places, hplaces, hadd⟩ :=
    Registry.exists_addTrees_ofPlaces (List.forall_mem_nil _) List.nodup_nil hfolders
  refine ⟨places, ?_, fun q => by simpa using hplaces.mem q, hadd⟩
  refine List.Nodup.map_on (fun p hp q hq heq => ?_) hplaces.nodup
  exact (pathOf_inj (isFileName_of_isFolder (hplaces.folder p hp))
    (isFileName_of_isFolder (hplaces.folder q hq))).1 heq

/-- A project with folders of version control and of installed packages. -/
def orchardDisk : Disk :=
  .ofListing
    [(["p"], .folder), (["p", ".git"], .folder), (["p", ".git", "hooks"], .folder),
      (["p", "api"], .folder), (["p", "api", "node_modules"], .folder),
      (["p", "api", "a.yml"], .file [])]
    [] rfl

/-- Roots that overlap: one is in a folder that is passed over below another one, and one stands
there twice. -/
def orchardRoots : List String := ["/p/.git", "", "/p", "/p/api", "/p"]

theorem addTrees_exact_orchardDisk :
    (∀ root ∈ orchardRoots, root ≠ "" →
      Path.isAbsolute root = true ∧ Path.clean root = root ∧ orchardDisk.find root = .ok .folder) ∧
    ∃ places : List Place, (places.map pathOf).Nodup ∧
      ["p", ".git", "hooks"] ∈ places ∧ ["p", "api"] ∈ places ∧
      ["p", "api", "node_modules"] ∉ places ∧
      (Registry.empty.addTrees orchardDisk orchardRoots).2.1 = places.map fun q =>
        .watching (pathOf q) := by
  have hroots : ∀ root ∈ orchardRoots, root ≠ "" →
      Path.isAbsolute root = true ∧ Path.clean root = root ∧
      orchardDisk.find root = .ok .folder := by
    have hplaces : ∀ root ∈ orchardRoots, root ≠ "" →
        ∃ p ∈ [["p", ".git"], ["p"], ["p", "api"]], orchardDisk.isFolder p = true ∧
        root = pathOf p := by decide +kernel
    intro root hroot hne
    obtain ⟨p, -, hp, rfl⟩ := hplaces root hroot hne
    exact ⟨isAbsolute_pathOf p, clean_pathOf (isFileName_of_isFolder hp), find_pathOf hp⟩
  have hpassed : ∀ p ∈ List.inits ["p", "api", "node_modules"], pathOf p ∈ orchardRoots →
      ∃ n ∈ List.drop p.length ["p", "api", "node_modules"], n ∈ passedOver := by decide +kernel
  obtain ⟨places, hnodup, hplaces, hadd⟩ := addTrees_exact hroots
  refine ⟨hroots, places, hnodup, (hplaces _).2 ?_, (hplaces _).2 ?_, fun h => ?_, by rw [hadd]⟩
  · exact ⟨by decide +kernel, ["p", ".git"], ["hooks"], by decide +kernel, rfl, by decide⟩
  · exact ⟨by decide +kernel, ["p", "api"], [], by decide +kernel, rfl, by decide⟩
  · obtain ⟨-, p, names, hp, heq, hnames⟩ := (hplaces _).1 h
    obtain ⟨n, hn, hmem⟩ := hpassed p ((List.mem_inits _ _).2 ⟨names, heq.symm⟩) hp
    rw [heq, List.drop_left] at hn
    exact hnames n hn hmem

end Watch

end PayloadGen
