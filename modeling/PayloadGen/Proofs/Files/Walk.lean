import PayloadGen.Proofs.Dict
import PayloadGen.Proofs.Files.Place

/-!
# Getting to a place

On a disk everything stands in a folder. So one gets to a place along its shortest path if one gets
there at all, and on to what is in a folder (`locate_join`).
-/

namespace PayloadGen.Disk

open Text

variable {d d' : Disk} {p q : Place} {path : String}

/-! ## Entries after a change -/

@[simp] theorem here_remove (d : Disk) (path : String) : (d.remove path).here = d.here := by
  unfold remove
  split <;> rfl

theorem exists_move_of_rename {old new : String} (h : d.rename old new = .ok d') :
    ∃ p q, ∃ hmove : d.entries.AdmitsMove p q,
      d.locate old = .ok p ∧ d.locate new = .ok q ∧ d' = d.move p q hmove := by
  unfold rename at h
  split at h
  · cases h
  rename_i p hp
  split at h
  · cases h
  rename_i q hq
  split at h
  · cases h
  split at h
  · split at h
    · split at h
      · split at h
        · cases h
        · split at h
          · cases h
          · exact ⟨p, q, _, hp, hq, (Except.ok.inj h).symm⟩
      · exact ⟨p, q, _, hp, hq, (Except.ok.inj h).symm⟩
    · cases h
  · cases h

/-! ## What stands in folders -/

theorem isFileName_of_isSome (h : (d.entryAt? p).isSome) : ∀ n ∈ p, IsFileName n :=
  d.sound.isFileName p h

/-- What something stands in, at whatever distance, is a folder. -/
theorem folder_of_append {t : Place} (ht : t ≠ []) (h : (d.entryAt? (p ++ t)).isSome) :
    d.entryAt? p = some .folder :=
  d.sound.folder_of_append ht h

theorem folder_of_isPrefix (hpq : p <+: q) (h : d.entryAt? q = some .folder) :
    d.entryAt? p = some .folder :=
  d.sound.folder_of_isPrefix hpq h

/-- The names in a folder are those of what stands in it. -/
theorem mem_names {n : String} : n ∈ d.names p ↔ (d.entryAt? (p ++ [n])).isSome := by
  have hmem : n ∈ d.names p ↔ p ++ [n] ∈ d.entries.map (·.1) := by
    simp only [names, mem_sortTexts, List.mem_filterMap, List.mem_map]
    refine exists_congr fun e => and_congr_right fun _ => ?_
    constructor
    · intro h
      split at h
      · rename_i hdrop
        obtain ⟨front, hfront⟩ := List.getLast?_eq_some_iff.1 h
        obtain rfl : front = p := by simpa [hfront] using hdrop
        exact hfront
      · cases h
    · intro h
      simp [h]
  exact hmem.trans ⟨Listing.isSome_of_mem, Listing.mem_of_isSome (by simp)⟩

/-- There are not more names on a way down than there are entries. -/
theorem length_le_entries {names : List String} (h : (d.entryAt? (p ++ names)).isSome) :
    names.length ≤ d.entries.length := by
  -- The places on the way down have entries, and they differ in their lengths.
  let fronts := (List.range names.length).map fun i => p ++ names.take (i + 1)
  have hnodup : fronts.Nodup := by
    refine List.Nodup.map_on (fun i hi j hj hij => ?_) List.nodup_range
    have hlength := congrArg List.length hij
    simp only [List.mem_range] at hi hj
    simp only [List.length_append, List.length_take] at hlength
    omega
  have hsub : fronts ⊆ d.entries.map (·.1) := by
    intro x hx
    obtain ⟨i, hi, rfl⟩ := List.mem_map.1 hx
    have hsplit : p ++ names.take (i + 1) ++ names.drop (i + 1) = p ++ names := by
      rw [List.append_assoc, List.take_append_drop]
    have hsome : (d.entryAt? (p ++ names.take (i + 1))).isSome := by
      by_cases hdrop : names.drop (i + 1) = []
      · rw [← hsplit, hdrop, List.append_nil] at h
        exact h
      · simp [folder_of_append hdrop (hsplit ▸ h)]
    have hnames : names ≠ [] := List.ne_nil_of_length_pos (Nat.zero_lt_of_lt (List.mem_range.1 hi))
    exact Listing.mem_of_isSome (by simp [hnames]) hsome
  simpa [fronts] using (List.subperm_of_subset hnodup hsub).length_le

/-! ## Getting to a place -/

theorem walk_cons_of_folder (hp : d.entryAt? p = some .folder) {w : String}
    (hw : w.utf8ByteSize ≤ 255) (ws : List String) :
    d.walk p (w :: ws) = d.walk (Path.go p w) ws := by
  rw [walk, hp]
  dsimp only [Path.go]
  split
  · rfl
  · split
    · rfl
    · rw [if_neg (Nat.not_lt.2 hw)]

/-- One gets along parts whose places are folders. -/
theorem walk_eq_foldl_go {ws : List String}
    (hfolder : ∀ us, us <+: ws → us ≠ ws → d.entryAt? (us.foldl Path.go p) = some .folder)
    (hshort : ∀ w ∈ ws, w.utf8ByteSize ≤ 255) : d.walk p ws = .ok (ws.foldl Path.go p) := by
  induction ws generalizing p with
  | nil => rfl
  | cons w ws ih =>
    obtain ⟨hw, hws⟩ := List.forall_mem_cons.1 hshort
    have hp : d.entryAt? p = some .folder := hfolder [] List.nil_prefix (List.cons_ne_nil w ws).symm
    rw [walk_cons_of_folder hp hw, List.foldl_cons]
    refine ih (fun us hus hne => ?_) hws
    exact hfolder (w :: us) ((List.prefix_cons_inj w).2 hus) (fun h => hne (List.cons.inj h).2)

theorem folder_of_walk {ws : List String} (hws : ws ≠ []) (h : d.walk p ws = .ok q) :
    d.entryAt? p = some .folder := by
  obtain ⟨w, ws, rfl⟩ := List.exists_cons_of_ne_nil hws
  rw [walk] at h
  split at h
  · cases h
  · cases h
  · assumption

theorem foldl_go_up_isPrefix {us : List String} (h : ∀ w ∈ us, w = "..") (p : Place) :
    us.foldl Path.go p <+: p := by
  induction us generalizing p with
  | nil => exact List.prefix_rfl
  | cons w us ih =>
    obtain rfl := h w List.mem_cons_self
    rw [List.foldl_cons, Path.go_up]
    exact (ih (fun v hv => h v (List.mem_cons_of_mem _ hv)) _).trans (List.dropLast_prefix p)

/-- A shortest path first leads up and then down, so all places on it are above its start or above
its end. -/
theorem foldl_go_isPrefix {us : List String} (hus : us <+: Path.cleanParts path) (base : Place) :
    us.foldl Path.go base <+: base ∨
      us.foldl Path.go base <+: (Path.cleanParts path).foldl Path.go base := by
  obtain ⟨names, k, hshape, hnames⟩ :=
    ((Path.isShortest_nil (Path.isAbsolute path)).foldl_step (Path.parts path)).shape
  rw [Path.cleanParts, hshape, List.reverse_append, List.reverse_replicate] at hus ⊢
  have hnames : ∀ w ∈ names.reverse, Path.IsName w := fun w hw => hnames w (List.mem_reverse.1 hw)
  rcases Nat.le_total us.length (List.replicate k "..").length with hle | hle
  · have hup : us <+: List.replicate k ".." :=
      List.prefix_of_prefix_length_le hus (List.prefix_append _ _) hle
    exact .inl (foldl_go_up_isPrefix (fun w hw => List.eq_of_mem_replicate (hup.subset hw)) base)
  · obtain ⟨down, rfl⟩ := List.prefix_of_prefix_length_le (List.prefix_append _ _) hus hle
    obtain ⟨rest, hrest⟩ := (List.prefix_append_right_inj _).1 hus
    rw [← hrest] at hnames ⊢
    refine .inr ⟨rest, ?_⟩
    have hdown := Path.foldl_go_of_isName (fun w hw => hnames w (List.mem_append_right _ hw))
      ((List.replicate k ".." ++ down).foldl Path.go base)
    rw [← hdown, ← List.foldl_append, List.append_assoc]

/-- If a path leads to a folder, then its shortest form does, and one gets on to what is in the
folder. -/
theorem walk_cleanParts (hbase : Path.isAbsolute path = true → p = [])
    (h : d.walk p (Path.parts path) = .ok q) (hq : d.entryAt? q = some .folder) {n : String}
    (hn : IsFileName n) : d.walk p (Path.cleanParts path ++ [n]) = .ok (q ++ [n]) := by
  have hplace : (Path.cleanParts path).foldl Path.go p = q :=
    (Path.foldl_go_cleanParts path hbase).trans (eq_foldl_go_of_walk h).symm
  have hend : (Path.cleanParts path ++ [n]).foldl Path.go p = q ++ [n] := by
    rw [List.foldl_append, hplace]
    exact Path.go_of_isName hn.name q
  have hfolder : d.entryAt? p = some .folder := folder_of_walk (Path.parts_ne_nil path) h
  rw [← hend]
  refine walk_eq_foldl_go (fun us hus hne => ?_) fun w hw => ?_
  · have hus : us <+: Path.cleanParts path := (List.prefix_concat_iff.1 hus).resolve_left hne
    rcases foldl_go_isPrefix hus p with hup | hdown
    · exact folder_of_isPrefix hup hfolder
    · exact folder_of_isPrefix (hplace ▸ hdown) hq
  · rcases List.mem_append.1 hw with hw | hw
    · exact utf8ByteSize_le_of_walk h w (Path.mem_of_mem_cleanParts hw).1
    · exact List.mem_singleton.1 hw ▸ hn.short

theorem null_not_mem_clean {p : String} (h : '\x00' ∉ p.toList) :
    '\x00' ∉ (Path.clean p).toList := by
  intro hmem
  obtain ⟨w, hw, hnull⟩ := Path.exists_mem_parts_of_mem hmem (by decide)
  have hcases : w = "" ∨ w = "." ∨ w ∈ Path.cleanParts p := by
    rw [Path.parts_clean] at hw
    rcases List.mem_append.1 hw with hw | hw
    · split at hw
      · exact .inl (List.mem_singleton.1 hw)
      · cases hw
    · split at hw
      · split at hw
        · exact .inl (List.mem_singleton.1 hw)
        · exact .inr (.inl (List.mem_singleton.1 hw))
      · exact .inr (.inr hw)
  rcases hcases with rfl | rfl | hw
  · cases hnull
  · exact absurd hnull (by decide)
  · exact h (Path.mem_of_mem_parts (Path.mem_of_mem_cleanParts hw).1 hnull)

/-- **What is in a folder is found under the path of the folder and its name.** -/
theorem locate_join (h : d.locate path = .ok q) (hq : d.entryAt? q = some .folder) {n : String}
    (hn : IsFileName n) : d.locate (Path.join [path, n]) = .ok (q ++ [n]) := by
  obtain ⟨hpath, hnull, hwalk⟩ := locate_eq_ok_iff.1 h
  have habsolute := Path.isAbsolute_append_slash hpath n
  have hclean := Path.cleanParts_append_name hpath hn.name hn.slash
  have hgets := walk_cleanParts (fun h => if_pos h) hwalk hq hn
  have hfolder := folder_of_walk (Path.parts_ne_nil path) hwalk
  have hne : Path.cleanParts (path ++ "/" ++ n) ≠ [] := by simp [hclean]
  rw [Path.join_pair hpath hn.name.1, locate_eq_ok_iff]
  refine ⟨Path.clean_ne_empty _, null_not_mem_clean (by simp [hnull, hn.null]), ?_⟩
  rw [Path.isAbsolute_clean, Path.parts_clean, habsolute, if_neg hne, hclean]
  cases habs : Path.isAbsolute path with
  | false => simpa [habs] using hgets
  | true =>
    simp only [habs, if_true] at hfolder hgets
    rw [if_pos rfl, if_pos rfl, List.singleton_append, walk_cons_of_folder hfolder (by decide)]
    exact hgets

end PayloadGen.Disk
