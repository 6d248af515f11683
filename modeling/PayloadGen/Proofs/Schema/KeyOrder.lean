import PayloadGen.Proofs.Files.Path
import PayloadGen.Proofs.Yaml.Plain
import PayloadGen.Schema.KeyOrder

/-!
# What is recorded about the order of keys

`KeyOrder.ofNode` records the keys of a mapping under the dot-joined keys that lead to it. In a
plain node whose paths can be told apart (`Node.PathsDiffer`) the record of a mapping under
`properties` is found again under its path (`KeyOrder.find?_ofNode`), and names that are the keys of
that mapping are arranged as they stand there (`KeyOrder.arrange_eq`). Paths can be told apart if no
key is empty or has a dot in it (`pathsDiffer_of_dotless`).
-/

namespace PayloadGen

open Yaml

/-! ## Ways through a node -/

namespace Yaml.Node

/-- The node under these keys, one inside the other. -/
def walk? : List String → Node → Option Node
  | [], n => some n
  | key :: path, n => (n.entryAt? key).bind (walk? path)

theorem walk?_append (path path' : List String) (n : Node) :
    n.walk? (path ++ path') = (n.walk? path).bind (walk? path') := by
  induction path generalizing n with
  | nil => rfl
  | cons key path ih =>
    rw [List.cons_append, walk?, walk?]
    cases n.entryAt? key with
    | none => rfl
    | some m => exact ih m

theorem walk?_concat (path : List String) (key : String) (n : Node) :
    n.walk? (path ++ [key]) = (n.walk? path).bind (Node.entryAt? key) := by
  rw [walk?_append]
  cases n.walk? path with
  | none => rfl
  | some m =>
    show (m.entryAt? key).bind (walk? []) = m.entryAt? key
    cases m.entryAt? key <;> rfl

theorem entryAt?_eq_some {key : String} {n v : Node} (h : n.entryAt? key = some v) :
    ∃ line tag entries k, n = .mapping line tag entries ∧ (k, v) ∈ entries ∧ k.label = key := by
  cases n with
  | mapping line tag entries =>
    obtain ⟨⟨k, _⟩, he, rfl⟩ := Option.map_eq_some_iff.1 h
    exact ⟨line, tag, entries, k, rfl, List.mem_of_find?_eq_some he,
      by simpa using List.find?_some he⟩
  | _ => cases h

theorem isSome_entryAt?_iff {key : String} {n : Node} : (n.entryAt? key).isSome ↔ key ∈ n.keys := by
  cases n with
  | mapping line tag entries => simp [Node.entryAt?, keys]
  | _ => simp [Node.entryAt?, keys]

theorem at_of_walk? {path : List String} {n m : Node} (h : n.walk? path = some m) :
    n.At path m := by
  induction path generalizing n with
  | nil =>
    cases h
    exact .here m
  | cons key path ih =>
    obtain ⟨v, hv, hm⟩ := Option.bind_eq_some_iff.1 h
    obtain ⟨line, tag, entries, k, rfl, hk, rfl⟩ := entryAt?_eq_some hv
    exact .entry hk (ih hm)

theorem exists_entry_of_at {line : Nat} {tag : Option String} {entries : List (Node × Node)}
    {key : String} {path : List String} {m : Node}
    (h : (Node.mapping line tag entries).At (key :: path) m) :
    ∃ k v, (k, v) ∈ entries ∧ key = k.label ∧ v.At path m := by
  cases h with
  | entry he hinner => exact ⟨_, _, he, rfl, hinner⟩

/-- What stands under the keys of a way stands in the node at its end. -/
theorem Plain.at_of_walk? {path : List String} {n m m' : Node} (hn : n.Plain)
    (h : n.walk? path = some m) (hm' : n.At path m') : m.At [] m' := by
  induction path generalizing n with
  | nil =>
    cases h
    exact hm'
  | cons key path ih =>
    obtain ⟨v, hv, hm⟩ := Option.bind_eq_some_iff.1 h
    obtain ⟨line, tag, entries, k, rfl, hk, rfl⟩ := entryAt?_eq_some hv
    obtain ⟨k', v', he, hlabel, hinner⟩ := exists_entry_of_at hm'
    cases List.inj_on_of_nodup_map hn.nodup_keys hk he hlabel
    exact ih (hn.entry hk) hm hinner

theorem eq_of_at_nil {line : Nat} {tag : Option String} {entries : List (Node × Node)} {m : Node}
    (h : (Node.mapping line tag entries).At [] m) : m = .mapping line tag entries := by
  cases h
  rfl

end Yaml.Node

namespace KeyOrder

/-! ## Paths -/

/-- The path of a mapping that stands under these keys. -/
def path (keys : List String) : String :=
  keys.foldl child ""

@[simp] theorem path_nil : path [] = "" := rfl

theorem path_concat (keys : List String) (key : String) :
    path (keys ++ [key]) = child (path keys) key :=
  List.foldl_concat child "" key keys

theorem join_pair {key : String} (hkey : key ≠ "") (p : String) : join [p, key] = child p key := by
  by_cases hp : p = ""
  · simp [join, child, hp, hkey]
  · simp [join, child, hp, hkey, String.intercalate_cons_cons, String.append_assoc]

theorem isRecorded_child (p : String) : isRecorded (child p propertiesKey) := by
  by_cases hp : p = ""
  · simp [isRecorded, child, hp]
  · have hsuffix : ("." ++ propertiesKey).toList.isSuffixOf (p ++ "." ++ propertiesKey).toList := by
      rw [List.isSuffixOf_iff_suffix]
      exact ⟨p.toList, by simp⟩
    simp only [isRecorded, child, hp, if_false, hsuffix, Bool.or_true]

/-! ## Records -/

mutual

/-- Every record is that of a mapping in the node. -/
theorem exists_at_of_mem_collect : ∀ (n : Node) {above : List String} {r : String × List String},
    r ∈ collect (path above) n → ∃ keys line tag entries, n.At keys (.mapping line tag entries) ∧
      r = (path (above ++ keys), entries.map (·.1.label))
  | .scalar .., _, _, h => by
    rw [collect] at h
    cases h
  | .aliasOf .., _, _, h => by
    rw [collect] at h
    cases h
  | .sequence _ _ items, _, _, h => by
    rw [collect] at h
    obtain ⟨n, hn, keys, line, tag, entries, hat, hr⟩ := exists_at_of_mem_collectItems items h
    exact ⟨keys, line, tag, entries, .item hn hat, hr⟩
  | .mapping line tag entries, above, _, h => by
    rw [collect, List.mem_append] at h
    rcases h with h | h
    · obtain ⟨k, v, hk, keys, line, tag, inner, hat, hr⟩ :=
        exists_at_of_mem_collectEntries entries h
      exact ⟨k.label :: keys, line, tag, inner, .entry hk hat, hr⟩
    · split at h
      · exact ⟨[], line, tag, entries, .here _, by simpa using h⟩
      · cases h

theorem exists_at_of_mem_collectItems :
    ∀ (items : List Node) {above : List String} {r : String × List String},
    r ∈ collectItems (path above) items → ∃ n ∈ items, ∃ keys line tag entries,
      n.At keys (.mapping line tag entries) ∧ r = (path (above ++ keys), entries.map (·.1.label))
  | [], _, _, h => by
    rw [collectItems] at h
    cases h
  | n :: items, _, _, h => by
    rw [collectItems, List.mem_append] at h
    rcases h with h | h
    · exact ⟨n, List.mem_cons_self, exists_at_of_mem_collect n h⟩
    · obtain ⟨m, hm, hr⟩ := exists_at_of_mem_collectItems items h
      exact ⟨m, List.mem_cons_of_mem _ hm, hr⟩

theorem exists_at_of_mem_collectEntries : ∀ (es : List (Node × Node)) {above : List String}
    {r : String × List String}, r ∈ collectEntries (path above) es → ∃ k v, (k, v) ∈ es ∧
      ∃ keys line tag entries, v.At keys (.mapping line tag entries) ∧
        r = (path (above ++ k.label :: keys), entries.map (·.1.label))
  | [], _, _, h => by
    rw [collectEntries] at h
    cases h
  | (k, v) :: es, above, _, h => by
    rw [collectEntries, List.mem_append, ← path_concat] at h
    rcases h with h | h
    · obtain ⟨keys, line, tag, entries, hat, hr⟩ := exists_at_of_mem_collect v h
      rw [List.append_assoc] at hr
      exact ⟨k, v, List.mem_cons_self, keys, line, tag, entries, hat, hr⟩
    · obtain ⟨k', v', hk', hr⟩ := exists_at_of_mem_collectEntries es h
      exact ⟨k', v', List.mem_cons_of_mem _ hk', hr⟩

end

theorem collect_subset_collectItems {p : String} {n : Node} {items : List Node} (hn : n ∈ items) :
    collect p n ⊆ collectItems p items := by
  induction items with
  | nil => cases hn
  | cons m items ih =>
    rw [collectItems]
    rcases List.mem_cons.1 hn with rfl | hn
    · exact List.subset_append_left _ _
    · exact List.Subset.trans (ih hn) (List.subset_append_right _ _)

theorem collect_subset_collectEntries {p : String} {k v : Node} {entries : List (Node × Node)}
    (he : (k, v) ∈ entries) : collect (child p k.label) v ⊆ collectEntries p entries := by
  induction entries with
  | nil => cases he
  | cons e entries ih =>
    obtain ⟨k', v'⟩ := e
    rw [collectEntries]
    rcases List.mem_cons.1 he with heq | he
    · cases heq
      exact List.subset_append_left _ _
    · exact List.Subset.trans (ih he) (List.subset_append_right _ _)

/-- A mapping whose path calls for it has a record. -/
theorem mem_collect_of_at {n m : Node} {keys above : List String} (h : n.At keys m) {line : Nat}
    {tag : Option String} {entries : List (Node × Node)} (hm : m = .mapping line tag entries)
    (hrecorded : isRecorded (path (above ++ keys))) :
    (path (above ++ keys), entries.map (·.1.label)) ∈ collect (path above) n := by
  induction h generalizing above with
  | here n =>
    subst hm
    rw [List.append_nil] at hrecorded ⊢
    rw [collect, if_pos hrecorded]
    exact List.mem_append_right _ List.mem_cons_self
  | item hn _ ih =>
    rw [collect]
    exact collect_subset_collectItems hn (ih hm hrecorded)
  | entry he _ ih =>
    rw [List.append_cons, collect] at *
    refine List.mem_append_left _ (collect_subset_collectEntries he ?_)
    rw [← path_concat]
    exact ih hm hrecorded

/-! ## Looking up -/

end KeyOrder

/-- Mappings that stand under different keys have different paths. -/
def Yaml.Node.PathsDiffer (n : Node) : Prop :=
  ∀ {keys keys' line line' tag tag' entries entries'}, n.At keys (.mapping line tag entries) →
    n.At keys' (.mapping line' tag' entries') → KeyOrder.path keys = KeyOrder.path keys' →
    keys = keys'

namespace KeyOrder

/-- The keys of a mapping under `properties` are found under its path. -/
theorem find?_ofNode {n : Node} (hplain : n.Plain) (hpaths : n.PathsDiffer) {keys : List String}
    {line : Nat} {tag : Option String} {entries : List (Node × Node)}
    (hwalk : n.walk? (keys ++ [propertiesKey]) = some (.mapping line tag entries)) :
    (ofNode "" n).find? (path (keys ++ [propertiesKey])) = some (entries.map (·.1.label)) := by
  have hat := Node.at_of_walk? hwalk
  have hrecorded : isRecorded (path (keys ++ [propertiesKey])) := by
    rw [path_concat]
    exact isRecorded_child _
  have hmem : (path ([] ++ (keys ++ [propertiesKey])), entries.map (·.1.label)) ∈
      collect (path []) n :=
    mem_collect_of_at hat rfl hrecorded
  have hkey : path (keys ++ [propertiesKey]) ∈ (ofNode "" n).keys :=
    Pairs.mem_keys_ofList.2 (List.mem_map_of_mem hmem)
  obtain ⟨labels, hfind, hlabels⟩ := Pairs.exists_find?_of_mem_keys hkey
  -- Whatever record is found there belongs to the same mapping, as no other has this path.
  have hrecord : (path (keys ++ [propertiesKey]), labels) ∈ collect (path []) n :=
    Pairs.mem_of_mem_ofList hlabels
  obtain ⟨keys', line', tag', entries', hat', hr⟩ := exists_at_of_mem_collect n hrecord
  obtain ⟨hpath, rfl⟩ := Prod.mk.inj hr
  cases hpaths hat hat' hpath
  cases Node.eq_of_at_nil (hplain.at_of_walk? hwalk hat')
  exact hfind

/-- Names that are the keys of a recorded mapping are arranged as they stand there. -/
theorem arrange_eq {order : KeyOrder} {p : String} {keys names : List String} (hkeys : keys.Nodup)
    (hfind : order.find? p = some keys) (hnames : ∀ name, name ∈ names ↔ name ∈ keys) :
    order.arrange p names = keys := by
  have hrecorded : distinct (keys.filter names.contains) = keys := by
    rw [List.filter_eq_self.2 fun key hkey => by simpa using (hnames key).2 hkey,
      distinct_of_nodup hkeys]
  have hothers : (distinct names).filter (!keys.contains ·) = [] :=
    List.filter_eq_nil_iff.2 fun name hname => by
      simpa using (hnames name).1 (List.mem_eraseDups.1 hname)
  simp only [arrange, hfind, Option.getD_some, hrecorded, hothers]
  simp [sortTexts]

theorem arrange_nil (order : KeyOrder) (p : String) : order.arrange p [] = [] := by
  have hrecorded : ((order.find? p).getD []).filter ([] : List String).contains = [] :=
    List.filter_eq_nil_iff.2 fun key _ => by simp
  simp only [arrange, hrecorded]
  simp [distinct, sortTexts]

/-! ## Paths without dots -/

theorem path_eq_empty_iff {keys : List String} (h : ∀ key ∈ keys, key ≠ "") :
    path keys = "" ↔ keys = [] := by
  induction keys using List.reverseRecOn with
  | nil => exact ⟨fun _ => rfl, fun _ => rfl⟩
  | append_singleton keys key ih =>
    have hkey : key ≠ "" := h key (by simp)
    rw [path_concat, child]
    split <;> simp [hkey, String.append_eq_empty_iff]

theorem splitOn_path {keys : List String} (hne : keys ≠ []) (hempty : ∀ key ∈ keys, key ≠ "")
    (hdots : ∀ key ∈ keys, '.' ∉ key.toList) :
    List.splitOn '.' (path keys).toList = keys.map String.toList := by
  induction keys using List.reverseRecOn with
  | nil => exact absurd rfl hne
  | append_singleton keys key ih =>
    have hkey : List.splitOn '.' key.toList = [key.toList] :=
      List.splitOn_eq_singleton (hdots key (by simp))
    have hempty' : ∀ k ∈ keys, k ≠ "" := fun k hk => hempty k (List.mem_append_left _ hk)
    rw [path_concat, child]
    by_cases hkeys : keys = []
    · subst hkeys
      simpa [path] using hkey
    · rw [if_neg fun h => hkeys ((path_eq_empty_iff hempty').1 h)]
      have hlist : (path keys ++ "." ++ key).toList = (path keys).toList ++ '.' :: key.toList := by
        simp
      rw [hlist, List.splitOn_append_cons_self, hkey, ih hkeys hempty' fun k hk =>
        hdots k (List.mem_append_left _ hk)]
      simp

theorem path_injective {keys keys' : List String}
    (hkeys : ∀ key ∈ keys, key ≠ "" ∧ '.' ∉ key.toList)
    (hkeys' : ∀ key ∈ keys', key ≠ "" ∧ '.' ∉ key.toList) (h : path keys = path keys') :
    keys = keys' := by
  have hempty : ∀ key ∈ keys, key ≠ "" := fun key hkey => (hkeys key hkey).1
  have hempty' : ∀ key ∈ keys', key ≠ "" := fun key hkey => (hkeys' key hkey).1
  by_cases hnil : keys = []
  · subst hnil
    exact ((path_eq_empty_iff hempty').1 h.symm).symm
  · have hnil' : keys' ≠ [] := fun hnil' =>
      hnil ((path_eq_empty_iff hempty).1 (h.trans (by rw [hnil', path_nil])))
    have hsplit := splitOn_path hnil hempty fun key hkey => (hkeys key hkey).2
    rw [h, splitOn_path hnil' hempty' fun key hkey => (hkeys' key hkey).2] at hsplit
    exact (List.map_injective_iff.2 (fun _ _ => String.toList_inj.1) hsplit).symm

end KeyOrder

namespace Yaml.Node

theorem exists_keys_of_at {n m : Node} {keys : List String} (h : n.At keys m) :
    ∀ key ∈ keys, ∃ above v, n.At above v ∧ key ∈ v.keys := by
  induction h with
  | here => simp
  | item hn _ ih =>
    intro key hkey
    obtain ⟨above, v, hv, hmem⟩ := ih key hkey
    exact ⟨above, v, .item hn hv, hmem⟩
  | entry he _ ih =>
    intro key hkey
    rcases List.mem_cons.1 hkey with rfl | hkey
    · exact ⟨[], _, .here _, List.mem_map.2 ⟨_, he, rfl⟩⟩
    · obtain ⟨above, v, hv, hmem⟩ := ih key hkey
      exact ⟨_ :: above, v, .entry he hv, hmem⟩

/-- Keys that are not empty and have no dots in them make paths that differ. -/
theorem pathsDiffer_of_dotless {n : Node}
    (h : ∀ above m, n.At above m → ∀ key ∈ m.keys, key ≠ "" ∧ '.' ∉ key.toList) :
    n.PathsDiffer := by
  intro keys keys' _ _ _ _ _ _ hat hat' heq
  have hkeys {keys : List String} {m : Node} (hat : n.At keys m) :
      ∀ key ∈ keys, key ≠ "" ∧ '.' ∉ key.toList := by
    intro key hkey
    obtain ⟨above, v, hv, hmem⟩ := exists_keys_of_at hat key hkey
    exact h above v hv key hmem
  exact KeyOrder.path_injective (hkeys hat) (hkeys hat') heq

end Yaml.Node

end PayloadGen
