import PayloadGen.Proofs.Schema.Reordered
import PayloadGen.Proofs.Text.Utf8

/-!
# How keys are arranged

The keys of an object are a set. To list them, those that a table records for the path of the object
are put first, in the order in which they first stand there, and the others follow in the order of
their bytes. The record may repeat keys, name keys that the object does not have, and leave out
others. There is exactly one listing of this kind (`KeyOrder.Arranged.eq`), and `KeyOrder.arrange`
finds it (`KeyOrder.arrange_exact`), so the order in which the keys of the object come does not
matter.
-/

namespace PayloadGen

open Text

/-- The distinct members of a list that have a property stand in the order in which they first stand
in the list. -/
theorem pairwise_idxOf_distinct (p : String → Bool) (ts : List String) :
    (distinct (ts.filter p)).Pairwise fun a b => ts.idxOf a < ts.idxOf b := by
  induction ts using List.reverseRecOn with
  | nil => exact .nil
  | append_singleton ts t ih =>
    -- a member that is added at the end changes no place before it
    have hplace {a : String} (ha : a ∈ ts) : (ts ++ [t]).idxOf a = ts.idxOf a :=
      List.idxOf_append_of_mem ha
    have hmem {a : String} (ha : a ∈ distinct (ts.filter p)) : a ∈ ts :=
      (List.mem_filter.1 (List.mem_eraseDups.1 ha)).1
    have hkept : (distinct (ts.filter p)).Pairwise fun a b =>
        (ts ++ [t]).idxOf a < (ts ++ [t]).idxOf b := by
      refine ih.imp_of_mem fun ha hb h => ?_
      rwa [hplace (hmem ha), hplace (hmem hb)]
    rw [List.filter_append]
    by_cases hp : p t = true
    · rw [List.filter_cons_of_pos hp, List.filter_nil, distinct, List.eraseDups_append]
      by_cases hold : t ∈ ts
      · have hnone : [t].removeAll (ts.filter p) = [] := by simp [List.removeAll, hold, hp]
        rw [hnone, List.eraseDups_nil, List.append_nil]
        exact hkept
      · have hnew : [t].removeAll (ts.filter p) = [t] := by simp [List.removeAll, hold]
        rw [hnew, List.eraseDups_cons, List.filter_nil, List.eraseDups_nil]
        refine List.pairwise_append.2 ⟨hkept, List.pairwise_singleton _ _, fun a ha b hb => ?_⟩
        rw [List.mem_singleton.1 hb, hplace (hmem ha), List.idxOf_append_of_notMem hold]
        exact Nat.lt_of_lt_of_le (List.idxOf_lt_length_iff.2 (hmem ha)) (Nat.le_add_right _ _)
    · rw [List.filter_cons_of_neg hp, List.filter_nil, List.append_nil]
      exact hkept

namespace KeyOrder

/-- A listing of keys: every key is listed once and nothing else is. The keys that are recorded come
first, in the order in which they are first recorded, then the others, in the order of their
bytes. -/
structure Arranged (recorded keys listed : List String) : Prop where
  nodup : listed.Nodup
  mem_iff : ∀ key, key ∈ listed ↔ key ∈ keys
  ordered : ∃ first rest, listed = first ++ rest ∧
    (∀ key ∈ first, key ∈ recorded) ∧
    first.Pairwise (fun a b => recorded.idxOf a < recorded.idxOf b) ∧
    (∀ key ∈ rest, key ∉ recorded) ∧ rest.Pairwise (fun a b => utf8 a < utf8 b)

/-- Lists of distinct members with the same members are equal if both are in the same strict
order. -/
theorem eq_of_pairwise_of_mem_iff {r : String → String → Prop} (hasymm : ∀ a b, r a b → ¬ r b a)
    {xs ys : List String} (hxs : xs.Pairwise r) (hys : ys.Pairwise r)
    (hmem : ∀ key, key ∈ xs ↔ key ∈ ys) : xs = ys := by
  have hnodup {l : List String} (h : l.Pairwise r) : l.Nodup := by
    refine h.imp fun hab => ?_
    rintro rfl
    exact hasymm _ _ hab hab
  exact ((List.perm_ext_iff_of_nodup (hnodup hxs) (hnodup hys)).2 hmem).eq_of_pairwise
    (fun a b _ _ hab hba => absurd hba (hasymm a b hab)) hxs hys

/-- There is one listing at most. -/
theorem Arranged.eq {recorded keys listed listed' : List String} (h : Arranged recorded keys listed)
    (h' : Arranged recorded keys listed') : listed = listed' := by
  obtain ⟨first, rest, rfl, hfirst, hfirsts, hrest, hrests⟩ := h.ordered
  obtain ⟨first', rest', rfl, hfirst', hfirsts', hrest', hrests'⟩ := h'.ordered
  have hmem (key : String) : key ∈ first ∨ key ∈ rest ↔ key ∈ first' ∨ key ∈ rest' := by
    rw [← List.mem_append, ← List.mem_append, h.mem_iff, h'.mem_iff]
  have hrecorded : first = first' :=
    eq_of_pairwise_of_mem_iff (fun a b => Nat.lt_asymm) hfirsts hfirsts' fun key => by grind
  have hothers : rest = rest' :=
    eq_of_pairwise_of_mem_iff (fun a b => List.lt_asymm) hrests hrests' fun key => by grind
  rw [hrecorded, hothers]

theorem arranged_arrange (order : KeyOrder) (path : String) (keys : List String) :
    Arranged ((order.find? path).getD []) keys (order.arrange path keys) where
  nodup := nodup_arrange
  mem_iff _ := mem_arrange
  ordered := by
    refine ⟨_, _, rfl, fun key hkey => ?_, pairwise_idxOf_distinct _ _, fun key hkey => ?_, ?_⟩
    · exact (List.mem_filter.1 (List.mem_eraseDups.1 hkey)).1
    · simp only [mem_sortTexts, List.mem_filter, List.mem_eraseDups] at hkey
      intro hrecorded
      simp [hkey.1, hrecorded] at hkey
    · have hnodup := (List.nodup_append.1 (@nodup_arrange order path keys)).2.1
      refine ((pairwise_le_sortTexts _).and hnodup).imp fun h => ?_
      exact utf8_lt_iff.2 (lt_of_le_of_ne h.1 h.2)

/-- **The keys of an object have one arrangement.** Whatever is recorded for a path, the arranged
keys are the only listing that has every key once and nothing else, with the recorded keys first, as
they are first recorded, and the others after them in the order of their bytes. It does not depend
on the order in which the keys are given. -/
theorem arrange_exact (order : KeyOrder) (path : String) (keys : List String) :
    (∀ listed, Arranged ((order.find? path).getD []) keys listed ↔
      listed = order.arrange path keys) ∧
    ∀ keys', (∀ key, key ∈ keys' ↔ key ∈ keys) →
      order.arrange path keys' = order.arrange path keys := by
  have harranged := arranged_arrange order path keys
  refine ⟨fun listed => ⟨fun h => h.eq harranged, fun h => h ▸ harranged⟩, fun keys' hkeys => ?_⟩
  have harranged' := arranged_arrange order path keys'
  exact Arranged.eq
    { harranged' with mem_iff := fun key => (harranged'.mem_iff key).trans (hkeys key) } harranged

/-- A record that repeats a key and has one that is not there. -/
def lampOrder : KeyOrder :=
  [("lamp.properties", ["mode", "hue", "colour", "mode"])]

theorem arrange_exact_lampOrder :
    lampOrder.arrange "lamp.properties" ["éclat", "colour", "power", "Zone", "mode"] =
      ["mode", "colour", "Zone", "power", "éclat"] ∧
    lampOrder.arrange "lamp.properties" ["power", "mode", "Zone", "éclat", "colour"] =
      ["mode", "colour", "Zone", "power", "éclat"] := by
  obtain ⟨hunique, hsame⟩ :=
    arrange_exact lampOrder "lamp.properties" ["éclat", "colour", "power", "Zone", "mode"]
  have hlisted := (hunique ["mode", "colour", "Zone", "power", "éclat"]).1
    { nodup := by decide
      mem_iff := fun key => by grind
      ordered :=
        ⟨["mode", "colour"], ["Zone", "power", "éclat"], rfl, by decide +kernel, by decide +kernel,
          by decide +kernel, by decide +kernel⟩ }
  refine ⟨hlisted.symm, ?_⟩
  rw [hsame _ fun key => by grind, ← hlisted]

end KeyOrder

end PayloadGen
