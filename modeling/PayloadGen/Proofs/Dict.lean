import Mathlib.Data.List.Induction
import Mathlib.Data.List.Sort
import Mathlib.Data.List.Nodup
import Mathlib.Data.String.Basic
import PayloadGen.Dict

/-!
# Dictionaries and sorted texts

Entries put into a dictionary keep its keys in strictly ascending order, and an entry is found under
a key exactly when it is the one put there last (`Pairs.Ascending.mem_insert_iff`). `distinct` and
`sortTexts` keep the members of a list; together they list a set of texts in strictly ascending
order (`pairwise_lt_sortTexts_distinct`).
-/

namespace PayloadGen

/-! ## Dictionaries -/

namespace Pairs

variable {α : Type}

theorem find?_cons (k : String) (x : String × α) (d : Pairs α) :
    find? k (x :: d) = if x.1 = k then some x.2 else d.find? k := by
  by_cases h : x.1 = k <;> simp [find?, h]

theorem mem_of_find? {key : String} {d : Pairs α} {value : α} (h : d.find? key = some value) :
    (key, value) ∈ d := by
  obtain ⟨e, he, rfl⟩ := Option.map_eq_some_iff.1 h
  have hkey : e.1 = key := by simpa using List.find?_some he
  exact hkey ▸ List.mem_of_find?_eq_some he

/-- Under the key of a new entry that entry is found, and under any other key what was there
before. -/
theorem find?_insert (key k : String) (value : α) (d : Pairs α) :
    (d.insert key value).find? k = if k = key then some value else d.find? k := by
  induction d with
  | nil =>
    rw [insert, find?_cons]
    simp only [eq_comm]
  | cons x d ih =>
    obtain ⟨x, v⟩ := x
    rw [insert]
    split
    · simp only [find?_cons, eq_comm]
    · split
      · rename_i hx
        simp only [find?_cons, ← hx, eq_comm]
        split <;> rfl
      · rename_i hx
        rw [find?_cons, ih, find?_cons]
        by_cases hk : x = k
        · subst hk
          simp [Ne.symm hx]
        · simp [hk]

namespace Ascending

theorem ne_of_mem {x : String × α} {d : Pairs α} (hd : Ascending (x :: d)) {e : String × α}
    (he : e ∈ d) : e.1 ≠ x.1 :=
  ne_of_gt ((List.pairwise_cons.1 hd).1 e he)

/-- The entries of a dictionary after one is put in: the new one, and those under other keys. -/
theorem mem_insert_iff {d : Pairs α} (hd : d.Ascending) {key : String} {value : α}
    {e : String × α} :
    e ∈ d.insert key value ↔ e = (key, value) ∨ e.1 ≠ key ∧ e ∈ d := by
  induction d with
  | nil => simp [Pairs.insert]
  | cons x d ih =>
    obtain ⟨k, v⟩ := x
    obtain ⟨hk, hd'⟩ := List.pairwise_cons.1 hd
    have hne : ∀ e ∈ d, e.1 ≠ k := fun e he => ne_of_mem hd he
    rw [Pairs.insert]
    split
    · rename_i hlt
      have habove : ∀ e ∈ (k, v) :: d, e.1 ≠ key := by
        intro e he
        rcases List.mem_cons.1 he with rfl | he
        · exact ne_of_gt hlt
        · exact ne_of_gt (lt_trans hlt (hk e he))
      rw [List.mem_cons]
      exact or_congr_right ⟨fun he => ⟨habove e he, he⟩, And.right⟩
    · split
      · rename_i heq
        subst heq
        rw [List.mem_cons]
        refine or_congr_right ⟨fun he => ⟨hne e he, List.mem_cons_of_mem _ he⟩, ?_⟩
        rintro ⟨hkey, he⟩
        exact (List.mem_cons.1 he).resolve_left fun h => hkey (h ▸ rfl)
      · rename_i hkey
        rw [List.mem_cons, ih hd', List.mem_cons]
        constructor
        · rintro (rfl | rfl | ⟨h, he⟩)
          · exact .inr ⟨Ne.symm hkey, .inl rfl⟩
          · exact .inl rfl
          · exact .inr ⟨h, .inr he⟩
        · rintro (rfl | ⟨h, rfl | he⟩)
          · exact .inr (.inl rfl)
          · exact .inl rfl
          · exact .inr (.inr ⟨h, he⟩)

/-- Pairs in ascending order are determined by which they are. -/
theorem eq_of_mem_iff {d d' : Pairs α} (hd : d.Ascending) (hd' : d'.Ascending)
    (h : ∀ e, e ∈ d ↔ e ∈ d') : d = d' := by
  have hnodup {d : Pairs α} (hd : d.Ascending) : List.Nodup d :=
    List.Pairwise.imp (fun hlt heq => hlt.ne (congrArg Prod.fst heq)) hd
  have hperm : List.Perm d d' := (List.perm_ext_iff_of_nodup (hnodup hd) (hnodup hd')).2 h
  exact hperm.eq_of_pairwise (fun _ _ _ _ hab hba => absurd hab hba.asymm) hd hd'

end Ascending

/-! ### Dictionaries of lists -/

theorem ofList_concat (es : List (String × α)) (e : String × α) :
    ofList (es ++ [e]) = (ofList es).insert e.1 e.2 := by
  simp [ofList]

theorem mem_of_mem_ofList {es : List (String × α)} {e : String × α} (h : e ∈ ofList es) :
    e ∈ es := by
  induction es using List.reverseRecOn with
  | nil => cases h
  | append_singleton es x ih =>
    rw [ofList_concat] at h
    rcases mem_of_mem_insert h with rfl | h
    · simp
    · exact List.mem_append_left _ (ih h)

theorem mem_keys_insert {key k : String} {value : α} {d : Pairs α} :
    k ∈ (d.insert key value).keys ↔ k = key ∨ k ∈ d.keys := by
  induction d with
  | nil => simp [insert, keys]
  | cons x d ih =>
    obtain ⟨x, v⟩ := x
    rw [insert]
    split
    · simp [keys]
    · split
      · rename_i heq
        simp [keys, heq]
      · have hcons (e : Pairs α) : keys ((x, v) :: e) = x :: e.keys := rfl
        rw [hcons, List.mem_cons, ih, hcons, List.mem_cons]
        exact or_left_comm

theorem exists_find?_of_mem_keys {key : String} {d : Pairs α} (h : key ∈ d.keys) :
    ∃ value, d.find? key = some value ∧ (key, value) ∈ d := by
  obtain ⟨e, he, rfl⟩ := List.mem_map.1 h
  have hsome : (List.find? (fun x : String × α => x.1 == e.1) d).isSome := by
    rw [List.find?_isSome]
    exact ⟨e, he, beq_self_eq_true e.1⟩
  obtain ⟨x, hx⟩ := Option.isSome_iff_exists.1 hsome
  have hkey : x.1 = e.1 := by simpa using List.find?_some hx
  refine ⟨x.2, congrArg (Option.map Prod.snd) hx, ?_⟩
  rw [← hkey]
  exact List.mem_of_find?_eq_some hx

theorem mem_keys_ofList {es : List (String × α)} {k : String} :
    k ∈ (ofList es).keys ↔ k ∈ es.map (·.1) := by
  induction es using List.reverseRecOn with
  | nil => exact Iff.rfl
  | append_singleton es e ih =>
    rw [ofList_concat, mem_keys_insert, ih, List.map_append, List.mem_append, List.map_singleton,
      List.mem_singleton, or_comm]

/-! ### Entries under distinct keys -/

theorem find?_append (k : String) (d e : Pairs α) :
    find? k (d ++ e) = (d.find? k).or (e.find? k) := by
  induction d with
  | nil => rfl
  | cons x d ih =>
    rw [List.cons_append, find?_cons, find?_cons, ih]
    split <;> rfl

theorem find?_map_value {β : Type} (f : α → β) (k : String) (es : List (String × α)) :
    find? k (es.map fun e => (e.1, f e.2)) = (find? k es).map f := by
  induction es with
  | nil => rfl
  | cons x es ih =>
    rw [List.map_cons, find?_cons, find?_cons, ih]
    split <;> rfl

theorem find?_eq_some_iff_of_nodup {es : List (String × α)} (h : (es.map (·.1)).Nodup)
    {k : String} {v : α} : find? k es = some v ↔ (k, v) ∈ es := by
  induction es with
  | nil => simp [find?]
  | cons x es ih =>
    obtain ⟨hx, hes⟩ := List.nodup_cons.1 h
    obtain ⟨x, w⟩ := x
    rw [find?_cons, List.mem_cons, Prod.mk.injEq]
    by_cases hk : x = k
    · subst hk
      have hfresh : (x, v) ∉ es := fun hmem => hx (List.mem_map.2 ⟨(x, v), hmem, rfl⟩)
      simp [hfresh, eq_comm]
    · simp [hk, Ne.symm hk, ih hes]

theorem mem_ofList_iff_of_nodup {es : List (String × α)} (h : (es.map (·.1)).Nodup)
    {e : String × α} : e ∈ ofList es ↔ e ∈ es := by
  refine ⟨mem_of_mem_ofList, fun he => ?_⟩
  have hkey : e.1 ∈ (ofList es).keys := mem_keys_ofList.2 (List.mem_map.2 ⟨e, he, rfl⟩)
  obtain ⟨v, -, hv⟩ := exists_find?_of_mem_keys hkey
  have hfind := (find?_eq_some_iff_of_nodup h).2 (mem_of_mem_ofList hv)
  rw [(find?_eq_some_iff_of_nodup h).2 he] at hfind
  obtain rfl := Option.some.inj hfind
  exact hv

theorem Ascending.nodup_keys {d : Pairs α} (hd : d.Ascending) : (List.map (·.1) d).Nodup :=
  (List.pairwise_map.2 hd).imp ne_of_lt

theorem find?_ofList_of_nodup {es : List (String × α)} (h : (es.map (·.1)).Nodup) (k : String) :
    (ofList es).find? k = find? k es := by
  ext v
  rw [find?_eq_some_iff_of_nodup (ascending_ofList es).nodup_keys, find?_eq_some_iff_of_nodup h,
    mem_ofList_iff_of_nodup h]

/-- Pairs in ascending order come back from any order of them. -/
theorem Ascending.ofList_of_perm {d : Pairs α} (hd : d.Ascending) {es : List (String × α)}
    (h : List.Perm es d) : ofList es = d := by
  have hes : (es.map (·.1)).Nodup := (h.map _).nodup_iff.2 hd.nodup_keys
  exact (ascending_ofList es).eq_of_mem_iff hd fun e =>
    (mem_ofList_iff_of_nodup hes).trans h.mem_iff

end Pairs

/-- A dictionary is determined by its entries. -/
theorem Dict.eq_of_mem_iff {α : Type} {d d' : Dict α} (h : ∀ e, e ∈ d.entries ↔ e ∈ d'.entries) :
    d = d' :=
  Dict.ext (d.ascending.eq_of_mem_iff d'.ascending h)

/-- The entries of a dictionary in any order make it again. -/
theorem Dict.ofList_of_perm {α : Type} {d : Dict α} {es : List (String × α)}
    (h : List.Perm es d.entries) : Dict.ofList es = d :=
  Dict.ext (d.ascending.ofList_of_perm h)

/-! ## Distinct and sorted texts -/

theorem nodup_distinct (ts : List String) : (distinct ts).Nodup := by
  -- the texts after the first that differ from it are fewer than all
  induction hn : ts.length using Nat.strong_induction_on generalizing ts with
  | _ n ih =>
    cases ts with
    | nil => exact List.nodup_nil
    | cons t ts =>
      rw [distinct, List.eraseDups_cons, List.nodup_cons]
      refine ⟨fun ht => ?_, ih _ ?_ _ rfl⟩
      · simp [List.mem_eraseDups] at ht
      · have hle := List.length_filter_le (fun b => !b == t) ts
        rw [List.length_cons] at hn
        omega

theorem distinct_of_nodup {ts : List String} (h : ts.Nodup) : distinct ts = ts := by
  induction ts with
  | nil => rfl
  | cons t ts ih =>
    obtain ⟨ht, hts⟩ := List.nodup_cons.1 h
    have hother : ts.filter (fun b => !b == t) = ts :=
      List.filter_eq_self.2 fun b hb => by simpa using ne_of_mem_of_not_mem hb ht
    rw [distinct, List.eraseDups_cons, hother]
    exact congrArg (t :: ·) (ih hts)

theorem sortTexts_perm (ts : List String) : (sortTexts ts).Perm ts :=
  List.mergeSort_perm ts _

@[simp] theorem mem_sortTexts {ts : List String} {t : String} : t ∈ sortTexts ts ↔ t ∈ ts :=
  (sortTexts_perm ts).mem_iff

theorem pairwise_le_sortTexts (ts : List String) : (sortTexts ts).Pairwise (· ≤ ·) := by
  have h := @List.pairwise_mergeSort String (fun a b => decide (a ≤ b))
    (fun a b c hab hbc => by simpa using le_trans (of_decide_eq_true hab) (of_decide_eq_true hbc))
    (fun a b => by simpa using le_total a b) ts
  exact h.imp of_decide_eq_true

theorem sortTexts_of_pairwise {ts : List String} (h : ts.Pairwise (· ≤ ·)) : sortTexts ts = ts :=
  List.mergeSort_of_pairwise (h.imp fun hle => decide_eq_true hle)

/-- A set of texts listed in strictly ascending order. -/
theorem pairwise_lt_sortTexts_distinct (ts : List String) :
    (sortTexts (distinct ts)).Pairwise (· < ·) := by
  have hnodup : (sortTexts (distinct ts)).Nodup :=
    (sortTexts_perm _).nodup_iff.2 (nodup_distinct ts)
  exact ((pairwise_le_sortTexts _).and hnodup).imp fun h => lt_of_le_of_ne h.1 h.2

end PayloadGen
