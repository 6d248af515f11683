/-!
# Dictionaries in the order of their keys

Values under text keys are lists of pairs (`Pairs`), and `Pairs.insert` keeps them in ascending
order of the keys. A dictionary (`Dict`) is such a list together with its order, so two dictionaries
with the same entries are equal and every listing of one is sorted. The order of texts is that of
their code points, which is also the order of their UTF-8 bytes.
-/

namespace PayloadGen

/-- Values under text keys. -/
abbrev Pairs (α : Type) := List (String × α)

namespace Pairs

variable {α : Type}

/-- The pairs with one added; a pair of the same key is replaced. -/
def insert (key : String) (value : α) : Pairs α → Pairs α
  | [] => [(key, value)]
  | (k, v) :: r =>
    if key < k then (key, value) :: (k, v) :: r
    else if key = k then (key, value) :: r
    else (k, v) :: insert key value r

/-- The value under a key. -/
def find? (key : String) (d : Pairs α) : Option α :=
  (List.find? (fun e => e.1 == key) d).map (·.2)

/-- Is there a value under the key? -/
def contains (key : String) (d : Pairs α) : Bool :=
  (d.find? key).isSome

/-- The pairs without one for the key. -/
def erase (key : String) (d : Pairs α) : Pairs α :=
  List.filter (fun e => e.1 != key) d

/-- The pairs of a list in ascending order; of two with one key the later counts. -/
def ofList (entries : List (String × α)) : Pairs α :=
  entries.foldl (fun d e => d.insert e.1 e.2) []

/-- The keys, in the order of the pairs. -/
def keys (d : Pairs α) : List String :=
  List.map (·.1) d

theorem mem_keys_of_find? {key : String} {d : Pairs α} {value : α}
    (h : d.find? key = some value) : key ∈ d.keys := by
  obtain ⟨e, he, rfl⟩ := Option.map_eq_some_iff.1 h
  have hkey : e.1 = key := by simpa using List.find?_some he
  exact hkey ▸ List.mem_map_of_mem (List.mem_of_find?_eq_some he)

theorem mem_of_mem_insert {key : String} {value : α} {d : Pairs α} {e : String × α}
    (h : e ∈ d.insert key value) : e = (key, value) ∨ e ∈ d := by
  induction d with
  | nil => simpa [insert] using h
  | cons x d ih =>
    obtain ⟨k, v⟩ := x
    rw [insert] at h
    split at h
    · simpa using h
    · split at h
      · rcases List.mem_cons.1 h with rfl | h
        · exact .inl rfl
        · exact .inr (List.mem_cons_of_mem _ h)
      · rcases List.mem_cons.1 h with rfl | h
        · exact .inr List.mem_cons_self
        · exact (ih h).imp_right (List.mem_cons_of_mem _)

/-- The keys are in strictly ascending order. -/
def Ascending (d : Pairs α) : Prop :=
  List.Pairwise (fun a b : String × α => a.1 < b.1) d

theorem Ascending.insert {d : Pairs α} (hd : d.Ascending) (key : String) (value : α) :
    (d.insert key value).Ascending := by
  induction d with
  | nil => exact List.pairwise_singleton _ _
  | cons x d ih =>
    obtain ⟨k, v⟩ := x
    obtain ⟨hk, hd⟩ := List.pairwise_cons.1 hd
    rw [Pairs.insert]
    split
    · rename_i hlt
      refine List.pairwise_cons.2 ⟨fun e he => ?_, List.pairwise_cons.2 ⟨hk, hd⟩⟩
      rcases List.mem_cons.1 he with rfl | he
      · exact hlt
      · exact String.lt_trans hlt (hk e he)
    · rename_i hlt
      split
      · rename_i heq
        exact List.pairwise_cons.2 ⟨fun e he => heq ▸ hk e he, hd⟩
      · rename_i hne
        refine List.pairwise_cons.2 ⟨fun e he => ?_, ih hd⟩
        rcases mem_of_mem_insert he with rfl | he
        · exact Std.lt_of_le_of_ne (String.not_lt.1 hlt) (Ne.symm hne)
        · exact hk e he

theorem Ascending.foldl_insert {d : Pairs α} (hd : d.Ascending) (es : List (String × α)) :
    (es.foldl (fun d e => d.insert e.1 e.2) d).Ascending := by
  induction es generalizing d with
  | nil => exact hd
  | cons e es ih => exact ih (hd.insert e.1 e.2)

theorem ascending_ofList (es : List (String × α)) : (ofList es).Ascending :=
  Ascending.foldl_insert List.Pairwise.nil es

end Pairs

/-- Values under text keys, in ascending order of the keys. -/
@[ext]
structure Dict (α : Type) where
  entries : Pairs α
  ascending : entries.Ascending

namespace Dict

variable {α : Type}

instance : CoeOut (Dict α) (Pairs α) := ⟨entries⟩

/-- The dictionary without entries. -/
def empty : Dict α := ⟨[], List.Pairwise.nil⟩

/-- The dictionary with one entry added; an entry of the same key is replaced. -/
def insert (key : String) (value : α) (d : Dict α) : Dict α :=
  ⟨d.entries.insert key value, d.ascending.insert key value⟩

/-- The dictionary of a list of entries; of two entries with one key the later counts. -/
def ofList (entries : List (String × α)) : Dict α :=
  ⟨Pairs.ofList entries, Pairs.ascending_ofList entries⟩

end Dict

/-- Texts in ascending order. -/
def sortTexts (ts : List String) : List String :=
  ts.mergeSort (fun a b => decide (a ≤ b))

/-- The distinct texts of a list, each where it first stands. -/
abbrev distinct (ts : List String) : List String :=
  ts.eraseDups

end PayloadGen
