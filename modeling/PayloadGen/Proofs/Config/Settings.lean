import PayloadGen.Config.Settings
import PayloadGen.Proofs.Dict
import PayloadGen.Proofs.Files.Path

/-!
# Settings merged from their layers

Settings are put one after the other under paths of words. What is put under a path is found there
(`Settings.descend?_put_self`), and nothing changes under a path that is `Apart` from it
(`Settings.descend?_put_of_apart`). So a setting whose path is apart from all others has its own
value in the merged settings (`Settings.descend?_merged`). Keys are merged in ascending order, in
which a key comes before those that it begins: above a setting that has a value there are
dictionaries, whatever the other keys are (`Settings.exists_dict_merged`).
-/

namespace PayloadGen

open Text

/-- No variable of the environment is for this program. -/
def Environment.Silent (env : Environment) : Prop :=
  ∀ name ∈ env.keys, ¬ "ASYNCGEN_".toList <+: name.toList

theorem Environment.Silent.setting? {env : Environment} (h : env.Silent) (key : String) :
    env.setting? key = none := by
  have hnone : env.find? (variableOf key) = none := by
    rw [Option.eq_none_iff_forall_ne_some]
    intro value hvalue
    refine h _ (Pairs.mem_keys_of_find? hvalue) ?_
    rw [variableOf, String.toList_append]
    exact List.prefix_append _ _
  rw [Environment.setting?, hnone]
  rfl

namespace Settings

/-! ## Words -/

theorem intercalate_wordsOf (key : String) : ".".intercalate (wordsOf key) = key := by
  have htexts : (wordsOf key).map String.toList = List.splitOn '.' key.toList := by
    simp [wordsOf, Function.comp_def]
  rw [← String.toList_inj, String.toList_intercalate, htexts]
  exact List.intercalate_splitOn '.'

theorem wordsOf_ne_nil (key : String) : wordsOf key ≠ [] := by
  rw [wordsOf, ne_eq, List.map_eq_nil_iff]
  exact List.splitOn_ne_nil '.' key.toList

theorem wordsOf_of_not_mem {w : String} (h : '.' ∉ w.toList) : wordsOf w = [w] := by
  simp [wordsOf, List.splitOn_eq_singleton h]

theorem not_mem_of_mem_wordsOf {key w : String} (h : w ∈ wordsOf key) : '.' ∉ w.toList := by
  obtain ⟨v, hv, rfl⟩ := List.mem_map.1 h
  simpa using not_mem_of_mem_splitOn hv

theorem wordsOf_append_dot (a b : String) : wordsOf (a ++ "." ++ b) = wordsOf a ++ wordsOf b := by
  have hlist : (a ++ "." ++ b).toList = a.toList ++ '.' :: b.toList := by simp
  rw [wordsOf, hlist, List.splitOn_append_cons_self, List.map_append]
  rfl

theorem wordsOf_intercalate {ws : List String} (hws : ws ≠ []) (h : ∀ w ∈ ws, '.' ∉ w.toList) :
    wordsOf (".".intercalate ws) = ws := by
  have hpieces : List.splitOn '.' (".".intercalate ws).toList = ws.map String.toList := by
    rw [String.toList_intercalate]
    exact List.splitOn_intercalate _ (by simpa using h) (by simpa using hws)
  rw [wordsOf, hpieces, List.map_map]
  simp [Function.comp_def]

theorem wordsOf_injective {a b : String} (h : wordsOf a = wordsOf b) : a = b := by
  rw [← intercalate_wordsOf a, h, intercalate_wordsOf]

/-- A key with a dot has more than one word. -/
theorem exists_wordsOf_of_mem {key : String} (h : '.' ∈ key.toList) :
    ∃ w v r, wordsOf key = w :: v :: r := by
  rcases hwords : wordsOf key with _ | ⟨w, _ | ⟨v, r⟩⟩
  · exact absurd hwords (wordsOf_ne_nil key)
  · have hkey := intercalate_wordsOf key
    rw [hwords, String.intercalate_singleton] at hkey
    have hw : '.' ∉ w.toList := not_mem_of_mem_wordsOf (hwords ▸ List.mem_singleton_self w)
    exact absurd h (hkey ▸ hw)
  · exact ⟨w, v, r, rfl⟩

/-- A key that begins another one is not greater. -/
theorem le_of_wordsOf_isPrefix {a b : String} (h : wordsOf a <+: wordsOf b) : a ≤ b := by
  obtain ⟨rest, hrest⟩ := h
  by_cases hnil : rest = []
  · rw [hnil, List.append_nil] at hrest
    rw [wordsOf_injective hrest]
  · have hb : b.toList = a.toList ++ ("." ++ ".".intercalate rest).toList := by
      rw [← String.toList_append, ← String.append_assoc, ← intercalate_wordsOf b, ← hrest,
        String.intercalate_append_of_ne_nil (wordsOf_ne_nil a) hnil, intercalate_wordsOf]
    rw [← not_lt, String.lt_iff_toList_lt, hb]
    exact List.not_lt.2 List.le_append_left

/-! ## Paths -/

/-- Neither path leads along the other. -/
def Apart (ws qs : List String) : Prop :=
  ¬ ws <+: qs ∧ ¬ qs <+: ws

instance (ws qs : List String) : Decidable (Apart ws qs) :=
  inferInstanceAs (Decidable (_ ∧ _))

namespace Apart

variable {ws qs : List String}

theorem symm (h : Apart ws qs) : Apart qs ws :=
  ⟨h.2, h.1⟩

theorem append (h : Apart ws qs) (r : List String) : Apart ws (qs ++ r) := by
  refine ⟨fun hws => ?_, fun hqs => h.2 ((List.prefix_append qs r).trans hqs)⟩
  rcases List.prefix_or_prefix_of_prefix hws (List.prefix_append qs r) with hws | hqs
  · exact h.1 hws
  · exact h.2 hqs

/-- Paths that are apart part at the first word, or go on apart. -/
theorem exists_cons (h : Apart ws qs) :
    ∃ w r q s, ws = w :: r ∧ qs = q :: s ∧ (w ≠ q ∨ w = q ∧ Apart r s) := by
  obtain _ | ⟨w, r⟩ := ws
  · exact absurd List.nil_prefix h.1
  obtain _ | ⟨q, s⟩ := qs
  · exact absurd List.nil_prefix h.2
  refine ⟨w, r, q, s, rfl, rfl, ?_⟩
  by_cases hwq : w = q
  · subst hwq
    refine .inr ⟨rfl, fun hrs => h.1 ?_, fun hsr => h.2 ?_⟩
    · exact List.cons_prefix_cons.2 ⟨rfl, hrs⟩
    · exact List.cons_prefix_cons.2 ⟨rfl, hsr⟩
  · exact .inl hwq

end Apart

/-! ## What is found after a value is put -/

theorem descend?_ne_null (ws : List String) (v : Yaml.Value) : descend? ws v ≠ some .null := by
  induction ws generalizing v with
  | nil => cases v <;> simp [descend?]
  | cons w r ih =>
    cases v with
    | dict d =>
      rw [descend?, ne_eq, Option.bind_eq_some_iff]
      rintro ⟨x, -, hx⟩
      exact ih x hx
    | _ => simp [descend?]

theorem descend?_nil {v : Yaml.Value} (hv : v ≠ .null) : descend? [] v = some v := by
  cases v with
  | null => exact absurd rfl hv
  | _ => rfl

theorem descend?_cons_dict (w : String) (r : List String) (d : Settings) :
    descend? (w :: r) (.dict d) = (d.find? w).bind (descend? r) :=
  rfl

theorem find?_of_descend? {w : String} {d : Settings} {v : Yaml.Value}
    (h : descend? [w] (.dict d) = some v) : d.find? w = some v := by
  obtain ⟨x, hx, hv⟩ := Option.bind_eq_some_iff.1 h
  rw [hx]
  cases x with
  | null => cases hv
  | _ => exact hv

/-- Of two layers, the first that has a value counts. -/
theorem descend?_or {w : String} {d e : Settings} {v : Yaml.Value}
    (h : (d.find? w).or (e.find? w) = some v) (hv : v ≠ .null) :
    (descend? [w] (.dict d)).or (descend? [w] (.dict e)) = some v := by
  rw [descend?_cons_dict, descend?_cons_dict]
  cases hd : d.find? w with
  | none =>
    rw [hd, Option.none_or] at h
    rw [h, Option.bind_none, Option.none_or, Option.bind_some, descend?_nil hv]
  | some x =>
    rw [hd, Option.some_or] at h
    obtain rfl := Option.some.inj h
    rw [Option.bind_some, descend?_nil hv, Option.some_or]

theorem inner_of_find? {w : String} {d e : Settings} (h : d.find? w = some (.dict e)) :
    inner w d = e := by
  rw [inner, h]

theorem put_cons (w : String) {r : List String} (hr : r ≠ []) (v : Yaml.Value) (d : Settings) :
    put (w :: r) v d = d.insert w (.dict (put r v (inner w d))) := by
  obtain ⟨x, r, rfl⟩ := List.exists_cons_of_ne_nil hr
  rfl

theorem descend?_inner {w : String} {s : List String} (hs : s ≠ []) (d : Settings) :
    descend? s (.dict (inner w d)) = descend? (w :: s) (.dict d) := by
  obtain ⟨x, s, rfl⟩ := List.exists_cons_of_ne_nil hs
  rw [descend?_cons_dict w, inner]
  rcases d.find? w with _ | (_ | _ | _ | _ | _ | _ | _ | _ | _) <;> rfl

theorem descend?_insert_self (w : String) (r : List String) (v : Yaml.Value) (d : Settings) :
    descend? (w :: r) (.dict (d.insert w v)) = descend? r v := by
  rw [descend?_cons_dict, Pairs.find?_insert, if_pos rfl, Option.bind_some]

theorem descend?_insert_of_ne {w q : String} (h : w ≠ q) (s : List String) (v : Yaml.Value)
    (d : Settings) : descend? (q :: s) (.dict (d.insert w v)) = descend? (q :: s) (.dict d) := by
  rw [descend?_cons_dict, Pairs.find?_insert, if_neg (Ne.symm h), descend?_cons_dict]

/-- Above what is put there is a dictionary, with what is put below it and with what was there
before. -/
theorem descend?_put_append {ws qs : List String} (hqs : qs ≠ []) (v : Yaml.Value) (d : Settings) :
    ∃ e, descend? ws (.dict (put (ws ++ qs) v d)) = some (.dict (put qs v e)) ∧
      (e = [] ∨ descend? ws (.dict d) = some (.dict e)) := by
  induction ws generalizing d with
  | nil => exact ⟨d, rfl, .inr rfl⟩
  | cons w ws ih =>
    have hne : ws ++ qs ≠ [] := by simp [hqs]
    obtain ⟨e, hput, he⟩ := ih (inner w d)
    refine ⟨e, ?_, ?_⟩
    · rw [List.cons_append, put_cons w hne, descend?_insert_self, hput]
    · by_cases hws : ws = []
      · subst hws
        rcases he with rfl | he
        · exact .inl rfl
        · obtain rfl : inner w d = e := by simpa [descend?] using he
          rw [descend?_cons_dict, inner]
          rcases d.find? w with _ | (_ | _ | _ | _ | _ | _ | _ | _ | _) <;> simp [descend?]
      · rwa [descend?_inner hws] at he

/-- What is put under a path is found there. -/
theorem descend?_put_self {ws : List String} (hws : ws ≠ []) {v : Yaml.Value} (hv : v ≠ .null)
    (d : Settings) : descend? ws (.dict (put ws v d)) = some v := by
  induction ws generalizing d with
  | nil => exact absurd rfl hws
  | cons w r ih =>
    by_cases hr : r = []
    · subst hr
      exact (descend?_insert_self w [] v d).trans (descend?_nil hv)
    · rw [put_cons w hr, descend?_insert_self, ih hr]

/-- What is put under a path changes nothing under a path that is apart from it. -/
theorem descend?_put_of_apart {ws qs : List String} (h : Apart ws qs) (v : Yaml.Value)
    (d : Settings) : descend? qs (.dict (put ws v d)) = descend? qs (.dict d) := by
  induction ws generalizing qs d with
  | nil => exact absurd List.nil_prefix h.1
  | cons w r ih =>
    obtain ⟨w, r, q, s, hw, rfl, hwq⟩ := h.exists_cons
    obtain ⟨rfl, rfl⟩ := List.cons.inj hw
    have hput : ∃ x, put (w :: r) v d = d.insert w x := by
      obtain _ | ⟨x, r⟩ := r
      · exact ⟨v, rfl⟩
      · exact ⟨_, rfl⟩
    rcases hwq with hne | ⟨rfl, hrs⟩
    · obtain ⟨x, hput⟩ := hput
      rw [hput, descend?_insert_of_ne hne]
    · have hr : r ≠ [] := fun hr => hrs.1 (hr ▸ List.nil_prefix)
      have hs : s ≠ [] := fun hs => hrs.2 (hs ▸ List.nil_prefix)
      rw [put_cons w hr, descend?_insert_self, ih hrs, descend?_inner hs]

/-! ## The value of a setting -/

theorem find?_intercalate_of_dotless {d : Settings} (h : ∀ k ∈ d.keys, '.' ∉ k.toList)
    (w v : String) (r : List String) : d.find? (".".intercalate (w :: v :: r)) = none := by
  rw [Option.eq_none_iff_forall_ne_some]
  intro x hx
  refine h _ (Pairs.mem_keys_of_find? hx) ?_
  simp [String.intercalate_cons_cons]

theorem below?_ne_null {search : List String → Settings → Option Yaml.Value}
    (h : ∀ rest d, search rest d ≠ some .null) (found : Option Yaml.Value) (rest : List String) :
    below? search found rest ≠ some .null := by
  rcases found with _ | (_ | _ | _ | _ | _ | _ | _ | _ | _) <;> cases rest <;> simp [below?, h]

theorem search?_ne_null (fuel : Nat) (words : List String) (d : Settings) :
    search? fuel words d ≠ some .null := by
  induction fuel generalizing words d with
  | zero => simp [search?]
  | succ fuel ih =>
    intro h
    obtain ⟨i, -, hi⟩ := List.exists_of_findSome?_eq_some h
    exact below?_ne_null ih _ _ hi

theorem search?_singleton (fuel : Nat) (w : String) (d : Settings) :
    search? (fuel + 1) [w] d = descend? [w] (.dict d) := by
  have hsearch : search? (fuel + 1) [w] d = below? (search? fuel) (d.find? w) [] := by
    simp [search?]
  rw [hsearch, descend?_cons_dict]
  rcases d.find? w with _ | (_ | _ | _ | _ | _ | _ | _ | _ | _) <;> rfl

theorem search?_nil (fuel : Nat) (words : List String) : search? fuel words [] = none := by
  cases fuel with
  | zero => rfl
  | succ fuel => exact List.findSome?_eq_none_iff.2 fun i _ => rfl

/-- Where no key has a dot, the search goes on below the first word. -/
theorem search?_cons_cons {d : Settings} (h : ∀ k ∈ d.keys, '.' ∉ k.toList) (fuel : Nat)
    (w v : String) (r : List String) :
    search? (fuel + 1) (w :: v :: r) d = search? fuel (v :: r) (inner w d) := by
  have hlong : ((List.range (v :: r).length).map Nat.succ).reverse.findSome? (fun i =>
      below? (search? fuel) (d.find? (".".intercalate ((w :: v :: r).take (i + 1))))
        ((w :: v :: r).drop (i + 1))) =
        none := by
    rw [List.findSome?_eq_none_iff]
    intro i hi
    obtain ⟨i, -, rfl⟩ := List.mem_map.1 (List.mem_reverse.1 hi)
    rw [List.take_succ_cons, List.take_succ_cons, find?_intercalate_of_dotless h]
    rfl
  have hfirst : search? (fuel + 1) (w :: v :: r) d =
      below? (search? fuel) (d.find? w) (v :: r) := by
    rw [search?, List.length_cons, List.range_succ_eq_map, List.reverse_cons,
      List.findSome?_append, hlong]
    simp
  rw [hfirst, inner]
  cases d.find? w with
  | none => exact (search?_nil fuel _).symm
  | some x =>
    cases x with
    | dict e => rfl
    | _ => exact (search?_nil fuel _).symm

/-- A key that stands in a dictionary as a whole is found at once. -/
theorem search?_of_find? {d : Settings} {key : String} {v : Yaml.Value} (h : d.find? key = some v)
    (hv : v ≠ .null) (fuel : Nat) : search? (fuel + 1) (wordsOf key) d = some v := by
  obtain ⟨n, hn⟩ : ∃ n, (wordsOf key).length = n + 1 :=
    Nat.exists_eq_succ_of_ne_zero (by simpa using wordsOf_ne_nil key)
  have hfound : below? (search? fuel) (some v) [] = some v := by
    cases v with
    | null => exact absurd rfl hv
    | _ => rfl
  rw [search?, hn, List.range_succ, List.reverse_append, List.reverse_singleton,
    List.singleton_append, List.findSome?_cons, ← hn, List.take_length, List.drop_length,
    intercalate_wordsOf, h, hfound]

/-- Without variables for this program, a setting has its value in the file or, unless the file is
in the way, the standard one. -/
theorem value?_of_silent {env : Environment} (h : env.Silent) (file : Settings) (key : String) :
    value? env file key = (search? (wordsOf key).length (wordsOf key) file).or
      (if isBlocked file (wordsOf key) then none else descend? (wordsOf key) (.dict standard)) := by
  have hany : ((fronts (wordsOf key)).any fun _ => (none : Option String).isSome) = false := by simp
  simp only [value?, h.setting?, hany, Bool.false_eq_true, if_false]
  cases search? (wordsOf key).length (wordsOf key) file <;> rfl

theorem value?_word {env : Environment} (h : env.Silent) (file : Settings) {w : String}
    (hw : '.' ∉ w.toList) :
    value? env file w = (descend? [w] (.dict file)).or (descend? [w] (.dict standard)) := by
  rw [value?_of_silent h, wordsOf_of_not_mem hw, List.length_singleton, search?_singleton]
  rfl

theorem value?_ne_null (env : Environment) (file : Settings) (key : String) :
    value? env file key ≠ some .null := by
  unfold value?
  dsimp only
  split
  · simp
  split
  · simp
  split
  · rename_i v hv
    exact hv ▸ search?_ne_null _ _ _
  split
  · simp
  · exact descend?_ne_null _ _

/-! ## All settings together -/

variable {env : Environment} {file : Settings}

theorem mem_allKeys {key : String} :
    key ∈ allKeys file ↔ key ∈ leavesUnder "" file ∨ key ∈ leavesUnder "" standard ∧
      ∀ f ∈ fronts (wordsOf key), ".".intercalate f ∉ leavesUnder "" file := by
  simp [allKeys]

theorem mem_leavesUnder {front key : String} {d : Settings} :
    key ∈ leavesUnder front d ↔ ∃ e ∈ d, key ∈ leavesOf (front ++ e.1) e.2 := by
  induction d with
  | nil => simp [leavesUnder]
  | cons e d ih =>
    rw [leavesUnder, List.mem_append, ih]
    simp

theorem mem_leavesUnder_of_inner {front w key : String} {d : Settings}
    (h : key ∈ leavesUnder (front ++ w ++ ".") (inner w d)) : key ∈ leavesUnder front d := by
  rw [inner] at h
  split at h
  · rename_i e he
    exact mem_leavesUnder.2 ⟨(w, .dict e), Pairs.mem_of_find? he, h⟩
  · simp [leavesUnder] at h

theorem pairwise_lt_allKeys (file : Settings) : (allKeys file).Pairwise (· < ·) :=
  pairwise_lt_sortTexts_distinct _

/-- Settings with other values put in are as before under a path that is apart from theirs. -/
theorem descend?_foldl_putValue {keys : List String} {qs : List String}
    (h : ∀ key ∈ keys, Apart (wordsOf key) qs) (d : Settings) :
    descend? qs (.dict (keys.foldl (putValue env file) d)) = descend? qs (.dict d) := by
  induction keys generalizing d with
  | nil => rfl
  | cons key keys ih =>
    obtain ⟨hkey, hkeys⟩ := List.forall_mem_cons.1 h
    rw [List.foldl_cons, ih hkeys, putValue]
    split
    · exact descend?_put_of_apart hkey _ d
    · rfl

/-- A setting whose path is apart from all others has its value. -/
theorem descend?_merged {key : String} (hkey : key ∈ allKeys file)
    (hapart : ∀ k ∈ allKeys file, k ≠ key → Apart (wordsOf k) (wordsOf key)) :
    descend? (wordsOf key) (.dict (merged env file)) = value? env file key := by
  obtain ⟨before, after, hkeys⟩ := List.append_of_mem hkey
  -- The keys before leave nothing under the path, and the keys after leave what is put there.
  have hnodup : (before ++ key :: after).Nodup := hkeys ▸ (pairwise_lt_allKeys file).imp ne_of_lt
  have hother {k : String} (hk : k ∈ before ∨ k ∈ after) : Apart (wordsOf k) (wordsOf key) := by
    refine hapart k (hkeys ▸ by simp [or_left_comm, hk]) ?_
    rintro rfl
    obtain ⟨-, hafter, hbefore⟩ := List.nodup_append.1 hnodup
    rcases hk with hk | hk
    · exact hbefore k hk k List.mem_cons_self rfl
    · exact (List.nodup_cons.1 hafter).1 hk
  rw [merged, hkeys, List.foldl_append, List.foldl_cons, descend?_foldl_putValue fun k hk =>
    hother (.inr hk), putValue]
  split
  · rename_i v hv
    rw [hv]
    exact descend?_put_self (wordsOf_ne_nil key) (fun hnull =>
      value?_ne_null env file key (hnull ▸ hv)) _
  · rename_i hnone
    obtain ⟨w, r, hwords⟩ := List.exists_cons_of_ne_nil (wordsOf_ne_nil key)
    rw [hnone, descend?_foldl_putValue fun k hk => hother (.inl hk), hwords]
    rfl

/-- Settings with a value put under a greater key keep their dictionaries above a lesser one. -/
theorem exists_dict_putValue {key k : String} (hlt : key < k) {ws qs : List String}
    (hkey : wordsOf key = ws ++ qs) {d : Settings}
    (hd : ∃ e, descend? ws (.dict d) = some (.dict e)) :
    ∃ e, descend? ws (.dict (putValue env file d k)) = some (.dict e) := by
  rw [putValue]
  split
  · rename_i v _
    -- The path of the greater key leads below `ws` or apart from it: if it led to `ws` or above,
    -- the key would be less.
    by_cases hbelow : ws <+: wordsOf k
    · obtain ⟨r, hr⟩ := hbelow
      by_cases hnil : r = []
      · refine absurd hlt (not_lt.2 (le_of_wordsOf_isPrefix ?_))
        rw [← hr, hkey, hnil, List.append_nil]
        exact List.prefix_append ws qs
      · obtain ⟨e, he, -⟩ := descend?_put_append hnil v d
        exact ⟨_, hr ▸ he⟩
    · have hapart : Apart (wordsOf k) ws := by
        refine ⟨fun hk => absurd hlt (not_lt.2 (le_of_wordsOf_isPrefix ?_)), hbelow⟩
        exact hkey ▸ hk.trans (List.prefix_append ws qs)
      rwa [descend?_put_of_apart hapart]
  · exact hd

/-- Above a setting that has a value there are dictionaries. -/
theorem exists_dict_merged {key : String} (hkey : key ∈ allKeys file) {v : Yaml.Value}
    (hv : value? env file key = some v) {ws qs : List String} (hwords : wordsOf key = ws ++ qs)
    (hqs : qs ≠ []) : ∃ e, descend? ws (.dict (merged env file)) = some (.dict e) := by
  obtain ⟨before, after, hkeys⟩ := List.append_of_mem hkey
  have hgreater : ∀ k ∈ after, key < k := by
    have hsorted := hkeys ▸ pairwise_lt_allKeys file
    exact (List.pairwise_cons.1 (List.pairwise_append.1 hsorted).2.1).1
  rw [merged, hkeys, List.foldl_append, List.foldl_cons]
  refine List.foldlRecOn (motive := fun d => ∃ e, descend? ws (.dict d) = some (.dict e)) after
    (putValue env file) ?_
    fun d hd k hk => exists_dict_putValue (hgreater k hk) hwords hd
  rw [putValue, hv, hwords]
  obtain ⟨e, he, -⟩ := descend?_put_append hqs v (before.foldl (putValue env file) [])
  exact ⟨_, he⟩

end Settings

end PayloadGen
