import PayloadGen.Payload.Name
import PayloadGen.Proofs.Text.Pieces
import PayloadGen.Proofs.Text.Utf8

/-!
# Names up to separators and case

Formats respell the names of classes and fields: they drop separators and change the case of
letters, and so two names may become one. What a spelling keeps is the name folded, that is, its
characters without the separators and in lower case (`Name.folded`). A spelling of words keeps
letters if it changes only their case, or else leaves a replacement character (`Name.KeepsLetters`);
so a spelled name without replacement characters still has its folded name (`Name.exists_spelled`).
A name in snake case keeps more, the words that the name has (`Name.snake_eq_iff`).
-/

namespace PayloadGen.Name

open Text

/-- The characters of a name that are no separators, in lower case. -/
def folded (sep : Char → Bool) (s : String) : List Char :=
  (s.toList.filter (!sep ·)).map lower

/-- The spelling of a word changes only the case of letters, or it begins with the replacement
character. -/
def KeepsLetters (spell : List Char → Bytes) : Prop :=
  ∀ w, (∃ v, spell w = utf8 v ∧ v.toList.map lower = w.map lower) ∨
    ∃ rest, spell w = utf8 (String.ofList [replacement]) ++ rest

/-- A text that is spelled word by word without replacement characters keeps its folded name. -/
theorem exists_spelled {spell : List Char → Bytes} (hspell : KeepsLetters spell) {sep : Char → Bool}
    {s : String} (h : replacement ∉ (lossy ((runs sep s.toList).flatMap spell)).toList) :
    ∃ t : String, (runs sep s.toList).flatMap spell = utf8 t ∧
      t.toList.map lower = folded sep s := by
  rw [folded, ← flatten_runs]
  generalize runs sep s.toList = words at h ⊢
  induction words with
  | nil => exact ⟨"", utf8_empty.symm, rfl⟩
  | cons w ws ih =>
    rw [List.flatMap_cons] at h ⊢
    obtain ⟨v, hv, hlower⟩ | ⟨rest, hrest⟩ := hspell w
    · rw [hv, lossy_utf8_append, String.toList_append] at h
      obtain ⟨t, ht, hlower'⟩ := ih fun hmem => h (List.mem_append_right _ hmem)
      refine ⟨v ++ t, by rw [hv, ht, utf8_append], ?_⟩
      rw [String.toList_append, List.map_append, hlower, hlower', List.flatten_cons,
        List.map_append]
    · rw [hrest, List.append_assoc, lossy_utf8_append] at h
      simp at h

/-! ## Capital letters -/

/-- Only the first run of a table holds ASCII characters. -/
theorem apply_of_ascii {runs : List CaseRun} (h : ∀ r ∈ runs.tail, 0x80 ≤ r.first) {c : Char}
    (hc : c.toNat < 0x80) : CaseRun.apply runs c = CaseRun.apply (runs.take 1) c := by
  obtain _ | ⟨r, rs⟩ := runs
  · rfl
  have htail : rs.find? (·.contains c.toNat) = none := by
    refine List.find?_eq_none.2 fun q hq => ?_
    simp [CaseRun.contains, Nat.not_le.2 (Nat.lt_of_lt_of_le hc (h q hq))]
  simp only [CaseRun.apply, List.take_succ_cons, List.take_zero, List.find?_cons, htail,
    List.find?_nil]

/-- What holds of all ASCII characters can be checked one by one. -/
theorem forall_ascii {p : Char → Prop} (h : ∀ n < 0x80, p (Char.ofNat n)) {c : Char}
    (hc : c.toNat < 0x80) : p c :=
  Char.ofNat_toNat c ▸ h c.toNat hc

theorem lower_of_ascii {c : Char} (hc : c.toNat < 0x80) :
    lower c = CaseRun.apply [⟨0x41, 0x5A, 1, 32⟩] c :=
  apply_of_ascii (by decide +kernel) hc

theorem upper_of_ascii {c : Char} (hc : c.toNat < 0x80) :
    upper c = CaseRun.apply [⟨0x61, 0x7A, 1, -32⟩] c :=
  apply_of_ascii (by decide +kernel) hc

theorem lower_upper_of_ascii {c : Char} (h : c.toNat < 0x80) : lower (upper c) = lower c := by
  obtain ⟨hupper, hlower⟩ :=
    forall_ascii (p := fun c => (CaseRun.apply [⟨0x61, 0x7A, 1, -32⟩] c).toNat < 0x80 ∧
      CaseRun.apply [⟨0x41, 0x5A, 1, 32⟩] (CaseRun.apply [⟨0x61, 0x7A, 1, -32⟩] c) =
        CaseRun.apply [⟨0x41, 0x5A, 1, 32⟩] c) (by decide +kernel) h
  rw [upper_of_ascii h, lower_of_ascii hupper, lower_of_ascii h, hlower]

/-- A word that begins with an ASCII character is capitalized by a change of case. -/
theorem exists_capitalized {w : List Char} (h : ∀ c ∈ w.head?, c.toNat < 0x80) :
    ∃ v, capitalized w = utf8 v ∧ v.toList.map lower = w.map lower := by
  obtain _ | ⟨c, r⟩ := w
  · exact ⟨"", utf8_empty.symm, rfl⟩
  · have hc : c.toNat < 0x80 := h c rfl
    refine ⟨String.ofList (upper c :: r), by rw [capitalized, if_pos hc], ?_⟩
    rw [String.toList_ofList, List.map_cons, lower_upper_of_ascii hc, List.map_cons]

theorem keepsLetters_capitalized : KeepsLetters capitalized := by
  intro w
  by_cases h : ∀ c ∈ w.head?, c.toNat < 0x80
  · exact .inl (exists_capitalized h)
  · obtain _ | ⟨c, r⟩ := w
    · simp at h
    · have hc : ¬ c.toNat < 0x80 := by simpa using h
      exact .inr ⟨_, by rw [capitalized, if_neg hc]⟩

theorem exists_pascal {s : String} (h : replacement ∉ (lossy (pascal s)).toList) :
    ∃ t : String, pascal s = utf8 t ∧ t.toList.map lower = folded isPascalSeparator s :=
  exists_spelled keepsLetters_capitalized h

/-! ## Snake case -/

theorem toNat_lt_of_isAscii {c : Char} (h : (isAsciiLetter c || isAsciiDigit c) = true) :
    c.toNat < 0x80 := by
  simp only [isAsciiLetter, isAsciiDigit, Bool.or_eq_true, Bool.and_eq_true, decide_eq_true_eq,
    Char.le_def, UInt32.le_iff_toNat_le] at h
  have hc : c.toNat = c.val.toNat := rfl
  have hz : 'z'.val.toNat = 0x7A ∧ 'Z'.val.toNat = 0x5A ∧ '9'.val.toNat = 0x39 := by decide
  omega

theorem lower_ne_underscore {c : Char} (h : (isAsciiLetter c || isAsciiDigit c) = true) :
    lower c ≠ '_' := by
  have hc := toNat_lt_of_isAscii h
  rw [lower_of_ascii hc]
  exact forall_ascii (p := fun c => (isAsciiLetter c || isAsciiDigit c) = true →
    CaseRun.apply [⟨0x41, 0x5A, 1, 32⟩] c ≠ '_') (by decide +kernel) hc h

theorem underscore_not_mem_snakeWords {s : String} {w : List Char} (hw : w ∈ snakeWords s) :
    '_' ∉ w := by
  obtain ⟨v, hv, rfl⟩ := List.mem_map.1 hw
  intro hmem
  obtain ⟨c, hc, hlower⟩ := List.mem_map.1 hmem
  have hsep := sep_eq_false_of_mem_runs hv hc
  refine lower_ne_underscore ?_ hlower
  grind

theorem nil_not_mem_snakeWords (s : String) : [] ∉ snakeWords s := by
  intro hmem
  obtain ⟨v, hv, hnil⟩ := List.mem_map.1 hmem
  rw [List.map_eq_nil_iff.1 hnil] at hv
  exact nil_not_mem_runs _ _ hv

theorem toList_snake (s : String) :
    (snake s).toList = if (joined s).head?.any isAsciiDigit then '_' :: joined s else joined s := by
  unfold snake
  cases joined s with
  | nil => rfl
  | cons c r => exact String.toList_ofList

/-- The words can be read off the name. -/
theorem filter_splitOn_snake (s : String) :
    (List.splitOn '_' (snake s).toList).filter (· ≠ []) = snakeWords s := by
  have hjoined : (List.splitOn '_' (joined s)).filter (· ≠ []) = snakeWords s := by
    by_cases hwords : snakeWords s = []
    · rw [joined, hwords]
      rfl
    · rw [joined, List.splitOn_intercalate _ (fun w hw => underscore_not_mem_snakeWords hw) hwords,
        List.filter_eq_self]
      exact fun w hw => decide_eq_true fun hnil => nil_not_mem_snakeWords s (hnil ▸ hw)
  -- the underscore before a digit makes an empty piece, which is left out
  rw [toList_snake]
  split <;> exact hjoined

/-- Two names in snake case are the same if the words are. -/
theorem snake_eq_iff {a b : String} : snake a = snake b ↔ snakeWords a = snakeWords b := by
  constructor
  · intro h
    rw [← filter_splitOn_snake a, h, filter_splitOn_snake]
  · intro h
    rw [snake, snake, joined, joined, h]

theorem snakeWords_eq_nil_iff {s : String} :
    snakeWords s = [] ↔ ∀ c ∈ s.toList, (isAsciiLetter c || isAsciiDigit c) = false := by
  simp [snakeWords, runs_eq_nil_iff]

theorem snake_eq_empty_iff {s : String} :
    snake s = "" ↔ ∀ c ∈ s.toList, (isAsciiLetter c || isAsciiDigit c) = false := by
  have hempty : snakeWords "" = [] := rfl
  have hsnake : snake "" = "" := rfl
  rw [← snakeWords_eq_nil_iff, ← hempty, ← snake_eq_iff, hsnake]

end PayloadGen.Name
