import PayloadGen.Proofs.Payload.Name

/-!
# Snake case is a normal form

A name in snake case is made of the ASCII words of a text, in lower case and with underscores
between them, and an underscore goes before a leading digit. What such names look like is said by
`Name.IsSnake`. Every name in snake case is of this form (`Name.isSnake_snake`), and names of this
form are kept (`Name.snake_of_isSnake`), so they are the normal forms: a name in snake case is not
changed when it is put in snake case again.

The text may be given by any bytes. A byte that is part of no character divides words, as all
characters other than ASCII letters and digits do.
-/

namespace PayloadGen.Name

open Text

/-! ## Letters of words -/

/-- The lower-case ASCII letters and the digits. -/
def isLowerOrDigit (c : Char) : Bool :=
  ('a' ≤ c && c ≤ 'z') || isAsciiDigit c

theorem isLowerOrDigit_lower {c : Char} (h : (isAsciiLetter c || isAsciiDigit c) = true) :
    isLowerOrDigit (lower c) = true := by
  have hc := toNat_lt_of_isAscii h
  rw [lower_of_ascii hc]
  exact forall_ascii (p := fun c => (isAsciiLetter c || isAsciiDigit c) = true →
    isLowerOrDigit (CaseRun.apply [⟨0x41, 0x5A, 1, 32⟩] c) = true) (by decide +kernel) hc h

theorem isAscii_of_isLowerOrDigit {c : Char} (h : isLowerOrDigit c = true) :
    (isAsciiLetter c || isAsciiDigit c) = true := by
  simp only [isLowerOrDigit, isAsciiLetter, Bool.or_eq_true] at h ⊢
  tauto

theorem lower_of_isLowerOrDigit {c : Char} (h : isLowerOrDigit c = true) : lower c = c := by
  have hc := toNat_lt_of_isAscii (isAscii_of_isLowerOrDigit h)
  rw [lower_of_ascii hc]
  exact forall_ascii (p := fun c => isLowerOrDigit c = true →
    CaseRun.apply [⟨0x41, 0x5A, 1, 32⟩] c = c)
    (by decide +kernel) hc h

theorem isLowerOrDigit_of_mem_snakeWords {s : String} {w : List Char} (hw : w ∈ snakeWords s) :
    ∀ c ∈ w, isLowerOrDigit c = true := by
  obtain ⟨v, hv, rfl⟩ := List.mem_map.1 hw
  refine List.forall_mem_map.2 fun c hc => isLowerOrDigit_lower ?_
  have hsep := sep_eq_false_of_mem_runs hv hc
  grind

/-! ## Names -/

/-- A name in snake case, which may be empty: lower-case ASCII letters, digits and single
underscores. It does not begin with a digit or end with an underscore, and begins with an underscore
only before a digit. -/
structure IsSnake (t : String) : Prop where
  chars : ∀ c ∈ t.toList, isLowerOrDigit c = true ∨ c = '_'
  single : ¬ ['_', '_'] <:+: t.toList
  start : ∀ c, t.toList.head? = some c → isAsciiDigit c = false
  finish : t.toList.getLast? ≠ some '_'
  underscore : ∀ r, t.toList = '_' :: r → ∃ c, r.head? = some c ∧ isAsciiDigit c = true

theorem splitOn_joined {s : String} (h : snakeWords s ≠ []) :
    List.splitOn '_' (joined s) = snakeWords s :=
  List.splitOn_intercalate '_' (fun _ hw => underscore_not_mem_snakeWords hw) h

theorem isLowerOrDigit_of_mem_joined {s : String} (h : snakeWords s ≠ []) {c : Char}
    (hc : c ∈ joined s) : isLowerOrDigit c = true ∨ c = '_' := by
  by_cases hunderscore : c = '_'
  · exact .inr hunderscore
  · obtain ⟨w, hw, hcw⟩ := exists_mem_splitOn_of_mem hc hunderscore
    rw [splitOn_joined h] at hw
    exact .inl (isLowerOrDigit_of_mem_snakeWords hw c hcw)

theorem isSnake_empty : IsSnake "" where
  chars := by simp
  single := by simp
  start := by simp
  finish := by simp
  underscore := by simp

/-- Every name in snake case looks like one. -/
theorem isSnake_snake (s : String) : IsSnake (snake s) := by
  by_cases hwords : snakeWords s = []
  · rw [snake_eq_empty_iff.2 (snakeWords_eq_nil_iff.1 hwords)]
    exact isSnake_empty
  have hnil : [] ∉ List.splitOn '_' (joined s) := splitOn_joined hwords ▸ nil_not_mem_snakeWords s
  obtain ⟨hne, hhead, hsingle, hlast⟩ := nil_not_mem_splitOn_iff.1 hnil
  have hchars := fun c => @isLowerOrDigit_of_mem_joined s hwords c
  obtain ⟨c, r, hjoined⟩ := List.exists_cons_of_ne_nil hne
  have htoList := toList_snake s
  rw [hjoined] at hchars hhead hsingle hlast htoList
  have hc : c ≠ '_' := by simpa using hhead
  split at htoList
  · rename_i hdigit
    refine ⟨?_, ?_, ?_, ?_, ?_⟩ <;> rw [htoList]
    · exact List.forall_mem_cons.2 ⟨.inr rfl, hchars⟩
    · rw [List.infix_cons_iff, not_or]
      refine ⟨?_, hsingle⟩
      simpa using hc.symm
    · simp [isAsciiDigit]
    · rwa [List.getLast?_cons_cons]
    · rintro _ ⟨⟩
      exact ⟨c, rfl, hdigit⟩
  · rename_i hdigit
    refine ⟨?_, ?_, ?_, ?_, ?_⟩ <;> rw [htoList]
    · exact hchars
    · exact hsingle
    · rintro _ ⟨⟩
      simpa using hdigit
    · exact hlast
    · rintro _ ⟨⟩
      exact absurd rfl hc

/-- The words of what looks like a name in snake case are its pieces between underscores. -/
theorem IsSnake.snakeWords_eq {t : String} (h : IsSnake t) :
    snakeWords t = (List.splitOn '_' t.toList).filter (· ≠ []) := by
  have hruns : runs (fun c => !isAsciiLetter c && !isAsciiDigit c) t.toList =
      (List.splitOn '_' t.toList).filter (· ≠ []) := by
    refine runs_eq_filter_splitOn fun c hc => ?_
    rcases h.chars c hc with hc | rfl
    · have hascii := isAscii_of_isLowerOrDigit hc
      have hne : c ≠ '_' := by
        rintro rfl
        exact absurd hc (by decide)
      grind
    · decide
  rw [snakeWords, hruns]
  refine (List.map_congr_left fun w hw => ?_).trans (List.map_id _)
  refine (List.map_congr_left fun c hc => ?_).trans (List.map_id w)
  have hw := (List.mem_filter.1 hw).1
  exact lower_of_isLowerOrDigit ((h.chars c (mem_of_mem_splitOn hw hc)).resolve_right fun heq =>
    not_mem_of_mem_splitOn hw (heq ▸ hc))

theorem joined_of_splitOn {t : String} {l : List Char}
    (hwords : snakeWords t = (List.splitOn '_' l).filter (· ≠ [])) (hl : [] ∉ List.splitOn '_' l) :
    joined t = l := by
  have hpieces : (List.splitOn '_' l).filter (· ≠ []) = List.splitOn '_' l :=
    List.filter_eq_self.2 fun w hw => decide_eq_true fun hnil => hl (hnil ▸ hw)
  rw [joined, hwords, hpieces, List.intercalate_splitOn]

/-- What looks like a name in snake case stays as it is. -/
theorem snake_of_isSnake {t : String} (h : IsSnake t) : snake t = t := by
  have hwords := h.snakeWords_eq
  obtain ⟨hchars, hsingle, hstart, hfinish, hunderscore⟩ := h
  rw [← String.toList_inj, toList_snake]
  generalize t.toList = l at *
  obtain _ | ⟨c, r⟩ := l
  · rw [show joined t = [] by rw [joined, hwords]; rfl]
    rfl
  by_cases hc : c = '_'
  · -- the first piece is empty, and the words are joined to what follows the underscore
    subst hc
    obtain ⟨d, hd, hdigit⟩ := hunderscore r rfl
    obtain ⟨r, rfl⟩ := List.head?_eq_some_iff.1 hd
    have hne : d ≠ '_' := by
      rintro rfl
      exact absurd hdigit (by decide)
    have hpieces : [] ∉ List.splitOn '_' (d :: r) :=
      nil_not_mem_splitOn_iff.2 ⟨List.cons_ne_nil d r, by simpa using hne,
        fun hdouble => hsingle (hdouble.trans (List.suffix_cons _ _).isInfix),
        by rwa [List.getLast?_cons_cons] at hfinish⟩
    rw [joined_of_splitOn (l := d :: r) (by simpa using hwords) hpieces]
    simp [hdigit]
  · have hpieces : [] ∉ List.splitOn '_' (c :: r) :=
      nil_not_mem_splitOn_iff.2 ⟨List.cons_ne_nil c r, by simpa using hc, hsingle, hfinish⟩
    rw [joined_of_splitOn hwords hpieces]
    simp [hstart c rfl]

/-- **Snake case is a normal form.** The name in snake case of a text, whatever its bytes, is empty
exactly if no byte of the text is an ASCII letter or digit. It always looks like a name in snake
case, and it is not changed when it is put in snake case again, which holds of no other texts than
those that look so. -/
theorem snake_normal_form (s : Bytes) :
    (snake (lossy s) = "" ↔
      ∀ c : Char, (isAsciiLetter c || isAsciiDigit c) = true → UInt8.ofNat c.toNat ∉ s) ∧
    IsSnake (snake (lossy s)) ∧ snake (snake (lossy s)) = snake (lossy s) ∧
    ∀ t : String, snake t = t ↔ IsSnake t := by
  refine ⟨?_, isSnake_snake _, snake_of_isSnake (isSnake_snake _),
    fun t => ⟨fun h => ?_, snake_of_isSnake⟩⟩
  · rw [snake_eq_empty_iff]
    constructor
    · intro h c hc hmem
      rw [← mem_lossy_iff_of_ascii (toNat_lt_of_isAscii hc)] at hmem
      simp [h c hmem] at hc
    · intro h c hmem
      by_contra hc
      have hc : (isAsciiLetter c || isAsciiDigit c) = true := eq_true_of_ne_false hc
      exact h c hc ((mem_lossy_iff_of_ascii (toNat_lt_of_isAscii hc)).1 hmem)
  · exact h ▸ isSnake_snake t

/-- A text that ends with a byte that is part of no character. -/
def wheelSize : Bytes :=
  utf8 "2 Wheel-Größe" ++ [0xFF]

theorem snake_normal_form_wheelSize :
    snake (lossy wheelSize) = "_2_wheel_gr_e" ∧ IsSnake "_2_wheel_gr_e" ∧
      snake "_2_wheel_gr_e" = "_2_wheel_gr_e" := by
  have hsnake : snake (lossy wheelSize) = "_2_wheel_gr_e" := by decide +kernel
  obtain ⟨-, hform, hagain, -⟩ := snake_normal_form wheelSize
  rw [hsnake] at hform hagain
  exact ⟨hsnake, hform, hagain⟩

end PayloadGen.Name
