import Mathlib.Data.List.TakeWhile
import PayloadGen.Number.Layout
import PayloadGen.Number.Reader
import PayloadGen.Proofs.Number.Rounding

/-!
# The shortest digits read back

The written form of a number of the binary64 format denotes that number.

* `readsAs_shortest`: the shortest decimal of a magnitude lies in its interval. Seventeen digits
  always suffice, because the grid of seventeen digits is finer than the places of the format.
* `readExtended?_render_positionalOnly`: reading the positional text of a number gives the number.
-/

namespace PayloadGen

/-! ## Decimals -/

namespace Decimal

/-- The number that a decimal is. -/
def value (d : Decimal) : ℚ :=
  d.digits * 10 ^ d.exponent

theorem value_dropZeros (fuel : ℕ) (d : Decimal) : (dropZeros fuel d).value = d.value := by
  induction fuel generalizing d with
  | zero => rfl
  | succ fuel ih =>
    rw [dropZeros]
    split_ifs with h
    · rw [ih]
      have hdigits : d.digits = d.digits / 10 * 10 := by omega
      unfold value
      conv_rhs => rw [hdigits]
      rw [zpow_add_one₀ (by norm_num)]
      push_cast
      ring
    · rfl

end Decimal

namespace Binary64

/-! ## The grid of decimals with a number of digits -/

/-- What clears the denominators of a power of two and a power of ten. -/
def clearing (q k : ℤ) : ℚ :=
  ((Nat.pow 2 (-q).toNat : ℕ) : ℚ) * ((Nat.pow 10 (-k).toNat : ℕ) : ℚ)

theorem clearing_pos (q k : ℤ) : 0 < clearing q k :=
  mul_pos (natPow_pos (by norm_num) _) (natPow_pos (by norm_num) _)

theorem cast_mul_two_pow (a : ℕ) (q k : ℤ) :
    ((a * Nat.pow 2 q.toNat * Nat.pow 10 (-k).toNat : ℕ) : ℚ) = a * 2 ^ q * clearing q k := by
  have hpos := natPow_pos (b := 2) two_pos (-q).toNat
  rw [two_zpow_eq_div, clearing, Nat.cast_mul, Nat.cast_mul]
  field_simp

theorem cast_mul_ten_pow (a : ℕ) (q k : ℤ) :
    ((a * (Nat.pow 10 k.toNat * Nat.pow 2 (-q).toNat) : ℕ) : ℚ) = a * 10 ^ k * clearing q k := by
  have hpos := natPow_pos (b := 10) (by norm_num) (-k).toNat
  rw [ten_zpow_eq_div, clearing, Nat.cast_mul, Nat.cast_mul]
  field_simp

/-- The comparisons of cleared numbers are those of the numbers. -/
theorem contains_iff (i : Interval) (q k : ℤ) (x : ℕ) :
    i.holds q k x = true ↔ i.Contains q (x * 10 ^ k) := by
  have hpos := clearing_pos q k
  unfold Interval.holds Interval.Contains
  split_ifs with h <;>
    simp only [Bool.and_eq_true, decide_eq_true_eq, ← Nat.cast_le (α := ℚ), ← Nat.cast_lt (α := ℚ),
      cast_mul_two_pow, cast_mul_ten_pow, mul_le_mul_iff_left₀ hpos, mul_lt_mul_iff_left₀ hpos]

/-- The search on one grid fails only if neither neighbour of the magnitude lies in the interval,
and what it gives lies there. -/
theorem nearest?_cases (m : ℕ) (e : ℤ) (n : ℕ) :
    (nearest? m e n = none ∧
        ¬ ReadsAs m e (gridCount m e n * 10 ^ gridExponent m e n) ∧
        ¬ ReadsAs m e ((gridCount m e n + 1 : ℕ) * 10 ^ gridExponent m e n)) ∨
      ∃ x : ℕ, ReadsAs m e (x * 10 ^ gridExponent m e n) ∧
        nearest? m e n = some (Decimal.dropZeros 20 ⟨x, gridExponent m e n⟩) := by
  unfold nearest?
  extract_lets quarter k c inside pick twice middle
  have hinside : ∀ x, inside x = true ↔ ReadsAs m e (x * 10 ^ k) := contains_iff _ quarter k
  have hpick : ∀ x, pick x = some (Decimal.dropZeros 20 ⟨x, k⟩) := fun _ => rfl
  change (_ ∧ ¬ ReadsAs m e (c * 10 ^ k) ∧ ¬ ReadsAs m e ((c + 1 : ℕ) * 10 ^ k)) ∨
    ∃ x : ℕ, ReadsAs m e (x * 10 ^ k) ∧ _ = some (Decimal.dropZeros 20 ⟨x, k⟩)
  simp only [← hinside, ← hpick]
  cases h₁ : inside c <;> cases h₂ : inside (c + 1)
  · exact .inl ⟨rfl, by simp, by simp⟩
  · exact .inr ⟨c + 1, h₂, rfl⟩
  · exact .inr ⟨c, h₁, rfl⟩
  · dsimp only
    split_ifs
    · exact .inr ⟨c, h₁, rfl⟩
    · exact .inr ⟨c + 1, h₂, rfl⟩
    · exact .inr ⟨c, h₁, rfl⟩
    · exact .inr ⟨c + 1, h₂, rfl⟩

/-! ## Seventeen digits suffice -/

/-- A quotient is no smaller than its leading digit in its place, found among its first `p`
decimals. -/
theorem ten_pow_digitCount_sub_le {num den p : ℕ} (hden : 0 < den)
    (h : (10 : ℚ) ^ (-p : ℤ) ≤ (num : ℚ) / den) :
    (10 : ℚ) ^ ((digitCount (num * Nat.pow 10 p / den) : ℤ) - (p + 1)) ≤ (num : ℚ) / den := by
  have hden' : (0 : ℚ) < den := by exact_mod_cast hden
  have hfar : den ≤ num * Nat.pow 10 p := by
    rw [zpow_neg, le_div_iff₀ hden', inv_mul_le_iff₀ (by positivity), mul_comm, zpow_natCast] at h
    exact_mod_cast h
  have hcount := pow_digitCount_le (Nat.div_pos hfar hden)
  have hdigits : 0 < digitCount (num * Nat.pow 10 p / den) := Nat.length_toDigits_pos
  rw [Nat.le_div_iff_mul_le hden] at hcount
  rw [show (digitCount (num * Nat.pow 10 p / den) : ℤ) - (p + 1) =
      ((digitCount (num * Nat.pow 10 p / den) - 1 : ℕ) : ℤ) - p by omega,
    zpow_sub₀ (by norm_num), zpow_natCast, zpow_natCast, div_le_div_iff₀ (by positivity) hden']
  exact_mod_cast hcount

theorem ten_pow_leadingPlace_le {num den : ℕ} (hden : 0 < den)
    (h : (10 : ℚ) ^ (-340 : ℤ) ≤ (num : ℚ) / den) :
    (10 : ℚ) ^ leadingPlace num den ≤ (num : ℚ) / den :=
  ten_pow_digitCount_sub_le (p := 340) hden h

section Grid

variable {m : ℕ} {e : ℤ}

theorem quarters_eq (m : ℕ) (e : ℤ) : ((4 * m : ℕ) : ℚ) * 2 ^ (e - 2) = m * 2 ^ e := by
  rw [two_zpow_sub_two]
  push_cast
  ring

theorem gridCount_mul_le (m : ℕ) (e : ℤ) (n : ℕ) :
    (gridCount m e n : ℚ) * 10 ^ gridExponent m e n ≤ m * 2 ^ e := by
  have h := Nat.div_mul_le_self
    (4 * m * Nat.pow 2 (e - 2).toNat * Nat.pow 10 (-gridExponent m e n).toNat)
    (Nat.pow 10 (gridExponent m e n).toNat * Nat.pow 2 (-(e - 2)).toNat)
  rw [← Nat.cast_le (α := ℚ), cast_mul_two_pow, cast_mul_ten_pow,
    mul_le_mul_iff_left₀ (clearing_pos _ _), quarters_eq] at h
  exact h

theorem lt_succ_gridCount_mul (m : ℕ) (e : ℤ) (n : ℕ) :
    (m : ℚ) * 2 ^ e < ((gridCount m e n + 1 : ℕ) : ℚ) * 10 ^ gridExponent m e n := by
  have h := Nat.lt_div_mul_add
    (a := 4 * m * Nat.pow 2 (e - 2).toNat * Nat.pow 10 (-gridExponent m e n).toNat)
    (b := Nat.pow 10 (gridExponent m e n).toNat * Nat.pow 2 (-(e - 2)).toNat)
    (Nat.mul_pos (Nat.pow_pos (by norm_num)) (Nat.pow_pos two_pos))
  rw [← Nat.succ_mul, ← Nat.cast_lt (α := ℚ), cast_mul_two_pow, cast_mul_ten_pow,
    mul_lt_mul_iff_left₀ (clearing_pos _ _), quarters_eq] at h
  exact h

/-- The grid of seventeen digits divides the magnitude into at least `10 ^ 16` steps. -/
theorem ten_pow_gridExponent_mul_le (hm : 0 < m) (hc : Canonical m e) :
    (10 : ℚ) ^ gridExponent m e 17 * 10 ^ 16 ≤ m * 2 ^ e := by
  have hm' : (1 : ℚ) ≤ m := by exact_mod_cast hm
  have hvalue : ((4 * m * Nat.pow 2 (e - 2).toNat : ℕ) : ℚ) /
      ((Nat.pow 2 (-(e - 2)).toNat : ℕ) : ℚ) = m * 2 ^ e := by
    rw [Nat.cast_mul, mul_div_assoc, ← two_zpow_eq_div, quarters_eq]
  have hlarge : (10 : ℚ) ^ (-340 : ℤ) ≤ m * 2 ^ e := by
    have h₁ : (2 : ℚ) ^ 1074 ≤ 10 ^ 340 := by
      exact_mod_cast (by decide +kernel : (2 : ℕ) ^ 1074 ≤ 10 ^ 340)
    have h₂ : (10 : ℚ) ^ (-340 : ℤ) ≤ 2 ^ leastExponent := by
      unfold leastExponent
      rw [zpow_neg, zpow_neg]
      exact inv_anti₀ (by positivity) (by exact_mod_cast h₁)
    have h₃ : (2 : ℚ) ^ leastExponent ≤ 2 ^ e := zpow_le_zpow_right₀ one_le_two hc.least_le
    have hpow : (0 : ℚ) < 2 ^ e := by positivity
    nlinarith
  have hden : 0 < Nat.pow 2 (-(e - 2)).toNat := Nat.pow_pos two_pos
  have h := ten_pow_leadingPlace_le hden (hvalue ▸ hlarge)
  rw [hvalue] at h
  simp only [gridExponent]
  rw [← zpow_natCast, ← zpow_add₀ (by norm_num)]
  convert h using 2
  omega

theorem readsAs_of_lt {x : ℚ} (hlow : ((interval m e).low : ℚ) * 2 ^ (e - 2) < x)
    (hhigh : x < (m + 1 / 2) * 2 ^ e) : ReadsAs m e x := by
  rw [← interval_high_mul] at hhigh
  unfold ReadsAs Interval.Contains
  split_ifs
  · exact ⟨hlow.le, hhigh.le⟩
  · exact ⟨hlow, hhigh⟩

theorem readsAs_of_above {x : ℚ} (hlow : (m : ℚ) * 2 ^ e < x)
    (hhigh : x < m * 2 ^ e + 2 ^ e / 2) : ReadsAs m e x := by
  refine readsAs_of_lt (lt_of_le_of_lt ?_ hlow) (by linarith)
  rw [← quarters_eq m e]
  refine mul_le_mul_of_nonneg_right ?_ (by positivity)
  rw [Nat.cast_le]
  unfold interval
  dsimp only
  split_ifs <;> omega

theorem readsAs_of_below {x : ℚ} (hm : 0 < m) (hne : m ≠ 2 ^ 52)
    (hlow : (m : ℚ) * 2 ^ e - 2 ^ e / 2 < x) (hhigh : x ≤ m * 2 ^ e) : ReadsAs m e x := by
  have hpow : (0 : ℚ) < 2 ^ e := by positivity
  have hend : (interval m e).low = 4 * m - 2 := if_neg fun h => hne h.1
  refine readsAs_of_lt (lt_of_eq_of_lt ?_ hlow) (by linarith)
  rw [hend, two_zpow_sub_two, Nat.cast_sub (by omega)]
  push_cast
  ring

/-- One of the two neighbours with seventeen digits reads as the magnitude. -/
theorem exists_neighbour_readsAs (hm : 0 < m) (hc : Canonical m e) :
    ReadsAs m e (gridCount m e 17 * 10 ^ gridExponent m e 17) ∨
      ReadsAs m e ((gridCount m e 17 + 1 : ℕ) * 10 ^ gridExponent m e 17) := by
  have hpow : (0 : ℚ) < 2 ^ e := by positivity
  have hstep := ten_pow_gridExponent_mul_le hm hc
  have hle := gridCount_mul_le m e 17
  have hlt := lt_succ_gridCount_mul m e 17
  have hsucc : ((gridCount m e 17 + 1 : ℕ) : ℚ) * 10 ^ gridExponent m e 17 =
      gridCount m e 17 * 10 ^ gridExponent m e 17 + 10 ^ gridExponent m e 17 := by
    push_cast
    ring
  by_cases hbinade : m = 2 ^ 52
  · -- the interval is short below, but the step is shorter than half a place
    right
    have hshort : (10 : ℚ) ^ gridExponent m e 17 < 2 ^ e / 2 := by
      rw [hbinade] at hstep ⊢
      push_cast at hstep
      linarith
    exact readsAs_of_above hlt (by linarith)
  · have hshort : (10 : ℚ) ^ gridExponent m e 17 < 2 ^ e := by
      have hm53 : (m : ℚ) + 1 ≤ 2 ^ 53 := by exact_mod_cast hc.mantissa_lt
      have : (m : ℚ) * 2 ^ e < 2 ^ 53 * 2 ^ e := by nlinarith
      linarith
    rcases lt_or_ge ((m : ℚ) * 2 ^ e - 2 ^ e / 2)
      (gridCount m e 17 * 10 ^ gridExponent m e 17) with hnear | hfar
    · exact .inl (readsAs_of_below hm hbinade hnear hle)
    · exact .inr (readsAs_of_above hlt (by linarith))

/-- **The shortest decimal of a magnitude reads as it.** -/
theorem readsAs_shortest (hm : 0 < m) (hc : Canonical m e) : ReadsAs m e (shortest m e).value := by
  have hfound : ((List.range 17).findSome? fun i => nearest? m e (i + 1)).isSome := by
    refine List.findSome?_isSome_iff.2 ⟨16, by simp, ?_⟩
    rcases nearest?_cases m e 17 with ⟨-, h₁, h₂⟩ | ⟨x, -, h⟩
    · rcases exists_neighbour_readsAs hm hc with h | h
      · exact absurd h h₁
      · exact absurd h h₂
    · rw [h]
      rfl
  obtain ⟨d, hd⟩ := Option.isSome_iff_exists.1 hfound
  obtain ⟨i, -, hi⟩ := List.exists_of_findSome?_eq_some hd
  have hshortest : shortest m e = d := by
    unfold shortest
    rw [if_neg hm.ne', hd, Option.getD_some]
  rw [hshortest]
  rcases nearest?_cases m e (i + 1) with ⟨hnone, -, -⟩ | ⟨x, hx, h⟩
  · rw [hi] at hnone
    exact absurd hnone (by simp)
  · rw [hi, Option.some.injEq] at h
    rw [h, Decimal.value_dropZeros]
    exact hx

/-- Every decimal that is the shortest one of a magnitude, however written, reads as the
magnitude. -/
theorem ofDecimal_of_eq_shortest (hc : Canonical m e) (negative : Bool) {digits : ℕ} {exponent : ℤ}
    (h : (digits : ℚ) * 10 ^ exponent = (shortest m e).value) :
    ofDecimal negative digits exponent = .finite negative m e hc := by
  rcases Nat.eq_zero_or_pos m with rfl | hm
  · have hzero : digits = 0 := by
      have hvalue : (shortest 0 e).value = 0 := by simp [shortest, Decimal.value]
      rw [hvalue, mul_eq_zero] at h
      exact_mod_cast h.resolve_right (by positivity)
    obtain rfl : e = leastExponent := hc.full.resolve_right (by norm_num)
    rw [ofDecimal, if_pos hzero, zero]
  · exact ofDecimal_of_readsAs hm hc (h ▸ readsAs_shortest hm hc)

end Grid

end Binary64

/-! ## Reading positional text -/

open Text

theorem isAsciiDigit_eq_isDigit (c : Char) : isAsciiDigit c = c.isDigit := rfl

theorem decimalValue_eq_ofDigitChars (ds : List Char) :
    decimalValue ds = Nat.ofDigitChars 10 ds 0 :=
  Nat.ofDigitChars_eq_foldl.symm

theorem readSign_of_isAsciiDigit {c : Char} (h : isAsciiDigit c = true) (r : List Char) :
    readSign (c :: r) = (false, c :: r) := by
  unfold readSign
  split
  · simp_all [isAsciiDigit]
  · simp_all [isAsciiDigit]
  · rfl

namespace Decimal

theorem isAsciiDigit_of_mem_digitList {d : Decimal} {c : Char} (h : c ∈ d.digitList) :
    isAsciiDigit c = true :=
  Nat.isDigit_of_mem_toDigits (by norm_num) le_rfl h

theorem decimalValue_digitList (d : Decimal) : decimalValue d.digitList = d.digits := by
  rw [decimalValue_eq_ofDigitChars, digitList, Nat.ofDigitChars_ten_toDigits]

/-- What a text of digits with an optional fraction denotes. -/
theorem read?_of_digits {s whole fraction tail : List Char} {negative : Bool}
    (hs : readSign s = (negative, whole ++ tail)) (hne : whole ≠ [])
    (hwhole : ∀ c ∈ whole, isAsciiDigit c = true)
    (hfraction : ∀ c ∈ fraction, isAsciiDigit c = true)
    (htail : tail = [] ∧ fraction = [] ∨ tail = '.' :: fraction) :
    read? s = some (negative, ⟨decimalValue (whole ++ fraction), -fraction.length⟩) := by
  unfold read?
  simp only [hs, List.takeWhile_append_of_pos hwhole, List.dropWhile_append_of_pos hwhole]
  rcases htail with ⟨rfl, rfl⟩ | rfl
  · simp [hne, readExponent?]
  · have hpoint : isAsciiDigit '.' = false := rfl
    simp [hpoint, hne, readExponent?, List.takeWhile_eq_self_iff.2 hfraction,
      List.dropWhile_eq_nil_iff.2 hfraction]

/-- The positional text of a decimal is digits with an optional fraction, and denotes the
decimal. -/
theorem exists_digits_positional (d : Decimal) :
    ∃ whole fraction tail, d.positional = whole ++ tail ∧ whole ≠ [] ∧
      (∀ c ∈ whole, isAsciiDigit c = true) ∧ (∀ c ∈ fraction, isAsciiDigit c = true) ∧
      (tail = [] ∧ fraction = [] ∨ tail = '.' :: fraction) ∧
      (decimalValue (whole ++ fraction) : ℚ) * 10 ^ (-fraction.length : ℤ) = d.value := by
  have hdigits : ∀ c ∈ d.digitList, isAsciiDigit c = true :=
    fun c h => isAsciiDigit_of_mem_digitList h
  have hzeros : ∀ n, ∀ c ∈ List.replicate n '0', isAsciiDigit c = true := by
    intro n c h
    rw [List.eq_of_mem_replicate h]
    rfl
  unfold positional value
  split_ifs with hexp hzero
  · exact ⟨['0'], [], [], rfl, by simp, by simp [isAsciiDigit], by simp, by simp,
      by simp [hzero, decimalValue]⟩
  · refine ⟨d.digitList ++ List.replicate d.exponent.toNat '0', [], [], (List.append_nil _).symm,
      by simp [digitList], ?_, by simp, by simp, ?_⟩
    · intro c h
      exact (List.mem_append.1 h).elim (hdigits c) (hzeros _ c)
    · obtain ⟨k, hk⟩ := Int.eq_ofNat_of_zero_le hexp
      rw [List.append_nil, decimalValue_eq_ofDigitChars, Nat.ofDigitChars_append,
        ← decimalValue_eq_ofDigitChars, decimalValue_digitList, Nat.ofDigitChars_replicate_zero, hk]
      simp [mul_comm]
  · extract_lets places padded
    have hpadded : ∀ c ∈ padded, isAsciiDigit c = true := by
      intro c h
      exact (List.mem_append.1 h).elim (hzeros _ c) (hdigits c)
    have hlength : places < padded.length := by
      simp only [padded, List.length_append, List.length_replicate]
      omega
    refine ⟨padded.take (padded.length - places), padded.drop (padded.length - places), _, rfl, ?_,
      fun c h => hpadded c (List.mem_of_mem_take h), fun c h => hpadded c (List.mem_of_mem_drop h),
      .inr rfl, ?_⟩
    · rw [Ne, List.take_eq_nil_iff, not_or]
      exact ⟨by omega, List.ne_nil_of_length_pos (by omega)⟩
    · have hvalue : decimalValue padded = d.digits := by
        rw [decimalValue_eq_ofDigitChars, Nat.ofDigitChars_append, Nat.ofDigitChars_replicate_zero,
          mul_zero, ← decimalValue_eq_ofDigitChars, decimalValue_digitList]
      have hplaces : -((padded.length - (padded.length - places) : ℕ) : ℤ) = d.exponent := by
        simp only [places] at hlength ⊢
        omega
      rw [List.take_append_drop, List.length_drop, hvalue, hplaces]

end Decimal

namespace Binary64

/-- The text of a magnitude begins with a digit, so it is none of the names. -/
theorem name_ne_of_isAsciiDigit {c d : Char} {r w : List Char} (h : isAsciiDigit c = true)
    (hd : d.isDigit = false) :
    String.ofList ((c :: r).map Char.toLower) ≠ String.ofList (d :: w) := by
  intro heq
  rw [String.ofList_inj, List.map_cons, List.cons.injEq] at heq
  have hlower : c.toLower = c := by
    unfold Char.toLower
    refine dif_neg fun hupper => ?_
    simp only [isAsciiDigit, Bool.and_eq_true, decide_eq_true_eq, Char.le_def] at h
    exact absurd (UInt32.le_trans hupper.1 h.2) (by decide)
  rw [hlower] at heq
  rw [heq.1, isAsciiDigit_eq_isDigit, hd] at h
  exact absurd h (by simp)

/-- **The positional text of a number reads as the number.** -/
theorem readExtended?_render_positionalOnly (x : Binary64) :
    readExtended? (x.render .positionalOnly).toList = some x := by
  cases x with
  | nan => decide
  | infinite negative => cases negative <;> decide
  | finite negative m e canonical =>
    obtain ⟨whole, fraction, tail, htext, hne, hwhole, hfraction, htail, hvalue⟩ :=
      (shortest m e).exists_digits_positional
    obtain ⟨c, r, hc⟩ := List.exists_cons_of_ne_nil hne
    have hdigit : isAsciiDigit c = true := hwhole c (by simp [hc])
    have hrender : ((Binary64.finite negative m e canonical).render .positionalOnly).toList =
        if negative then '-' :: (whole ++ tail) else whole ++ tail := by
      simp [render, Layout.magnitude, Layout.positionalOnly, htext]
    have hsign : readSign ((Binary64.finite negative m e canonical).render .positionalOnly).toList =
        (negative, whole ++ tail) := by
      rw [hrender]
      cases negative with
      | true => rfl
      | false => simp only [hc, List.cons_append, Bool.false_eq_true, if_false,
          readSign_of_isAsciiDigit hdigit]
    have hread := Decimal.read?_of_digits hsign hne hwhole hfraction htail
    have hnumber := ofDecimal_of_eq_shortest canonical negative hvalue
    unfold readExtended?
    simp only [hsign]
    rw [if_neg, if_neg]
    · unfold read?
      simp only [hread, hnumber]
    · simp only [hc, List.cons_append, Bool.and_eq_true, decide_eq_true_eq, not_and]
      intro hname
      exact absurd hname (name_ne_of_isAsciiDigit hdigit (by decide))
    · simp only [hc, List.cons_append, Bool.or_eq_true, decide_eq_true_eq, not_or]
      exact ⟨name_ne_of_isAsciiDigit hdigit (by decide), name_ne_of_isAsciiDigit hdigit (by decide)⟩

end Binary64

end PayloadGen
