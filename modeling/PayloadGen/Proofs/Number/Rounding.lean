import Mathlib.Algebra.Order.Field.Power
import Mathlib.Data.Rat.Cast.Order
import Mathlib.Tactic.FieldSimp
import Mathlib.Tactic.Linarith
import Mathlib.Tactic.NormNum
import Mathlib.Tactic.Positivity
import Mathlib.Tactic.Ring
import PayloadGen.Number.Shortest

/-!
# Rounding to the nearest number

What reads as a given number of the binary64 format. The interval of a positive magnitude
`mantissa * 2 ^ exponent` reaches half a place up and half a place down, or a quarter where the
number below is twice as near, and holds its ends when the mantissa is even.

* `ofRatio_of_readsAs`: every quotient inside the interval of a magnitude rounds to that magnitude.
* `ofDecimal_of_readsAs`: so does every decimal, whatever digits and exponent write it.
* `ofRatio_eq_infinite_iff`: a quotient rounds to an infinity only where the exponent leaves the
  range.
-/

namespace PayloadGen

/-! ## Powers with a whole exponent -/

/-- A power whose exponent may be negative, as a quotient of two powers. -/
theorem zpow_eq_div (b : ℕ) (n : ℤ) :
    (b : ℚ) ^ n = ((Nat.pow b n.toNat : ℕ) : ℚ) / ((Nat.pow b (-n).toNat : ℕ) : ℚ) := by
  simp only [Nat.pow_eq, Nat.cast_pow]
  rcases le_total 0 n with hn | hn
  · obtain ⟨k, rfl⟩ := Int.eq_ofNat_of_zero_le hn
    simp
  · obtain ⟨k, hk⟩ := Int.eq_ofNat_of_zero_le (Int.neg_nonneg.2 hn)
    obtain rfl : n = -(k : ℤ) := by omega
    simp

theorem two_zpow_eq_div (n : ℤ) :
    (2 : ℚ) ^ n = ((Nat.pow 2 n.toNat : ℕ) : ℚ) / ((Nat.pow 2 (-n).toNat : ℕ) : ℚ) :=
  zpow_eq_div 2 n

theorem ten_zpow_eq_div (n : ℤ) :
    (10 : ℚ) ^ n = ((Nat.pow 10 n.toNat : ℕ) : ℚ) / ((Nat.pow 10 (-n).toNat : ℕ) : ℚ) :=
  zpow_eq_div 10 n

theorem natPow_pos {b : ℕ} (hb : 0 < b) (n : ℕ) : (0 : ℚ) < ((Nat.pow b n : ℕ) : ℚ) := by
  exact_mod_cast Nat.pow_pos hb

namespace Binary64

/-! ## Magnitudes -/

/-- Does the interval, in units of a power of two, hold the number? -/
def Interval.Contains (i : Interval) (unit : ℤ) (x : ℚ) : Prop :=
  if i.closed then i.low * 2 ^ unit ≤ x ∧ x ≤ i.high * 2 ^ unit
  else i.low * 2 ^ unit < x ∧ x < i.high * 2 ^ unit

/-- The number reads as the magnitude. -/
def ReadsAs (m : ℕ) (e : ℤ) (x : ℚ) : Prop :=
  (interval m e).Contains (e - 2) x

/-! ## Rounding a quotient -/

/-- The number is at most half a unit from the whole number, and nearer if that one is odd. -/
structure NearWhole (y : ℚ) (m : ℕ) : Prop where
  low : (m : ℚ) - 1 / 2 ≤ y
  high : y ≤ m + 1 / 2
  odd : m % 2 = 1 → (m : ℚ) - 1 / 2 < y ∧ y < m + 1 / 2

theorem roundDiv_eq_of_nearWhole {n d m : ℕ} (hd : 0 < d) (h : NearWhole ((n : ℚ) / d) m) :
    roundDiv n d = m := by
  have hd' : (0 : ℚ) < d := by exact_mod_cast hd
  have hn : (n : ℚ) = (n : ℚ) / d * d := by field_simp
  have hlow : 2 * (m * d) ≤ 2 * n + d := by
    have : (2 * (m * d) : ℚ) ≤ 2 * n + d := by rw [hn]; nlinarith [h.low]
    exact_mod_cast this
  have hhigh : 2 * n ≤ 2 * (m * d) + d := by
    have : (2 * n : ℚ) ≤ 2 * (m * d) + d := by rw [hn]; nlinarith [h.high]
    exact_mod_cast this
  have hodd : m % 2 = 1 → 2 * (m * d) < 2 * n + d ∧ 2 * n < 2 * (m * d) + d := by
    intro hm
    obtain ⟨hl, hh⟩ := h.odd hm
    have h₁ : (2 * (m * d) : ℚ) < 2 * n + d := by rw [hn]; nlinarith
    have h₂ : (2 * n : ℚ) < 2 * (m * d) + d := by rw [hn]; nlinarith
    exact ⟨by exact_mod_cast h₁, by exact_mod_cast h₂⟩
  have hdiv := Nat.div_add_mod n d
  have hmod := Nat.mod_lt n hd
  rw [mul_comm] at hdiv
  -- the quotient is off by at most one
  have hq : m = n / d ∨ m = n / d + 1 := by
    rcases lt_trichotomy m (n / d) with hlt | heq | hgt
    · have := Nat.mul_le_mul_right d (Nat.succ_le_of_lt hlt)
      rw [Nat.succ_mul] at this
      omega
    · exact .inl heq
    · refine .inr (le_antisymm (not_lt.1 fun hlt => ?_) hgt)
      have := Nat.mul_le_mul_right d (Nat.succ_le_of_lt hlt)
      rw [Nat.succ_mul, Nat.add_mul] at this
      omega
  unfold roundDiv
  rcases hq with hq | hq
  · rw [hq] at hlow hhigh hodd ⊢
    dsimp only
    split_ifs <;> omega
  · rw [hq, Nat.add_mul] at hlow hhigh hodd
    rw [hq]
    dsimp only
    split_ifs <;> omega

/-- The exponent of the leading binary digit. -/
theorem le_floorLog2_iff {num den : ℕ} (hnum : 0 < num) (hden : 0 < den) (k : ℤ) :
    k ≤ floorLog2 num den ↔ (2 : ℚ) ^ k ≤ (num : ℚ) / den := by
  have hden' : (0 : ℚ) < den := by exact_mod_cast hden
  have htwo : (1 : ℚ) < 2 := by norm_num
  set a : ℤ := (num.log2 : ℤ) - den.log2 with ha
  -- the quotient lies within a factor of two of `2 ^ a`
  have hlow : (2 : ℚ) ^ (a - 1) ≤ (num : ℚ) / den := by
    have h₁ : (2 : ℚ) ^ (num.log2 : ℤ) ≤ num := by
      exact_mod_cast Nat.log2_self_le hnum.ne'
    have h₂ : (den : ℚ) ≤ 2 ^ ((den.log2 : ℤ) + 1) := by
      exact_mod_cast (Nat.lt_log2_self (n := den)).le
    rw [show a - 1 = (num.log2 : ℤ) - (den.log2 + 1) by omega, zpow_sub₀ two_ne_zero]
    exact div_le_div₀ (by positivity) h₁ hden' h₂
  have hhigh : (num : ℚ) / den < 2 ^ (a + 1) := by
    have h₁ : (num : ℚ) < 2 ^ ((num.log2 : ℤ) + 1) := by
      exact_mod_cast Nat.lt_log2_self (n := num)
    have h₂ : (2 : ℚ) ^ (den.log2 : ℤ) ≤ den := by
      exact_mod_cast Nat.log2_self_le hden.ne'
    rw [show a + 1 = (num.log2 : ℤ) + 1 - den.log2 by omega, zpow_sub₀ two_ne_zero]
    exact div_lt_div₀ h₁ h₂ (by positivity) (by positivity)
  have htest : den * Nat.pow 2 a.toNat ≤ num * Nat.pow 2 (-a).toNat ↔
      (2 : ℚ) ^ a ≤ (num : ℚ) / den := by
    rw [two_zpow_eq_div,
      div_le_div_iff₀ (natPow_pos two_pos _) hden', ← Nat.cast_mul, ← Nat.cast_mul, Nat.cast_le,
      mul_comm den]
  have hmono : ∀ {i j : ℤ}, (2 : ℚ) ^ i < 2 ^ j → i < j := (zpow_lt_zpow_iff_right₀ htwo).1
  have hmono' : ∀ {i j : ℤ}, i ≤ j → (2 : ℚ) ^ i ≤ 2 ^ j := (zpow_le_zpow_iff_right₀ htwo).2
  unfold floorLog2
  rw [← ha]
  dsimp only
  simp only [htest]
  split_ifs with h
  · refine ⟨fun hk => (hmono' hk).trans h, fun hk => ?_⟩
    exact Int.lt_add_one_iff.1 (hmono (hk.trans_lt hhigh))
  · refine ⟨fun hk => (hmono' hk).trans hlow, fun hk => ?_⟩
    have := hmono (hk.trans_lt (not_le.1 h))
    omega

theorem floorLog2_lt_iff {num den : ℕ} (hnum : 0 < num) (hden : 0 < den) (k : ℤ) :
    floorLog2 num den < k ↔ (num : ℚ) / den < (2 : ℚ) ^ k := by
  rw [← not_le, ← not_le, le_floorLog2_iff hnum hden]

theorem ofRatio_eq {num : ℕ} (hnum : 0 < num) (negative : Bool) (den : ℕ) :
    ofRatio negative num den =
      if placeCount num den = 2 ^ 53 then
        ofMagnitude negative (2 ^ 52) (placeExponent num den + 1)
      else ofMagnitude negative (placeCount num den) (placeExponent num den) := by
  rw [ofRatio, if_neg hnum.ne']
  rfl

theorem scaled_quotient (num den : ℕ) (q : ℤ) :
    ((num * Nat.pow 2 (-q).toNat : ℕ) : ℚ) / ((den * Nat.pow 2 q.toNat : ℕ) : ℚ) =
      (num : ℚ) / den / 2 ^ q := by
  rw [two_zpow_eq_div, Nat.cast_mul, Nat.cast_mul, div_div_eq_mul_div, mul_div_mul_comm,
    mul_div_assoc]

/-- What a quotient rounds to when its place and its count of places are known. -/
theorem ofRatio_of_nearWhole {negative : Bool} {num den m : ℕ} {q : ℤ} (hnum : 0 < num)
    (hden : 0 < den) (hq : placeExponent num den = q)
    (h : NearWhole ((num : ℚ) / den / 2 ^ q) m) :
    ofRatio negative num den =
      if m = 2 ^ 53 then ofMagnitude negative (2 ^ 52) (q + 1) else ofMagnitude negative m q := by
  have hpos : 0 < den * Nat.pow 2 q.toNat := Nat.mul_pos hden (Nat.pow_pos two_pos)
  have hround := roundDiv_eq_of_nearWhole hpos (by rwa [scaled_quotient])
  have hcount : placeCount num den = m := by
    unfold placeCount
    rw [hq]
    exact hround
  rw [ofRatio_eq hnum, hcount, hq]

/-! ## Rounded numbers are canonical -/

theorem ofMagnitude_eq_infinite_iff {negative b : Bool} {m : ℕ} {e : ℤ} :
    ofMagnitude negative m e = .infinite b ↔ b = negative ∧ ¬ Canonical m e := by
  unfold ofMagnitude
  split
  · rename_i hc
    simp [hc]
  · rename_i hc
    simp [hc, eq_comm]

theorem le_roundDiv {n d k : ℕ} (hd : 0 < d) (h : k * d ≤ n) : k ≤ roundDiv n d := by
  have hk := (Nat.le_div_iff_mul_le hd).2 h
  unfold roundDiv
  dsimp only
  split_ifs <;> omega

theorem roundDiv_le {n d k : ℕ} (hd : 0 < d) (h : n < k * d) : roundDiv n d ≤ k := by
  have hk := (Nat.div_lt_iff_lt_mul hd).2 h
  unfold roundDiv
  dsimp only
  split_ifs <;> omega

section Places

variable {num den : ℕ} (hnum : 0 < num) (hden : 0 < den)

include hnum hden

theorem placeCount_le : placeCount num den ≤ 2 ^ 53 := by
  unfold placeCount
  set q := placeExponent num den with hq
  have hpos : 0 < den * Nat.pow 2 q.toNat := Nat.mul_pos hden (Nat.pow_pos two_pos)
  have hpos' : (0 : ℚ) < ((den * Nat.pow 2 q.toNat : ℕ) : ℚ) := by exact_mod_cast hpos
  have hpow : (0 : ℚ) < 2 ^ q := by positivity
  refine roundDiv_le hpos ?_
  rw [← Nat.cast_lt (α := ℚ), Nat.cast_mul (2 ^ 53), ← div_lt_iff₀ hpos', scaled_quotient,
    div_lt_iff₀ hpow]
  have hlog : floorLog2 num den < q + 53 := by
    unfold placeExponent at hq
    omega
  have hlt := (floorLog2_lt_iff hnum hden _).1 hlog
  rw [zpow_add₀ two_ne_zero] at hlt
  push_cast
  linarith

theorem le_placeCount (hplace : placeExponent num den ≠ leastExponent) :
    2 ^ 52 ≤ placeCount num den := by
  unfold placeCount
  set q := placeExponent num den with hq
  have hpos : 0 < den * Nat.pow 2 q.toNat := Nat.mul_pos hden (Nat.pow_pos two_pos)
  have hpos' : (0 : ℚ) < ((den * Nat.pow 2 q.toNat : ℕ) : ℚ) := by exact_mod_cast hpos
  have hpow : (0 : ℚ) < 2 ^ q := by positivity
  refine le_roundDiv hpos ?_
  rw [← Nat.cast_le (α := ℚ), Nat.cast_mul (2 ^ 52), ← le_div_iff₀ hpos', scaled_quotient,
    le_div_iff₀ hpow]
  have hlog : q + 52 ≤ floorLog2 num den := by
    unfold placeExponent at hq
    omega
  have hle := (le_floorLog2_iff hnum hden _).1 hlog
  rw [zpow_add₀ two_ne_zero] at hle
  push_cast
  linarith

/-- **Rounding gives canonical numbers**: a quotient rounds to an infinity only where the exponent
is too great for the format. -/
theorem ofRatio_eq_infinite_iff {negative b : Bool} :
    ofRatio negative num den = .infinite b ↔
      b = negative ∧ greatestExponent <
        if placeCount num den = 2 ^ 53 then placeExponent num den + 1
        else placeExponent num den := by
  have hleast : leastExponent ≤ placeExponent num den := le_max_right _ _
  have hhigh := placeCount_le hnum hden
  have hlow := le_placeCount hnum hden
  rw [ofRatio_eq hnum]
  split_ifs with hcarry
  · rw [ofMagnitude_eq_infinite_iff, and_congr_right_iff, ← not_le]
    refine fun _ => not_congr ⟨fun hc => hc.le_greatest, fun hle => ?_⟩
    exact ⟨by decide, by omega, hle, .inr le_rfl⟩
  · rw [ofMagnitude_eq_infinite_iff, and_congr_right_iff, ← not_le]
    refine fun _ => not_congr ⟨fun hc => hc.le_greatest, fun hle => ?_⟩
    exact ⟨lt_of_le_of_ne hhigh hcarry, hleast, hle, or_iff_not_imp_left.2 hlow⟩

end Places

/-! ## Inside the interval -/

section Contains

variable {m : ℕ} {e : ℤ} {x : ℚ}

theorem two_zpow_sub_two (e : ℤ) : (2 : ℚ) ^ (e - 2) = 2 ^ e / 4 := by
  rw [zpow_sub₀ two_ne_zero]
  norm_num

theorem interval_high_mul (m : ℕ) (e : ℤ) :
    ((interval m e).high : ℚ) * 2 ^ (e - 2) = (m + 1 / 2) * 2 ^ e := by
  rw [two_zpow_sub_two]
  unfold interval
  push_cast
  ring

/-- Wherever the lower end is, it is at most half a place down. -/
theorem le_interval_low_mul (hm : 0 < m) :
    ((m : ℚ) - 1 / 2) * 2 ^ e ≤ (interval m e).low * 2 ^ (e - 2) := by
  have hpow : (0 : ℚ) < 2 ^ e := by positivity
  rw [two_zpow_sub_two]
  unfold interval
  dsimp only
  split_ifs
  · rw [Nat.cast_sub (by omega)]
    push_cast
    nlinarith
  · rw [Nat.cast_sub (by omega)]
    push_cast
    nlinarith

theorem ReadsAs.nearWhole (hm : 0 < m) (h : ReadsAs m e x) : NearWhole (x / 2 ^ e) m := by
  have hpow : (0 : ℚ) < 2 ^ e := by positivity
  have hlow := le_interval_low_mul (e := e) hm
  have hclosed : (interval m e).closed = decide (m % 2 = 0) := rfl
  unfold ReadsAs Interval.Contains at h
  rw [hclosed, interval_high_mul] at h
  by_cases heven : m % 2 = 0
  · simp only [heven, decide_true, if_true] at h
    refine ⟨(le_div_iff₀ hpow).2 (hlow.trans h.1), (div_le_iff₀ hpow).2 h.2, fun hodd => ?_⟩
    omega
  · simp only [heven, decide_false, Bool.false_eq_true, if_false] at h
    have h₁ := (lt_div_iff₀ hpow).2 (hlow.trans_lt h.1)
    have h₂ := (div_lt_iff₀ hpow).2 h.2
    exact ⟨h₁.le, h₂.le, fun _ => ⟨h₁, h₂⟩⟩

/-- Where the number below is twice as near, the interval reaches a quarter of a place down. -/
theorem ReadsAs.quarter (he : leastExponent < e) (h : ReadsAs (2 ^ 52) e x) :
    (2 ^ 53 : ℚ) - 1 / 2 ≤ x / 2 ^ (e - 1) := by
  have hpow : (0 : ℚ) < 2 ^ (e - 1) := by positivity
  have hunit : (2 : ℚ) ^ (e - 2) = 2 ^ (e - 1) / 2 := by
    rw [show e - 2 = e - 1 - 1 by omega, zpow_sub₀ two_ne_zero, zpow_one]
  unfold ReadsAs Interval.Contains interval at h
  norm_num [he, hunit] at h
  rw [le_div_iff₀ hpow]
  norm_num
  linarith [h.1]

end Contains

/-- **Every quotient inside the interval of a magnitude rounds to it.** -/
theorem ofRatio_of_readsAs {negative : Bool} {num den m : ℕ} {e : ℤ} (hden : 0 < den) (hm : 0 < m)
    (hc : Canonical m e) (h : ReadsAs m e ((num : ℚ) / den)) :
    ofRatio negative num den = .finite negative m e hc := by
  have hpow : (0 : ℚ) < 2 ^ e := by positivity
  have hnear := h.nearWhole hm
  have hm' : (1 : ℚ) ≤ m := by exact_mod_cast hm
  have hm53 : (m : ℚ) + 1 ≤ 2 ^ 53 := by exact_mod_cast hc.mantissa_lt
  have hnum : 0 < num := by
    rcases Nat.eq_zero_or_pos num with rfl | hnum
    · have := hnear.low
      norm_num at this
      linarith
    · exact hnum
  have hhigh : (num : ℚ) / den < 2 ^ (e + 53) := by
    rw [zpow_add₀ two_ne_zero, mul_comm, ← div_lt_iff₀ hpow]
    have := hnear.high
    norm_num
    linarith
  have hlog : floorLog2 num den < e + 53 := (floorLog2_lt_iff hnum hden _).2 hhigh
  have hleast := hc.least_le
  by_cases hplace : placeExponent num den = e
  · have hcarry : m ≠ 2 ^ 53 := hc.mantissa_lt.ne
    rw [ofRatio_of_nearWhole hnum hden hplace hnear, if_neg hcarry, ofMagnitude, dif_pos hc]
  -- otherwise the quotient lies below the magnitude, which is the least of its exponent
  · have he : leastExponent < e ∧ floorLog2 num den < e + 52 := by
      unfold placeExponent at hplace
      omega
    have hlow : (num : ℚ) / den / 2 ^ e < 2 ^ 52 := by
      rw [div_lt_iff₀ hpow, mul_comm]
      have := (floorLog2_lt_iff hnum hden _).1 he.2
      rwa [zpow_add₀ two_ne_zero] at this
    obtain rfl : m = 2 ^ 52 := by
      refine le_antisymm ?_ (hc.full.resolve_left he.1.ne')
      have := hnear.low
      have : (m : ℚ) < 2 ^ 52 + 1 := by linarith
      exact Nat.lt_succ_iff.1 (by exact_mod_cast this)
    have hquarter := h.quarter he.1
    have hstep : (num : ℚ) / den / 2 ^ (e - 1) < 2 ^ 53 := by
      rw [zpow_sub₀ two_ne_zero, zpow_one, div_div_eq_mul_div, div_lt_iff₀ hpow]
      rw [div_lt_iff₀ hpow] at hlow
      linarith
    have hlog' : e + 51 ≤ floorLog2 num den := by
      rw [le_floorLog2_iff hnum hden, show e + 51 = e - 1 + 52 by omega,
        zpow_add₀ two_ne_zero, mul_comm, ← le_div_iff₀ (by positivity)]
      norm_num at hquarter ⊢
      linarith
    have hplace' : placeExponent num den = e - 1 := by
      unfold placeExponent
      omega
    have hnear' : NearWhole ((num : ℚ) / den / 2 ^ (e - 1)) (2 ^ 53) := by
      refine ⟨by exact_mod_cast hquarter, ?_, by norm_num⟩
      push_cast
      linarith
    rw [ofRatio_of_nearWhole hnum hden hplace' hnear', if_pos rfl, Int.sub_add_cancel, ofMagnitude,
      dif_pos hc]

/-! ## Decimals -/

theorem lt_pow_digitCount (n : ℕ) : n < 10 ^ digitCount n :=
  (Nat.length_toDigits_le_iff (by norm_num) Nat.length_toDigits_pos).1 le_rfl

theorem pow_digitCount_le {n : ℕ} (hn : 0 < n) : 10 ^ (digitCount n - 1) ≤ n := by
  rcases Nat.eq_zero_or_pos (digitCount n - 1) with hd | hd
  · rw [hd]
    exact hn
  · refine not_lt.1 fun hlt => ?_
    have := (Nat.length_toDigits_le_iff (by norm_num) hd).2 hlt
    unfold digitCount at this hd
    omega

/-- A magnitude of the format reads from numbers of its range only. -/
theorem ReadsAs.range {m : ℕ} {e : ℤ} {x : ℚ} (hm : 0 < m) (hc : Canonical m e)
    (h : ReadsAs m e x) : (10 : ℚ) ^ (-330 : ℤ) ≤ x ∧ x < 10 ^ (310 : ℤ) := by
  have hnear := h.nearWhole hm
  have hpow : (0 : ℚ) < 2 ^ e := by positivity
  have hleast : (2 : ℚ) ^ leastExponent ≤ 2 ^ e :=
    zpow_le_zpow_right₀ one_le_two hc.least_le
  have hgreatest : (2 : ℚ) ^ e ≤ 2 ^ greatestExponent :=
    zpow_le_zpow_right₀ one_le_two hc.le_greatest
  have hm' : (1 : ℚ) ≤ m := by exact_mod_cast hm
  have hm53 : (m : ℚ) + 1 ≤ 2 ^ 53 := by exact_mod_cast hc.mantissa_lt
  constructor
  · have hsmall : (10 : ℚ) ^ (-330 : ℤ) ≤ 2 ^ leastExponent / 2 := by
      have : (2 : ℚ) ^ 1075 ≤ 10 ^ 330 := by
        exact_mod_cast (by decide +kernel : (2 : ℕ) ^ 1075 ≤ 10 ^ 330)
      have hhalf : (2 : ℚ) ^ leastExponent / 2 = 2 ^ (-1075 : ℤ) := by
        rw [show (-1075 : ℤ) = leastExponent - 1 by rfl, zpow_sub₀ two_ne_zero, zpow_one]
      rw [hhalf, zpow_neg, zpow_neg]
      exact inv_anti₀ (by positivity) (by exact_mod_cast this)
    have := (le_div_iff₀ hpow).1 hnear.low
    nlinarith
  · have hlarge : (2 : ℚ) ^ 53 * 2 ^ greatestExponent ≤ 10 ^ (310 : ℤ) := by
      have : (2 : ℚ) ^ 1024 ≤ 10 ^ 310 := by
        exact_mod_cast (by decide +kernel : (2 : ℕ) ^ 1024 ≤ 10 ^ 310)
      rw [← zpow_natCast, ← zpow_add₀ two_ne_zero,
        show ((53 : ℕ) : ℤ) + greatestExponent = (1024 : ℕ) by rfl, zpow_natCast]
      exact_mod_cast this
    have h₁ := (div_le_iff₀ hpow).1 hnear.high
    have h₂ : ((m : ℚ) + 1 / 2) * 2 ^ e < 2 ^ 53 * 2 ^ e := by nlinarith
    have h₃ : (2 : ℚ) ^ 53 * 2 ^ e ≤ 2 ^ 53 * 2 ^ greatestExponent :=
      mul_le_mul_of_nonneg_left hgreatest (by positivity)
    linarith

/-- **Every decimal inside the interval of a magnitude reads as it.** -/
theorem ofDecimal_of_readsAs {negative : Bool} {digits m : ℕ} {exponent e : ℤ} (hm : 0 < m)
    (hc : Canonical m e) (h : ReadsAs m e (digits * 10 ^ exponent)) :
    ofDecimal negative digits exponent = .finite negative m e hc := by
  have hten : (1 : ℚ) < 10 := by norm_num
  obtain ⟨hlow, hhigh⟩ := h.range hm hc
  have hdigits : 0 < digits := by
    rcases Nat.eq_zero_or_pos digits with rfl | hpos
    · have : (0 : ℚ) < 10 ^ (-330 : ℤ) := by positivity
      rw [Nat.cast_zero, zero_mul] at hlow
      linarith
    · exact hpos
  have hcount : 0 < digitCount digits := Nat.length_toDigits_pos
  have hfew : ¬ 310 < exponent + digitCount digits := by
    have h₁ : (10 : ℚ) ^ ((digitCount digits - 1 : ℕ) : ℤ) ≤ digits := by
      exact_mod_cast pow_digitCount_le hdigits
    have h₂ : (10 : ℚ) ^ ((digitCount digits - 1 : ℕ) + exponent) < 10 ^ (310 : ℤ) := by
      rw [zpow_add₀ (by norm_num)]
      exact (mul_le_mul_of_nonneg_right h₁ (by positivity)).trans_lt hhigh
    have := (zpow_lt_zpow_iff_right₀ hten).1 h₂
    omega
  have hmany : ¬ exponent + digitCount digits < -330 := by
    have h₁ : (digits : ℚ) < 10 ^ (digitCount digits : ℤ) := by
      exact_mod_cast lt_pow_digitCount digits
    have h₂ : (10 : ℚ) ^ (-330 : ℤ) < 10 ^ (digitCount digits + exponent) := by
      rw [zpow_add₀ (by norm_num)]
      exact hlow.trans_lt (mul_lt_mul_of_pos_right h₁ (by positivity))
    have := (zpow_lt_zpow_iff_right₀ hten).1 h₂
    omega
  unfold ofDecimal
  rw [if_neg hdigits.ne', if_neg hfew, if_neg hmany]
  have hden : 0 < Nat.pow 10 (-exponent).toNat := Nat.pow_pos (by norm_num)
  refine ofRatio_of_readsAs hden hm hc ?_
  rwa [Nat.cast_mul, mul_div_assoc, ← ten_zpow_eq_div]

end Binary64

end PayloadGen
