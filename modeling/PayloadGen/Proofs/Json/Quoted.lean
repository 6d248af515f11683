import Mathlib.Tactic.IntervalCases
import PayloadGen.Json.Structure

/-!
# Quoted text read back

A text that is written between the quotes of a JSON string is read back unchanged
(`Json.unquote_quoted`). Escapes of four digits stand only for characters below the surrogates, so
two that follow each other are never taken for a pair.
-/

namespace PayloadGen.Json

open Text

theorem decodeLiteral_unit {a b c d : Char} {n : Nat} (h : hex4? a b c d = some n) (hn : n < 0xD800)
    (rest : List Char) :
    decodeLiteral ('\\' :: 'u' :: a :: b :: c :: d :: rest) =
      Char.ofNat n :: decodeLiteral rest := by
  have hhigh : isHighSurrogate n = false := by simp [isHighSurrogate]; omega
  have hlow : isLowSurrogate n = false := by simp [isLowSurrogate]; omega
  have hunit : unitChar n = Char.ofNat n := by simp [unitChar, hhigh, hlow]
  rw [decodeLiteral.eq_def]
  split
  · rename_i heq
    cases heq
    simp only [h, Option.getD_some, hhigh, Bool.false_and, Bool.false_eq_true, if_false, hunit]
  · rename_i heq
    cases heq
    rw [h, Option.getD_some, hunit]
  · rename_i hne heq
    cases heq
    exact absurd rfl (hne a b c d rest rfl)
  · rename_i hne heq
    cases heq
    exact absurd rfl (hne _ _ rfl)
  · rename_i heq
    cases heq

theorem decodeLiteral_escape {c : Char} (hc : c ≠ 'u') (rest : List Char) :
    decodeLiteral ('\\' :: c :: rest) = escapeValue c :: decodeLiteral rest := by
  rw [decodeLiteral.eq_def]
  split
  · rename_i heq
    cases heq
    exact absurd rfl hc
  · rename_i heq
    cases heq
    exact absurd rfl hc
  · rename_i heq
    cases heq
    rfl
  · rename_i hne heq
    cases heq
    exact absurd rfl (hne _ _ rfl)
  · rename_i heq
    cases heq

theorem decodeLiteral_plain {c : Char} (hc : c ≠ '\\') (rest : List Char) :
    decodeLiteral (c :: rest) = c :: decodeLiteral rest := by
  rw [decodeLiteral.eq_def]
  split
  · rename_i heq
    cases heq
    exact absurd rfl hc
  · rename_i heq
    cases heq
    exact absurd rfl hc
  · rename_i heq
    cases heq
    exact absurd rfl hc
  · rename_i heq
    cases heq
    rfl
  · rename_i heq
    cases heq

theorem hex4?_hex_of_isHidden {c : Char} (h : isHidden c) :
    ∃ a b d e, hex 4 c.toNat = [a, b, d, e] ∧ hex4? a b d e = some c.toNat ∧ c.toNat < 0xD800 := by
  refine ⟨_, _, _, _, rfl, ?_⟩
  simp only [isHidden, isMarkup, Bool.or_eq_true, decide_eq_true_eq] at h
  rcases h with h | (((rfl | rfl) | rfl) | rfl) | rfl
  · generalize c.toNat = n at h
    interval_cases n <;> decide
  all_goals decide

theorem decodeLiteral_escapedChar (c : Char) (rest : List Char) :
    decodeLiteral (escapedChar c ++ rest) = c :: decodeLiteral rest := by
  unfold escapedChar
  split
  · rename_i h
    rcases Bool.or_eq_true_iff.1 h with h | h <;> cases of_decide_eq_true h
    · exact decodeLiteral_escape (by decide) rest
    · exact decodeLiteral_escape (by decide) rest
  split
  · rename_i h
    subst h
    exact decodeLiteral_escape (by decide) rest
  split
  · rename_i h
    subst h
    exact decodeLiteral_escape (by decide) rest
  split
  · rename_i h
    subst h
    exact decodeLiteral_escape (by decide) rest
  split
  · rename_i h
    obtain ⟨a, b, d, e, hhex, hvalue, hrange⟩ := hex4?_hex_of_isHidden h
    rw [hhex]
    refine (decodeLiteral_unit hvalue hrange rest).trans ?_
    rw [Char.ofNat_toNat]
  · rename_i h _ _ _ _
    exact decodeLiteral_plain (fun hc => h (by simp [hc])) rest

/-- A quoted text is read back unchanged. -/
@[simp] theorem unquote_quoted (s : String) : unquote (quoted s) = s := by
  have hinside (cs : List Char) : decodeLiteral (cs.flatMap escapedChar) = cs := by
    induction cs with
    | nil => rw [List.flatMap_nil, decodeLiteral]
    | cons c cs ih => rw [List.flatMap_cons, decodeLiteral_escapedChar, ih]
  simp [unquote, quoted, hinside]

end PayloadGen.Json
