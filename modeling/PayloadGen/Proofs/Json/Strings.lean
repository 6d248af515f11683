import PayloadGen.Json.Writer
import PayloadGen.Proofs.Json.Quoted

/-!
# Arrays of strings are read back

A string that is written between quotes is read as it is written (`readValue?_quoted`), and so an
array of strings that is written without blanks is read as that array (`read?_compact_strings`).
-/

namespace PayloadGen.Json

variable (g : Grammar)

theorem readString?_escape {c : Char} (hu : c ≠ 'u') (hc : g.isEscape c) {s t rest : List Char}
    (h : readString? g s = some (t, rest)) :
    readString? g ('\\' :: c :: s) = some ('\\' :: c :: t, rest) := by
  rw [readString?.eq_def]
  split <;> grind

theorem readString?_plain {c : Char} (hquote : c ≠ '"') (hescape : c ≠ '\\') (hc : g.isPlain c)
    {s t rest : List Char} (h : readString? g s = some (t, rest)) :
    readString? g (c :: s) = some (c :: t, rest) := by
  rw [readString?.eq_def]
  split <;> simp_all

theorem readString?_escapedChar (c : Char) {s t rest : List Char}
    (h : readString? g s = some (t, rest)) :
    readString? g (escapedChar c ++ s) = some (escapedChar c ++ t, rest) := by
  unfold escapedChar
  split
  · rename_i hc
    rcases Bool.or_eq_true_iff.1 hc with hc | hc <;> cases of_decide_eq_true hc
    · exact readString?_escape g (by decide) (by cases g <;> decide) h
    · exact readString?_escape g (by decide) (by cases g <;> decide) h
  split
  · exact readString?_escape g (by decide) (by cases g <;> decide) h
  split
  · exact readString?_escape g (by decide) (by cases g <;> decide) h
  split
  · exact readString?_escape g (by decide) (by cases g <;> decide) h
  split
  · rename_i hc
    obtain ⟨a, b, d, e, hhex, hvalue, -⟩ := hex4?_hex_of_isHidden hc
    rw [hhex]
    simp [readString?, hvalue, h]
  · rename_i hescaped _ _ _ hhidden
    refine readString?_plain g (fun hc => hescaped (by simp [hc])) (fun hc =>
      hescaped (by simp [hc])) ?_ h
    have hc : 0x20 ≤ c.toNat := by
      simp only [isHidden, Bool.or_eq_true, decide_eq_true_eq, not_or] at hhidden
      omega
    cases g with
    | strict => exact decide_eq_true hc
    | loose => exact bne_iff_ne.2 (by omega)

/-- The inside of a quoted text is read as it is written. -/
theorem readString?_escaped (cs rest : List Char) :
    readString? g (cs.flatMap escapedChar ++ '"' :: rest) =
      some (cs.flatMap escapedChar, rest) := by
  induction cs with
  | nil => simp [readString?]
  | cons c cs ih =>
    rw [List.flatMap_cons, List.append_assoc]
    exact readString?_escapedChar g c ih

theorem readValue?_quoted (fuel : Nat) (s : String) (rest : List Char) :
    readValue? g (fuel + 1) (quoted s ++ rest) = some (ofString s, rest) := by
  have hquoted : quoted s ++ rest = '"' :: (s.toList.flatMap escapedChar ++ '"' :: rest) := by
    simp [quoted]
  rw [hquoted, readValue?, readString?_escaped]
  rfl

/-! ## Arrays -/

@[simp] theorem skip_quoted (s : String) (rest : List Char) :
    skip (quoted s ++ rest) = quoted s ++ rest := by
  simp [skip, quoted, isBlank]

theorem readItems?_last (fuel : Nat) (l : String) (rest : List Char) :
    readItems? g (fuel + 2) (quoted l ++ ']' :: rest) = some ([ofString l], rest) := by
  rw [readItems?, skip_quoted, readValue?_quoted]
  rfl

theorem readItems?_next (fuel : Nat) (l : String) (s : List Char) :
    readItems? g (fuel + 2) (quoted l ++ ',' :: s) =
      (readItems? g (fuel + 1) s).map fun (items, rest) => (ofString l :: items, rest) := by
  rw [readItems?, skip_quoted, readValue?_quoted]
  rfl

theorem compactItems_strings (l l' : String) (ls : List String) :
    compactItems ((l :: l' :: ls).map ofString) =
      quoted l ++ ',' :: compactItems ((l' :: ls).map ofString) := by
  rw [List.map_cons, List.map_cons, compactItems]
  · rfl
  · rintro ⟨⟩

/-- Strings with commas between them are read up to the closing bracket. -/
theorem readItems?_strings (l : String) (ls : List String) (rest : List Char) (fuel : Nat) :
    readItems? g (ls.length + fuel + 2) (compactItems ((l :: ls).map ofString) ++ ']' :: rest) =
      some ((l :: ls).map ofString, rest) := by
  induction ls generalizing l with
  | nil => exact readItems?_last g _ l rest
  | cons l' ls ih =>
    have htail := ih l'
    rw [compactItems_strings, List.append_assoc, List.cons_append, readItems?_next]
    rw [List.length_cons, show ls.length + 1 + fuel + 1 = ls.length + fuel + 2 by omega, htail]
    rfl

theorem length_le_length_compactItems (l : String) (ls : List String) :
    ls.length + 2 ≤ (compactItems ((l :: ls).map ofString)).length := by
  induction ls generalizing l with
  | nil => simp [compactItems, ofString, compact, quoted]
  | cons l' ls ih =>
    have htail := ih l'
    rw [compactItems_strings, List.length_append, List.length_cons, List.length_cons]
    omega

theorem readValue?_strings (l : String) (ls : List String) (rest : List Char) (fuel : Nat) :
    readValue? g (ls.length + fuel + 3)
      ('[' :: (compactItems ((l :: ls).map ofString) ++ ']' :: rest)) =
      some (.array ((l :: ls).map ofString), rest) := by
  have hitems := readItems?_strings g l ls rest fuel
  -- the text begins with a quote, hence with no blank and no closing bracket
  obtain ⟨s, hs⟩ : ∃ s, compactItems ((l :: ls).map ofString) ++ ']' :: rest = quoted l ++ s := by
    obtain _ | ⟨l', ls⟩ := ls
    · exact ⟨_, rfl⟩
    · exact ⟨_, by rw [compactItems_strings, List.append_assoc]⟩
  rw [hs] at hitems ⊢
  rw [readValue?, skip_quoted]
  exact congrArg (Option.map fun p => (Json.array p.1, p.2)) hitems

/-- An array of strings is read back. -/
theorem read?_compact_strings (ls : List String) :
    read? g (Json.array (ls.map ofString)).compact = some (.array (ls.map ofString)) := by
  obtain _ | ⟨l, ls⟩ := ls
  · rfl
  obtain ⟨fuel, hfuel⟩ := Nat.exists_eq_add_of_le (length_le_length_compactItems l ls)
  have hvalue := readValue?_strings g l ls [] (fuel + 2)
  have hcompact : (Json.array ((l :: ls).map ofString)).compact =
      '[' :: (compactItems ((l :: ls).map ofString) ++ [']']) := rfl
  have hlength : ('[' :: (compactItems ((l :: ls).map ofString) ++ [']'])).length + 1 =
      ls.length + (fuel + 2) + 3 := by
    rw [List.length_cons, List.length_append, hfuel, List.length_singleton]
    omega
  have hskip : skip ('[' :: (compactItems ((l :: ls).map ofString) ++ [']'])) =
      '[' :: (compactItems ((l :: ls).map ofString) ++ [']']) := rfl
  rw [hcompact, read?, hlength, hskip, hvalue]
  rfl

end PayloadGen.Json
