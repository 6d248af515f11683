import PayloadGen.Proofs.Format.GoNames

/-!
# Pascal case keeps texts whose words begin with ASCII characters

Names are put in Pascal case word by word, and of each word the first byte goes to upper case. In a
word that begins with an ASCII character that byte is the character. In any other word it is only
the beginning of a character: the replacement character takes its place, and what follows are bytes
that continue nothing. So the result is a text exactly if every word begins with an ASCII character
or, in Go names, is an acronym; and if it is one, it has the characters of the name without the
separators, in order and up to case.
-/

namespace PayloadGen

open Text

namespace Name

/-! ## Words -/

/-- The first character of the word, if it has one, is an ASCII character. -/
def BeginsAscii (w : List Char) : Prop :=
  ∀ c ∈ w.head?, c.toNat < 0x80

instance : DecidablePred BeginsAscii := fun w =>
  decidable_of_iff ((w.head?.all (·.toNat < 0x80)) = true)
    (by simp [BeginsAscii, Option.all_eq_true])

/-- A good word is spelled with its letters up to case, and any other with the replacement character
before a byte that continues nothing. -/
def SpellsExactly (spell : List Char → Bytes) (good : List Char → Prop) : Prop :=
  ∀ w, good w ∧ (∃ v, spell w = utf8 v ∧ v.toList.map lower = w.map lower) ∨
    ¬ good w ∧ ∃ b rest, isContinuation b = true ∧
    spell w = utf8 (String.ofList [replacement]) ++ b :: rest

theorem spellsExactly_capitalized : SpellsExactly capitalized BeginsAscii := by
  intro w
  by_cases h : BeginsAscii w
  · exact .inl ⟨h, exists_capitalized h⟩
  refine .inr ⟨h, ?_⟩
  obtain _ | ⟨c, r⟩ := w
  · exact absurd (by simp [BeginsAscii]) h
  · have hc : ¬ c.toNat < 0x80 := by simpa [BeginsAscii] using h
    obtain ⟨a, b, rest, hbytes, hb⟩ := exists_utf8EncodeChar_of_not_ascii hc
    refine ⟨b, rest ++ r.flatMap String.utf8EncodeChar, hb, ?_⟩
    rw [capitalized, if_neg hc, utf8_eq_flatMap (String.ofList (c :: r)), String.toList_ofList,
      List.flatMap_cons, hbytes]
    rfl

theorem capitalizedBytes_utf8 (w : List Char) :
    capitalizedBytes (utf8 (String.ofList w)) = capitalized w := by
  obtain _ | ⟨c, r⟩ := w
  · rw [String.ofList_nil, utf8_empty, capitalizedBytes, capitalized]
  rw [capitalized, utf8_eq_flatMap (String.ofList (c :: r)), String.toList_ofList,
    List.flatMap_cons]
  by_cases hc : c.toNat < 0x80
  · have hb : UInt8.ofNat c.toNat < 0x80 := by
      rw [UInt8.lt_iff_toNat_lt, toNat_byte (by omega)]
      exact hc
    rw [utf8EncodeChar_of_ascii hc, List.singleton_append, capitalizedBytes, if_pos hb, if_pos hc,
      toNat_byte (by omega), Char.ofNat_toNat, utf8_eq_flatMap, utf8_eq_flatMap]
    simp
  · obtain ⟨a, b, rest, hbytes, -⟩ := exists_utf8EncodeChar_of_not_ascii hc
    have ha : ¬ a < 0x80 := fun hlt => hc <| by
      rw [← toNat_eq_of_mem_utf8EncodeChar (hbytes ▸ List.mem_cons_self) hlt]
      exact hlt
    rw [hbytes, List.cons_append, capitalizedBytes, if_neg ha, if_neg hc]
    rfl

/-- Texts and bytes are put in Pascal case alike. -/
theorem pascalBytes_utf8 (s : String) : pascalBytes (utf8 s) = pascal s := by
  rw [pascalBytes, decode_utf8, runs_map, List.flatMap_map, pascal]
  refine List.flatMap_congr fun w _ => ?_
  rw [← capitalizedBytes_utf8, utf8_eq_flatMap, String.toList_ofList, List.flatMap_map]
  rfl

/-- If words are spelled as a text, all of them are good, and the text has their letters up to
case. -/
theorem SpellsExactly.good_of_flatMap_eq {spell : List Char → Bytes} {good : List Char → Prop}
    (hspell : SpellsExactly spell good) {words : List (List Char)} {t : String}
    (h : words.flatMap spell = utf8 t) :
    (∀ w ∈ words, good w) ∧ t.toList.map lower = words.flatten.map lower := by
  induction words generalizing t with
  | nil =>
    have ht : t = "" := (utf8_inj.1 (utf8_empty.trans h)).symm
    simp [ht]
  | cons w words ih =>
    rw [List.flatMap_cons] at h
    obtain ⟨hgood, v, hv, hletters⟩ | ⟨-, b, rest, hb, hw⟩ := hspell w
    · rw [hv] at h
      obtain ⟨u, rfl, hu⟩ := exists_utf8_of_append h
      obtain ⟨hgoods, hlettersRest⟩ := ih hu
      refine ⟨List.forall_mem_cons.2 ⟨hgood, hgoods⟩, ?_⟩
      rw [String.toList_append, List.map_append, hletters, hlettersRest, List.flatten_cons,
        List.map_append]
    · -- after the replacement character no character begins
      rw [hw, List.append_assoc] at h
      obtain ⟨u, -, hu⟩ := exists_utf8_of_append h
      exact absurd hu.symm (utf8_ne_cons_of_isContinuation hb _ u)

theorem SpellsExactly.exists_flatMap_eq {spell : List Char → Bytes} {good : List Char → Prop}
    (hspell : SpellsExactly spell good) {words : List (List Char)} (h : ∀ w ∈ words, good w) :
    ∃ t, words.flatMap spell = utf8 t := by
  induction words with
  | nil => exact ⟨"", utf8_empty.symm⟩
  | cons w words ih =>
    obtain ⟨hgood, hgoods⟩ := List.forall_mem_cons.1 h
    obtain ⟨t, ht⟩ := ih hgoods
    obtain ⟨-, v, hv, -⟩ | ⟨hbad, -⟩ := hspell w
    · exact ⟨v ++ t, by rw [List.flatMap_cons, hv, ht, utf8_append]⟩
    · exact absurd hgood hbad

/-- Spelled words are a text exactly if all of them are good, and then they keep their letters up to
case. -/
theorem SpellsExactly.runs_iff {spell : List Char → Bytes} {good : List Char → Prop}
    (hspell : SpellsExactly spell good) (sep : Char → Bool) (s : String) :
    ((∃ t, (runs sep s.toList).flatMap spell = utf8 t) ↔ ∀ w ∈ runs sep s.toList, good w) ∧
    ∀ t, (runs sep s.toList).flatMap spell = utf8 t → t.toList.map lower = folded sep s := by
  refine ⟨⟨?_, hspell.exists_flatMap_eq⟩, fun t ht => ?_⟩
  · rintro ⟨t, ht⟩
    exact (hspell.good_of_flatMap_eq ht).1
  · rw [folded, ← flatten_runs]
    exact (hspell.good_of_flatMap_eq ht).2

end Name

open Name

namespace Format

/-- A word that is kept in a Go name. -/
def Go.IsExportable (w : List Char) : Prop :=
  BeginsAscii w ∨ Go.acronyms.contains (String.ofList (w.map lower)) = true

instance : DecidablePred Go.IsExportable := fun w =>
  inferInstanceAs
    (Decidable (BeginsAscii w ∨ Go.acronyms.contains (String.ofList (w.map lower)) = true))

theorem Go.spellsExactly_exportedWord : SpellsExactly Go.exportedWord Go.IsExportable := by
  intro w
  by_cases hacronym : Go.acronyms.contains (String.ofList (w.map lower)) = true
  · exact .inl ⟨.inr hacronym, Go.exists_exportedWord_of_acronym hacronym⟩
  · have hgood : Go.IsExportable w ↔ BeginsAscii w := or_iff_left hacronym
    rw [Go.exportedWord, if_neg hacronym, hgood]
    exact spellsExactly_capitalized w

/-- **Pascal case keeps texts whose words begin with ASCII characters, and no others.** A name in
Pascal case is a text exactly if each of its words begins with an ASCII character, and a Go name
exactly if each of its words does so or is an acronym. If they are texts, they have the characters
of the name other than the separators, in order and up to case. Templates, which work with bytes,
have the same Pascal case. -/
theorem pascal_case_well_formed (s : String) :
    pascalBytes (utf8 s) = pascal s ∧
    ((∃ t, pascal s = utf8 t) ↔ ∀ w ∈ runs isPascalSeparator s.toList, BeginsAscii w) ∧
    (∀ t, pascal s = utf8 t → t.toList.map lower = folded isPascalSeparator s) ∧
    ((∃ t, Go.exportedBytes s = utf8 t) ↔ ∀ w ∈ runs Go.isSeparator s.toList, Go.IsExportable w) ∧
    ∀ t, Go.exportedBytes s = utf8 t → t.toList.map lower = folded Go.isSeparator s := by
  obtain ⟨hpascal, hletters⟩ := spellsExactly_capitalized.runs_iff isPascalSeparator s
  obtain ⟨hexported, hlettersGo⟩ := Go.spellsExactly_exportedWord.runs_iff Go.isSeparator s
  exact ⟨pascalBytes_utf8 s, hpascal, hletters, hexported, hlettersGo⟩

theorem pascal_case_well_formed_lampTea :
    (∃ t, pascal "lamp/thé" = utf8 t ∧ t.toList.map lower = "lampthé".toList) ∧
    ∃ t, Go.exportedBytes "İd-thé" = utf8 t ∧ t.toList.map lower = "idthé".toList := by
  have hwords : (∀ w ∈ runs isPascalSeparator "lamp/thé".toList, BeginsAscii w) ∧
      ∀ w ∈ runs Go.isSeparator "İd-thé".toList, Go.IsExportable w := by decide +kernel
  have hfolded : folded isPascalSeparator "lamp/thé" = "lampthé".toList := by decide +kernel
  have hfoldedGo : folded Go.isSeparator "İd-thé" = "idthé".toList := by decide +kernel
  obtain ⟨-, hpascal, hletters, -, -⟩ := pascal_case_well_formed "lamp/thé"
  obtain ⟨-, -, -, hexported, hlettersGo⟩ := pascal_case_well_formed "İd-thé"
  obtain ⟨t, ht⟩ := hpascal.2 hwords.1
  obtain ⟨t', ht'⟩ := hexported.2 hwords.2
  exact ⟨⟨t, ht, (hletters t ht).trans hfolded⟩, t', ht', (hlettersGo t' ht').trans hfoldedGo⟩

/-- A word whose first character has two bytes. The second byte is left behind. -/
theorem pascal_case_not_well_formed :
    pascal "élan" = [0xEF, 0xBF, 0xBD, 0xA9, 0x6C, 0x61, 0x6E] ∧
      Go.exportedBytes "élan" = pascal "élan" ∧
    ¬ ∃ t, pascal "élan" = utf8 t := by
  have hbytes : pascal "élan" = [0xEF, 0xBF, 0xBD, 0xA9, 0x6C, 0x61, 0x6E] ∧
      Go.exportedBytes "élan" = pascal "élan" ∧
      "élan".toList ∈ runs isPascalSeparator "élan".toList := by
    decide +kernel
  refine ⟨hbytes.1, hbytes.2.1, fun htext => ?_⟩
  have hbegins :=
    (spellsExactly_capitalized.runs_iff isPascalSeparator "élan").1.1 htext _ hbytes.2.2
  exact absurd (hbegins 'é' (by decide +kernel)) (by decide)

end Format

end PayloadGen
