import Mathlib.Data.List.Basic
import Mathlib.Data.List.TakeWhile
import PayloadGen.Text.Basic

/-!
# Pieces of texts

What is between separators: `List.splitOn` cuts at every separator, and joined texts are cut as each
of them is (`splitOn_intercalate_eq_flatMap`); `runs` leaves out the pieces that are empty
(`runs_eq_filter_splitOn`).
-/

namespace PayloadGen.Text

/-! ## Pieces between single separators -/

/-- Joined texts are cut as each of them is. -/
theorem splitOn_intercalate_eq_flatMap {sep : Char} {ws : List (List Char)} (hws : ws ≠ []) :
    List.splitOn sep ([sep].intercalate ws) = ws.flatMap (List.splitOn sep) := by
  induction ws with
  | nil => exact absurd rfl hws
  | cons w ws ih =>
    cases ws with
    | nil => simp
    | cons v vs =>
      rw [List.intercalate_cons_cons, List.append_assoc, List.singleton_append,
        List.splitOn_append_cons_self, ih (List.cons_ne_nil v vs), ← List.flatMap_cons]

/-- A text without separators goes to the first piece of what follows it. -/
theorem splitOn_append_of_not_mem {sep : Char} {a s w : List Char} {ws : List (List Char)}
    (ha : sep ∉ a) (hs : List.splitOn sep s = w :: ws) :
    List.splitOn sep (a ++ s) = (a ++ w) :: ws := by
  induction a with
  | nil => exact hs
  | cons c a ih =>
    obtain ⟨hc, ha⟩ : c ≠ sep ∧ sep ∉ a := by simpa [eq_comm] using ha
    simp [List.splitOn_cons_eq_if_modifyHead, hc, ih ha]

/-- The first piece is empty if the text is, or if it begins with the separator. -/
theorem head?_splitOn_eq_nil_iff {sep : Char} {s : List Char} :
    (List.splitOn sep s).head? = some [] ↔ s = [] ∨ s.head? = some sep := by
  cases s with
  | nil => simp
  | cons c r =>
    by_cases hc : c = sep
    · simp [List.splitOn_cons_eq_if_modifyHead, hc]
    · obtain ⟨w, ws, -, hcr⟩ := splitOn_cons_of_ne hc r
      simp [hcr, hc]

/-- Another piece is empty if two separators stand side by side, or if the last character is one. -/
theorem nil_mem_tail_splitOn_iff {sep : Char} {s : List Char} :
    [] ∈ (List.splitOn sep s).tail ↔ [sep, sep] <:+: s ∨ s.getLast? = some sep := by
  induction s with
  | nil => simp
  | cons c r ih =>
    have hfirst := @head?_splitOn_eq_nil_iff sep r
    obtain ⟨w, ws, hr⟩ := List.exists_cons_of_ne_nil (List.splitOn_ne_nil sep r)
    simp only [hr, List.head?_cons, Option.some.injEq, List.tail_cons] at ih hfirst
    have hlast : (c :: r).getLast? = some sep ↔ r = [] ∧ c = sep ∨ r.getLast? = some sep := by
      cases r with
      | nil => simp
      | cons d r => simp [List.getLast?_cons_cons]
    have hdouble : [sep, sep] <:+: c :: r ↔ (c = sep ∧ r.head? = some sep) ∨ [sep, sep] <:+: r := by
      rw [List.infix_cons_iff]
      cases r with
      | nil => simp
      | cons d r => simp [eq_comm]
    have htail : [] ∈ (List.splitOn sep (c :: r)).tail ↔ c = sep ∧ w = [] ∨ [] ∈ ws := by
      by_cases hc : c = sep
      · simp [List.splitOn_cons_eq_if_modifyHead, hc, hr, eq_comm]
      · simp [List.splitOn_cons_eq_if_modifyHead, hc, hr]
    rw [htail, hlast, hdouble, ih, hfirst]
    grind

/-- No piece is empty if every separator stands between two characters that are none. -/
theorem nil_not_mem_splitOn_iff {sep : Char} {s : List Char} :
    [] ∉ List.splitOn sep s ↔ s ≠ [] ∧ s.head? ≠ some sep ∧ ¬ [sep, sep] <:+: s ∧
      s.getLast? ≠ some sep := by
  have hfirst := @head?_splitOn_eq_nil_iff sep s
  have htail := @nil_mem_tail_splitOn_iff sep s
  obtain ⟨w, ws, hs⟩ := List.exists_cons_of_ne_nil (List.splitOn_ne_nil sep s)
  simp only [hs, List.head?_cons, Option.some.injEq, List.tail_cons] at hfirst htail
  rw [hs, List.mem_cons, htail, eq_comm, hfirst]
  tauto

theorem exists_mem_splitOn_of_mem {sep c : Char} {s : List Char} (hc : c ∈ s) (hsep : c ≠ sep) :
    ∃ w ∈ List.splitOn sep s, c ∈ w := by
  induction s with
  | nil => cases hc
  | cons x r ih =>
    by_cases hx : x = sep
    · obtain ⟨w, hw, hcw⟩ := ih ((List.mem_cons.1 hc).resolve_left fun h => hsep (h.trans hx))
      exact ⟨w, by simp [List.splitOn_cons_eq_if_modifyHead, hx, hw], hcw⟩
    · obtain ⟨v, vs, hr, hxr⟩ := splitOn_cons_of_ne hx r
      rcases List.mem_cons.1 hc with rfl | hcr
      · exact ⟨c :: v, by simp [hxr], by simp⟩
      · obtain ⟨w, hw, hcw⟩ := ih hcr
        rw [hr] at hw
        rcases List.mem_cons.1 hw with rfl | hw
        · exact ⟨x :: w, by simp [hxr], by simp [hcw]⟩
        · exact ⟨w, by simp [hxr, hw], hcw⟩

theorem exists_join_of_mem {x : String} {xs : List String} (h : x ∈ xs) :
    ∃ before after, String.join xs = before ++ x ++ after := by
  obtain ⟨a, b, rfl⟩ := List.append_of_mem h
  exact ⟨String.join a, String.join b,
    by rw [String.join_append, String.join_cons, String.append_assoc]⟩

/-! ## The last piece -/

theorem afterLast_append_sep (sep : Char) (a b : List Char) :
    afterLast sep (a ++ sep :: b) = afterLast sep b := by
  have hstop : (b.reverse ++ sep :: a.reverse).takeWhile (· != sep) =
      b.reverse.takeWhile (· != sep) := by
    rw [List.takeWhile_append]
    split
    · rename_i hlen
      simp [(List.takeWhile_prefix _).eq_of_length hlen]
    · rfl
  simp [afterLast, hstop]

theorem afterLast_of_not_mem {sep : Char} {s : List Char} (h : sep ∉ s) : afterLast sep s = s := by
  have hall : s.reverse.takeWhile (· != sep) = s.reverse :=
    List.takeWhile_eq_self_iff.2 fun c hc => by
      have hc : c ≠ sep := fun hsep => h (hsep ▸ List.mem_reverse.1 hc)
      simpa using hc
  simp [afterLast, hall]

/-- A text without its last piece. The separator in front of that piece stays and makes an empty
piece. -/
theorem splitOn_take_afterLast (sep : Char) (s : List Char) :
    List.splitOn sep (s.take (s.length - (afterLast sep s).length)) =
      (List.splitOn sep s).dropLast ++ [[]] := by
  by_cases h : sep ∈ s
  · obtain ⟨b, a, hba, hb⟩ := List.eq_append_cons_of_mem (List.mem_reverse.2 h)
    obtain rfl : s = a.reverse ++ sep :: b.reverse := by simpa using congrArg List.reverse hba
    have hb : sep ∉ b.reverse := by simpa using hb
    have htake : (a.reverse ++ sep :: b.reverse).take
        ((a.reverse ++ sep :: b.reverse).length - b.reverse.length) = a.reverse ++ [sep] := by
      rw [List.append_cons a.reverse sep b.reverse, List.length_append, Nat.add_sub_cancel,
        List.take_left]
    rw [afterLast_append_sep, afterLast_of_not_mem hb, htake, List.splitOn_append_cons_self,
      List.splitOn_append_cons_self, List.splitOn_eq_singleton hb]
    simp
  · simp [afterLast_of_not_mem h, List.splitOn_eq_singleton h]

/-! ## Runs -/

/-- The runs between separators hold all characters that are none, in order. -/
theorem flatten_runs (sep : Char → Bool) (s : List Char) :
    (runs sep s).flatten = s.filter (!sep ·) := by
  fun_induction runs sep s with
  | case1 => rfl
  | case2 c h => simp [h]
  | case3 c h => simp [h]
  | case4 c d r h ih => simpa [h] using ih
  | case5 c d r h hd ih => simpa [h] using ih
  | case6 c d r h hd hnil ih =>
    rw [hnil] at ih
    rw [List.filter_cons_of_pos (by simp [h]), ← ih]
    rfl
  | case7 c d r h hd w ws hcons ih =>
    rw [hcons] at ih
    rw [List.filter_cons_of_pos (by simp [h]), ← ih]
    rfl

theorem nil_not_mem_runs (sep : Char → Bool) (s : List Char) : [] ∉ runs sep s := by
  fun_induction runs sep s with
  | case1 => simp
  | case2 c h => simp
  | case3 c h => simp
  | case4 c d r h ih => exact ih
  | case5 c d r h hd ih => simpa using ih
  | case6 c d r h hd hnil ih => simp
  | case7 c d r h hd w ws hcons ih =>
    rw [hcons] at ih
    simpa using fun hnil => ih (List.mem_cons_of_mem _ hnil)

theorem runs_eq_nil_iff {sep : Char → Bool} {s : List Char} :
    runs sep s = [] ↔ ∀ c ∈ s, sep c = true := by
  have hflatten := flatten_runs sep s
  constructor
  · intro h
    rw [h, List.flatten_nil, eq_comm, List.filter_eq_nil_iff] at hflatten
    simpa using hflatten
  · intro h
    rw [List.filter_eq_nil_iff.2 (by simpa using h), List.flatten_eq_nil_iff] at hflatten
    exact List.eq_nil_iff_forall_not_mem.2 fun w hw => nil_not_mem_runs sep s (hflatten w hw ▸ hw)

/-- No separator is in a run. -/
theorem sep_eq_false_of_mem_runs {sep : Char → Bool} {s w : List Char} (hw : w ∈ runs sep s)
    {c : Char} (hc : c ∈ w) : sep c = false := by
  have hmem : c ∈ (runs sep s).flatten := List.mem_flatten.2 ⟨w, hw, hc⟩
  rw [flatten_runs] at hmem
  simpa using (List.mem_filter.1 hmem).2

/-- The runs of what is put in the place of the characters one by one. -/
theorem runs_map {α β : Type} (f : α → β) (sep : β → Bool) (s : List α) :
    runs sep (s.map f) = (runs (fun x => sep (f x)) s).map (·.map f) := by
  fun_induction runs (fun x => sep (f x)) s with
  | case1 => rfl
  | case2 c h => simp [runs, h]
  | case3 c h => simp [runs, h]
  | case4 c d r h ih => simpa [runs, h] using ih
  | case5 c d r h hd ih => simpa [runs, h, hd] using ih
  | case6 c d r h hd hnil ih =>
    rw [hnil, List.map_cons] at ih
    simp [runs, h, hd, ih]
  | case7 c d r h hd w ws hcons ih =>
    rw [hcons, List.map_cons] at ih
    simp [runs, h, hd, ih]

/-- If one character separates, the runs are the pieces that are not empty. -/
theorem runs_eq_filter_splitOn {sep : Char → Bool} {c : Char} {s : List Char}
    (h : ∀ x ∈ s, sep x = true ↔ x = c) : runs sep s = (List.splitOn c s).filter (· ≠ []) := by
  have hsplit {x : Char} {r : List Char} (hx : x ≠ c) {w : List Char} {ws : List (List Char)}
      (hr : List.splitOn c r = w :: ws) : List.splitOn c (x :: r) = (x :: w) :: ws := by
        simp [List.splitOn_cons_eq_if_modifyHead, hx, hr]
  fun_induction runs sep s with
  | case1 => rfl
  | case2 x hx =>
    obtain rfl : x = c := (h x (by simp)).1 hx
    simp
  | case3 x hx =>
    have hx : x ≠ c := fun heq => hx ((h x (by simp)).2 heq)
    simp [List.splitOn_cons_eq_if_modifyHead, hx]
  | case4 x y r hx ih =>
    obtain rfl : x = c := (h x (by simp)).1 hx
    rw [ih fun z hz => h z (List.mem_cons_of_mem _ hz)]
    simp
  | case5 x y r hx hy ih =>
    have hx : x ≠ c := fun heq => hx ((h x (by simp)).2 heq)
    obtain rfl : y = c := (h y (by simp)).1 hy
    rw [ih fun z hz => h z (List.mem_cons_of_mem _ hz),
      hsplit hx (show List.splitOn y (y :: r) = [] :: List.splitOn y r by simp)]
    simp
  | case6 x y r hx hy hnil ih =>
    have hy : y ≠ c := fun heq => hy ((h y (by simp)).2 heq)
    obtain ⟨w, ws, -, hyr⟩ := splitOn_cons_of_ne hy r
    rw [ih fun z hz => h z (List.mem_cons_of_mem _ hz), hyr] at hnil
    simp at hnil
  | case7 x y r hx hy w ws hcons ih =>
    have hx : x ≠ c := fun heq => hx ((h x (by simp)).2 heq)
    have hy : y ≠ c := fun heq => hy ((h y (by simp)).2 heq)
    obtain ⟨v, vs, -, hyr⟩ := splitOn_cons_of_ne hy r
    rw [ih fun z hz => h z (List.mem_cons_of_mem _ hz), hyr] at hcons
    rw [List.filter_cons_of_pos (by simp)] at hcons
    obtain ⟨rfl, rfl⟩ := List.cons.inj hcons
    rw [hsplit hx hyr, List.filter_cons_of_pos (by simp)]

end PayloadGen.Text
