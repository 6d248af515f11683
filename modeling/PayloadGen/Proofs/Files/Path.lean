import Mathlib.Data.String.Basic
import PayloadGen.Files.Path
import PayloadGen.Proofs.Text.Pieces

/-!
# Paths below a folder

`Path.under folder p` is the path `p` as seen from above the folder. Going from a file to another
one along a relative path does not depend on what is above, as long as the way does not lead out of
the folder (`Path.join_dir_under`). The reason is that `Path.step` only looks at the parts it takes
back (`Path.foldl_step_append`).
-/

namespace PayloadGen

open Text

/-! ## Parts -/

namespace Path

theorem parts_ne_nil (p : String) : parts p ≠ [] := by
  simp [parts]

theorem parts_of_not_mem {w : String} (h : '/' ∉ w.toList) : parts w = [w] := by
  simp [parts, List.splitOn_eq_singleton h]

/-- Parts put together are the parts of the path. -/
theorem parts_intercalate {ws : List String} (hws : ws ≠ []) (h : ∀ w ∈ ws, '/' ∉ w.toList) :
    parts ("/".intercalate ws) = ws := by
  have hpieces : List.splitOn '/' ("/".intercalate ws).toList = ws.map String.toList := by
    rw [String.toList_intercalate]
    exact List.splitOn_intercalate _ (by simpa using h) (by simpa using hws)
  rw [parts, hpieces, List.map_map]
  simp [Function.comp_def]

/-- The path of a file below some root, other than the root itself. -/
def Proper (p : String) : Prop :=
  ∀ w ∈ parts p, IsName w

theorem proper_iff {p : String} : Proper p ↔ isInner p ∧ p ≠ "." := by
  have hdot : ¬ Proper "." := fun h => (h "." (by decide)).2.1 rfl
  constructor
  · intro h
    refine ⟨?_, fun hp => hdot (hp ▸ h)⟩
    simp only [isInner, Bool.or_eq_true, List.all_eq_true]
    exact .inr fun w hw => by simpa [IsName, and_assoc] using h w hw
  · rintro ⟨hinner, hne⟩ w hw
    have hall := (Bool.or_eq_true_iff.1 hinner).resolve_left (by simpa using hne)
    simpa [IsName, and_assoc] using List.all_eq_true.1 hall w hw

/-! ## Shortest paths -/

theorem step_of_isName {w : String} (h : IsName w) (absolute : Bool) (done : List String) :
    step absolute done w = w :: done := by
  simp [step, h.1, h.2.1, h.2.2]

theorem foldl_step_of_isName {ws : List String} (h : ∀ w ∈ ws, IsName w) (absolute : Bool)
    (done : List String) : ws.foldl (step absolute) done = ws.reverse ++ done := by
  induction ws generalizing done with
  | nil => rfl
  | cons w ws ih =>
    rw [List.foldl_cons, step_of_isName (h w List.mem_cons_self),
      ih fun x hx => h x (List.mem_cons_of_mem _ hx)]
    simp

theorem step_skip {w : String} (h : w = "" ∨ w = ".") (absolute : Bool) (done : List String) :
    step absolute done w = done := by
  rcases h with rfl | rfl <;> simp [step]

theorem step_up_of_ne {x : String} (hx : x ≠ "..") (absolute : Bool) (done : List String) :
    step absolute (x :: done) ".." = done := by
  simp [step]

/-- The parts of a path are skipped, lead up or lead down. -/
theorem part_cases (w : String) : (w = "" ∨ w = ".") ∨ w = ".." ∨ IsName w := by
  by_cases hskip : w = "" ∨ w = "."
  · exact .inl hskip
  · obtain ⟨hempty, hdot⟩ := not_or.1 hskip
    by_cases hup : w = ".."
    · exact .inr (.inl hup)
    · exact .inr (.inr ⟨hempty, hdot, hup⟩)

/-- A part `..` that nothing takes back stays. -/
theorem mem_step_of_mem {done : List String} (w : String) (h : ".." ∈ done) :
    ".." ∈ step false done w := by
  rcases part_cases w with hskip | rfl | hname
  · rwa [step_skip hskip]
  · cases done with
    | nil => cases h
    | cons x r =>
      by_cases hx : x = ".."
      · subst hx
        simp [step]
      · rw [step_up_of_ne hx]
        exact (List.mem_cons.1 h).resolve_left (Ne.symm hx)
  · rw [step_of_isName hname]
    exact List.mem_cons_of_mem _ h

theorem mem_foldl_step_of_mem {done : List String} (ws : List String) (h : ".." ∈ done) :
    ".." ∈ ws.foldl (step false) done := by
  induction ws generalizing done with
  | nil => exact h
  | cons w ws ih => exact ih (mem_step_of_mem w h)

theorem step_append {done : List String} (above : List String) {w : String}
    (h : ".." ∉ step false done w) : step false (done ++ above) w = step false done w ++ above := by
  rcases part_cases w with hskip | rfl | hname
  · rw [step_skip hskip, step_skip hskip]
  · cases done with
    | nil => simp [step] at h
    | cons x r =>
      have hx : x ≠ ".." := by
        rintro rfl
        exact h (mem_step_of_mem _ List.mem_cons_self)
      rw [List.cons_append, step_up_of_ne hx, step_up_of_ne hx]
  · rw [step_of_isName hname, step_of_isName hname, List.cons_append]

/-- What lies further up does not matter to a way that does not lead there. -/
theorem foldl_step_append {done : List String} (above ws : List String)
    (h : ".." ∉ ws.foldl (step false) done) :
    ws.foldl (step false) (done ++ above) = ws.foldl (step false) done ++ above := by
  induction ws generalizing done with
  | nil => rfl
  | cons w ws ih =>
    have hstep : ".." ∉ step false done w := fun hmem => h (mem_foldl_step_of_mem ws hmem)
    rw [List.foldl_cons, step_append above hstep, ih h]
    rfl

/-- A step adds its own part at most, and no empty one. -/
theorem mem_of_mem_step {absolute : Bool} {done : List String} {x w : String}
    (h : w ∈ step absolute done x) : w ∈ done ∨ w = x ∧ w ≠ "" := by
  rcases part_cases x with hskip | rfl | hname
  · rw [step_skip hskip] at h
    exact .inl h
  · cases done with
    | nil =>
      have hw : w = ".." := by
        cases absolute with
        | false => simpa [step] using h
        | true => simp [step] at h
      exact .inr ⟨hw, hw ▸ by decide⟩
    | cons y r =>
      by_cases hy : y = ".."
      · subst hy
        exact .inl (by simpa [step] using h)
      · rw [step_up_of_ne hy] at h
        exact .inl (List.mem_cons_of_mem _ h)
  · rw [step_of_isName hname] at h
    rcases List.mem_cons.1 h with rfl | hdone
    · exact .inr ⟨rfl, hname.1⟩
    · exact .inl hdone

/-- Every part of a shortest path is a part of the path, and none is empty. -/
theorem mem_of_mem_foldl_step {absolute : Bool} {done ws : List String} {w : String}
    (h : w ∈ ws.foldl (step absolute) done) :
    w ∈ done ∨ w ∈ ws ∧ w ≠ "" := by
  induction ws generalizing done with
  | nil => exact .inl h
  | cons x ws ih =>
    rcases ih h with hstep | ⟨hws, hw⟩
    · rcases mem_of_mem_step hstep with hdone | ⟨rfl, hw⟩
      · exact .inl hdone
      · exact .inr ⟨List.mem_cons_self, hw⟩
    · exact .inr ⟨List.mem_cons_of_mem _ hws, hw⟩

/-- The path that leads along some parts. -/
def ofParts (ws : List String) : String :=
  if ws = [] then "." else "/".intercalate ws

theorem parts_ofParts {ws : List String} (hws : ws ≠ []) (h : ∀ w ∈ ws, '/' ∉ w.toList) :
    parts (ofParts ws) = ws := by
  rw [ofParts, if_neg hws, parts_intercalate hws h]

theorem foldl_step_parts_ofParts {ws : List String} (h : ∀ w ∈ ws, IsName w)
    (hslash : ∀ w ∈ ws, '/' ∉ w.toList) :
    (parts (ofParts ws)).foldl (step false) [] = ws.reverse := by
  by_cases hws : ws = []
  · subst hws
    decide
  · rw [parts_ofParts hws hslash, foldl_step_of_isName h, List.append_nil]

/-- A path from the root has an empty first part and others. -/
theorem parts_of_isAbsolute {p : String} (h : isAbsolute p = true) :
    ∃ q, parts p = "" :: parts q := by
  obtain ⟨r, hr⟩ : ∃ r, p.toList = '/' :: r := by
    cases hp : p.toList with
    | nil => simp [isAbsolute, hp] at h
    | cons c r => exact ⟨r, by simpa [isAbsolute, hp] using h⟩
  exact ⟨String.ofList r, by simp [parts, hr]⟩

/-- A relative path in its shortest form. -/
theorem clean_of_relative {p : String} (h : isAbsolute p = false) :
    clean p = ofParts ((parts p).foldl (step false) []).reverse := by
  have hclean : cleanParts p = ((parts p).foldl (step false) []).reverse := by rw [cleanParts, h]
  have hmem : ∀ w ∈ cleanParts p, w ∈ parts p ∧ w ≠ "" := by
    intro w hw
    rw [hclean, List.mem_reverse] at hw
    exact (mem_of_mem_foldl_step hw).resolve_left List.not_mem_nil
  have hbody : "/".intercalate (cleanParts p) = "" ↔ cleanParts p = [] := by
    refine ⟨fun hempty => ?_, fun hnil => by rw [hnil, String.intercalate_nil]⟩
    by_contra hne
    have hparts := parts_intercalate hne fun w hw => not_mem_of_mem_parts (hmem w hw).1
    rw [hempty] at hparts
    exact (hmem "" (hparts ▸ by decide)).2 rfl
  rw [← hclean, clean, ofParts, h]
  simp only [Bool.false_eq_true, if_false, hbody]

/-- A path is relative if its first part is a name, or its only one. -/
theorem isAbsolute_eq_false {p w : String} {ws : List String} (hparts : parts p = w :: ws)
    (h : w ≠ "" ∨ ws = []) : isAbsolute p = false := by
  by_contra habsolute
  obtain ⟨q, hq⟩ := parts_of_isAbsolute (Bool.eq_true_of_not_eq_false habsolute)
  obtain ⟨rfl, rfl⟩ := List.cons.inj (hparts.symm.trans hq)
  rcases h with h | h
  · exact h rfl
  · exact parts_ne_nil q h

/-- The folder of a file has all its parts but the last. -/
theorem dir_of_proper {p : String} (h : Proper p) : dir p = ofParts (parts p).dropLast := by
  -- The text in front of the last part ends with a slash, so it has an empty part at its end.
  have hparts :
      parts (String.ofList (p.toList.take (p.toList.length - (afterLast '/' p.toList).length))) =
      (parts p).dropLast ++ [""] := by
    simp [parts, splitOn_take_afterLast, List.map_dropLast]
  have hnames : ∀ w ∈ (parts p).dropLast, IsName w := fun w hw => h w (List.dropLast_subset _ hw)
  rw [dir, clean_of_relative, hparts, List.foldl_append, foldl_step_of_isName hnames]
  · simp [step]
  · cases hdrop : (parts p).dropLast with
    | nil => exact isAbsolute_eq_false (hparts.trans (by rw [hdrop]; rfl)) (.inr rfl)
    | cons w ws =>
      exact isAbsolute_eq_false (hparts.trans (by rw [hdrop]; rfl))
        (.inl (hnames w (hdrop ▸ List.mem_cons_self)).1)

/-- Where a path leads from a file. -/
theorem join_dir {file p : String} (hfile : Proper file) (hp : p ≠ "") :
    join [dir file, p] =
      ofParts ((parts p).foldl (step false) (parts file).dropLast.reverse).reverse := by
  have hnames : ∀ w ∈ (parts file).dropLast, IsName w :=
    fun w hw => hfile w (List.dropLast_subset _ hw)
  have hslash : ∀ w ∈ (parts file).dropLast, '/' ∉ w.toList :=
    fun w hw => not_mem_of_mem_parts (List.dropLast_subset _ hw)
  obtain ⟨w, ws, hfolder, hw⟩ : ∃ w ws, parts (dir file) = w :: ws ∧ w ≠ "" := by
    rw [dir_of_proper hfile]
    cases hdrop : (parts file).dropLast with
    | nil => exact ⟨".", [], by decide, by decide⟩
    | cons w ws =>
      rw [hdrop] at hslash hnames
      exact ⟨w, ws, parts_ofParts (List.cons_ne_nil w ws) hslash, (hnames w List.mem_cons_self).1⟩
  have hdir : dir file ≠ "" := by
    intro hempty
    rw [hempty] at hfolder
    exact hw (List.cons.inj hfolder).1.symm
  have hjoin : join [dir file, p] = clean (dir file ++ "/" ++ p) := by
    simp [join, hdir, hp, String.intercalate_cons_cons]
  have hrelative : isAbsolute (dir file ++ "/" ++ p) = false :=
    isAbsolute_eq_false ((parts_append_slash _ _).trans (by rw [hfolder]; rfl)) (.inl hw)
  rw [hjoin, clean_of_relative hrelative, parts_append_slash, List.foldl_append,
    dir_of_proper hfile, foldl_step_parts_ofParts hnames hslash]

/-! ## Below a folder -/

/-- The path as seen from above a folder that it starts in. -/
def under (folder p : String) : String :=
  folder ++ "/" ++ p

@[simp] theorem parts_under (folder p : String) :
    parts (under folder p) = parts folder ++ parts p :=
  parts_append_slash folder p

theorem proper_under {folder p : String} : Proper (under folder p) ↔ Proper folder ∧ Proper p := by
  simp [Proper, or_imp, forall_and]

/-- Only proper paths are below a folder, and only of a folder that has one. -/
theorem isInner_under {folder p : String} :
    isInner (under folder p) = true ↔ Proper folder ∧ Proper p := by
  have hdot : under folder p ≠ "." := by
    intro hdot
    have hlength := congrArg (fun q => (parts q).length) hdot
    have hfolder := List.length_pos_iff.2 (parts_ne_nil folder)
    have hp := List.length_pos_iff.2 (parts_ne_nil p)
    have hone : (parts ".").length = 1 := by decide
    simp only [parts_under, List.length_append] at hlength
    omega
  rw [← proper_under, proper_iff]
  exact (and_iff_left hdot).symm

theorem extension_under (folder p : String) : extension (under folder p) = extension p := by
  have hlast : afterLast '/' (under folder p).toList = afterLast '/' p.toList := by
    simpa [under] using afterLast_append_sep '/' folder.toList p.toList
  rw [extension, hlast, extension]

theorem strictMono_under (folder : String) : StrictMono (under folder) := by
  intro a b h
  rw [String.lt_iff_toList_lt] at h ⊢
  simp only [under, String.toList_append]
  exact List.append_left_lt h

/-- Where a path leads from a file below a folder, unless it leads out of the folder. -/
theorem join_dir_under {folder file p : String} (hfolder : Proper folder) (hfile : Proper file)
    (hp : p ≠ "") (htarget : Proper (join [dir file, p])) :
    join [dir (under folder file), p] = under folder (join [dir file, p]) := by
  have hdrop : (parts (under folder file)).dropLast = parts folder ++ (parts file).dropLast := by
    rw [parts_under, List.dropLast_append_of_ne_nil (parts_ne_nil file)]
  rw [join_dir (proper_under.2 ⟨hfolder, hfile⟩) hp, hdrop, List.reverse_append]
  rw [join_dir hfile hp] at htarget ⊢
  -- The names on the way from the root of the folder, the last one first.
  set way := (parts p).foldl (step false) (parts file).dropLast.reverse with hway
  have hne : way.reverse ≠ [] := by
    intro hnil
    rw [hnil] at htarget
    exact (htarget "." (by decide)).2.1 rfl
  have hslash : ∀ w ∈ way.reverse, '/' ∉ w.toList := by
    intro w hw
    rcases mem_of_mem_foldl_step (List.mem_reverse.1 hw) with hfile | ⟨hp, -⟩
    · exact not_mem_of_mem_parts (List.dropLast_subset _ (List.mem_reverse.1 hfile))
    · exact not_mem_of_mem_parts hp
  have hup : ".." ∉ way := by
    intro hmem
    refine (htarget ".." ?_).2.2 rfl
    rw [parts_ofParts hne hslash]
    exact List.mem_reverse.2 hmem
  rw [foldl_step_append _ _ hup, ← hway, List.reverse_append, List.reverse_reverse, ofParts,
    ofParts, if_neg hne, if_neg (by simp [parts_ne_nil]),
    String.intercalate_append_of_ne_nil (parts_ne_nil folder) hne, intercalate_parts, under]

end Path

end PayloadGen
