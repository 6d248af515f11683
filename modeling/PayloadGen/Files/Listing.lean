import PayloadGen.Files.Path
import PayloadGen.Text.Utf8

/-!
# What stands where

A `Listing` says what stands at the places below a root. It is sound if all names on the way to an
entry are names that files can have, and every entry stands in a folder (`Listing.Sound`). A listing
stays sound when something is put into a folder (`Sound.put`), when something goes with all that is
below it (`Sound.without`), and when it moves to another place (`Sound.moved`).
-/

namespace PayloadGen

open Text

/-- What stands at a place of a disk. -/
inductive DiskEntry where
  | file (content : Bytes)
  | folder

/-- A name that a file can have. -/
structure IsFileName (n : String) : Prop where
  name : Path.IsName n
  slash : '/' ∉ n.toList
  null : '\x00' ∉ n.toList
  short : n.utf8ByteSize ≤ 255

instance (n : String) : Decidable (IsFileName n) :=
  decidable_of_iff
    ((n ≠ "" ∧ n ≠ "." ∧ n ≠ "..") ∧ '/' ∉ n.toList ∧ '\x00' ∉ n.toList ∧ n.utf8ByteSize ≤ 255)
    ⟨fun h => ⟨h.1, h.2.1, h.2.2.1, h.2.2.2⟩, fun h => ⟨h.name, h.slash, h.null, h.short⟩⟩

/-- A place of a disk: the parts of the path from the root. -/
abbrev Place := List String

namespace Place

/-- Is one place the other, or below it? -/
def isWithin (p q : Place) : Bool :=
  q.isPrefixOf p

theorem isWithin_iff {p q : Place} : isWithin p q = true ↔ q <+: p := by
  rw [isWithin, List.isPrefixOf_iff_prefix]

theorem isWithin_eq_false {p q : Place} (h : ¬ q <+: p) : isWithin p q = false :=
  Bool.eq_false_iff.2 (mt isWithin_iff.1 h)

end Place

/-- What stands where below a root. -/
abbrev Listing := List (Place × DiskEntry)

namespace Listing

variable {es : Listing} {p q : Place}

/-- What stands at a place. The root is a folder and has no entry. -/
def entryAt? (es : Listing) : Place → Option DiskEntry
  | [] => some .folder
  | p => (es.find? (·.1 == p)).map (·.2)

/-- Is the place a folder? -/
def isFolder (es : Listing) (p : Place) : Bool :=
  match es.entryAt? p with
  | some .folder => true
  | _ => false

theorem isFolder_iff : es.isFolder p = true ↔ es.entryAt? p = some .folder := by
  unfold isFolder
  split
  · simp [*]
  · rename_i h
    simpa using h

theorem ne_nil_of_not_folder (h : es.entryAt? p ≠ some .folder) : p ≠ [] := by
  rintro rfl
  exact h rfl

theorem mem_of_isSome (hp : p ≠ []) (h : (es.entryAt? p).isSome) : p ∈ es.map (·.1) := by
  obtain ⟨a, r, rfl⟩ := List.exists_cons_of_ne_nil hp
  obtain ⟨e, he⟩ := Option.isSome_iff_exists.1 h
  obtain ⟨x, hx, -⟩ := Option.map_eq_some_iff.1 he
  have hplace : x.1 = a :: r := by simpa using List.find?_some hx
  exact List.mem_map.2 ⟨x, List.mem_of_find?_eq_some hx, hplace⟩

theorem isSome_of_mem (h : p ∈ es.map (·.1)) : (es.entryAt? p).isSome := by
  cases p with
  | nil => rfl
  | cons a r =>
    obtain ⟨e, he, hplace⟩ := List.mem_map.1 h
    simp only [entryAt?, Option.isSome_map, List.find?_isSome]
    exact ⟨e, he, beq_iff_eq.2 hplace⟩

/-! ## Sound listings -/

/-- Every entry has a name that files can have, and stands in a folder. -/
structure Sound (es : Listing) : Prop where
  isFileName : ∀ q, (es.entryAt? q).isSome → ∀ n ∈ q, IsFileName n
  parent : ∀ q n, (es.entryAt? (q ++ [n])).isSome → es.entryAt? q = some .folder

/-- That a listing is sound can be seen from its entries. -/
theorem sound_of_forall
    (h : ∀ x ∈ es, (∀ n ∈ x.1, IsFileName n) ∧ es.isFolder x.1.dropLast = true) : es.Sound := by
  have hplace : ∀ q, q ≠ [] → (es.entryAt? q).isSome →
      (∀ n ∈ q, IsFileName n) ∧ es.isFolder q.dropLast = true := by
    intro q hne hq
    obtain ⟨x, hx, rfl⟩ := List.mem_map.1 (mem_of_isSome hne hq)
    exact h x hx
  refine ⟨fun q hq n hn => ?_, fun q n hq => ?_⟩
  · exact (hplace q (List.ne_nil_of_mem hn) hq).1 n hn
  · have hfolder := (hplace (q ++ [n]) (by simp) hq).2
    rwa [List.dropLast_concat, isFolder_iff] at hfolder

/-- Has every entry a name that files can have, and does it stand in a folder? -/
def isSound (es : Listing) : Bool :=
  es.all fun x => x.1.all (fun n => decide (IsFileName n)) && es.isFolder x.1.dropLast

theorem sound_of_isSound (h : es.isSound = true) : es.Sound := by
  refine sound_of_forall fun x hx => ?_
  simpa using List.all_eq_true.1 h x hx

namespace Sound

/-- What something stands in, at whatever distance, is a folder. -/
theorem folder_of_append (h : es.Sound) {t : Place} (ht : t ≠ [])
    (hsome : (es.entryAt? (p ++ t)).isSome) : es.entryAt? p = some .folder := by
  induction t generalizing p with
  | nil => exact absurd rfl ht
  | cons n t ih =>
    rw [List.append_cons] at hsome
    by_cases hnil : t = []
    · exact h.parent p n (by simpa [hnil] using hsome)
    · exact h.parent p n (by simp [ih hnil hsome])

theorem folder_of_isPrefix (h : es.Sound) (hpq : p <+: q) (hq : es.entryAt? q = some .folder) :
    es.entryAt? p = some .folder := by
  obtain ⟨t, rfl⟩ := hpq
  by_cases ht : t = []
  · simpa [ht] using hq
  · exact h.folder_of_append ht (by simp [hq])

end Sound

/-! ## Something put at a place -/

/-- Something may be put at the place: that takes no folder away, and is in a folder. -/
structure Admits (es : Listing) (p : Place) : Prop where
  free : es.entryAt? p ≠ some .folder
  parent : es.entryAt? p.dropLast = some .folder
  isFileName : ∀ n ∈ p, IsFileName n

theorem admits_iff : es.Admits p ↔
    es.isFolder p = false ∧ es.isFolder p.dropLast = true ∧ ∀ n ∈ p, IsFileName n := by
  rw [isFolder_iff, Bool.eq_false_iff, Ne, isFolder_iff]
  exact ⟨fun h => ⟨h.free, h.parent, h.isFileName⟩, fun h => ⟨h.1, h.2.1, h.2.2⟩⟩

instance (es : Listing) (p : Place) : Decidable (es.Admits p) :=
  decidable_of_iff _ admits_iff.symm

/-- Something at a place, whatever was there before. -/
def put (es : Listing) (p : Place) (e : DiskEntry) : Listing :=
  if es.any (·.1 == p) then es.map fun x => if x.1 == p then (p, e) else x
  else es ++ [(p, e)]

theorem find?_replaced (p q : Place) (e : DiskEntry) (es : Listing) :
    ((es.map fun x => if x.1 == p then (p, e) else x).find? (·.1 == q)).map (·.2) =
      if q = p then (if es.any (·.1 == p) then some e else none)
      else (es.find? (·.1 == q)).map (·.2) := by
  induction es with
  | nil => simp
  | cons x xs ih =>
    simp only [List.map_cons, List.find?_cons, List.any_cons]
    grind

theorem entryAt?_put (hp : p ≠ []) (e : DiskEntry) (q : Place) :
    (es.put p e).entryAt? q = if q = p then some e else es.entryAt? q := by
  obtain _ | ⟨a, r⟩ := q
  · rw [if_neg hp.symm]
    rfl
  unfold put
  split
  · rename_i hany
    have hreplaced := find?_replaced p (a :: r) e es
    rwa [if_pos hany] at hreplaced
  · rename_i hany
    have hnone : es.find? (·.1 == p) = none := by
      simpa only [List.find?_eq_none, List.any_eq_true, not_exists, not_and] using hany
    simp only [entryAt?, List.find?_append]
    by_cases hq : a :: r = p
    · simp [hq, hnone]
    · have hpq : ¬p = a :: r := fun h => hq h.symm
      simp [hq, hpq]

theorem Sound.put (h : es.Sound) (hp : es.Admits p) (e : DiskEntry) : (es.put p e).Sound where
  isFileName q hq := by
    rw [entryAt?_put (ne_nil_of_not_folder hp.free)] at hq
    split at hq
    · rename_i hqp
      exact hqp ▸ hp.isFileName
    · exact h.isFileName q hq
  parent q n hq := by
    rw [entryAt?_put (ne_nil_of_not_folder hp.free)] at hq ⊢
    have hfolder : es.entryAt? q = some .folder := by
      split at hq
      · rename_i hqp
        have hparent := hp.parent
        rwa [← hqp, List.dropLast_concat] at hparent
      · exact h.parent q n hq
    have hqp : q ≠ p := by
      rintro rfl
      exact hp.free hfolder
    rw [if_neg hqp, hfolder]

/-! ## Something taken away -/

/-- The listing without what is at a place, and all below it. -/
def without (es : Listing) (p : Place) : Listing :=
  es.filter fun e => !Place.isWithin e.1 p

theorem entryAt?_without (hp : p ≠ []) (q : Place) :
    (es.without p).entryAt? q = if p <+: q then none else es.entryAt? q := by
  cases q with
  | nil => simp [entryAt?, hp]
  | cons b s =>
    have hsame : ∀ e : Place × DiskEntry, (!Place.isWithin e.1 p && e.1 == b :: s) =
        (!Place.isWithin (b :: s) p && e.1 == b :: s) := by
      intro e
      cases he : e.1 == b :: s with
      | false => simp
      | true => rw [eq_of_beq he]
    simp only [without, entryAt?, List.find?_filter, Bool.decide_and, Bool.decide_eq_true, hsame]
    by_cases hwithin : p <+: b :: s
    · simp [Place.isWithin_iff.2 hwithin, hwithin]
    · simp [Place.isWithin_eq_false hwithin, hwithin]

theorem Sound.without (h : es.Sound) (hp : p ≠ []) : (es.without p).Sound where
  isFileName q hq := by
    rw [entryAt?_without hp] at hq
    split at hq
    · cases hq
    · exact h.isFileName q hq
  parent q n hq := by
    rw [entryAt?_without hp] at hq ⊢
    split at hq
    · cases hq
    · rename_i hout
      rw [if_neg fun hin => hout (hin.trans (List.prefix_append _ _))]
      exact h.parent q n hq

/-! ## Something moved -/

/-- What stands at one place may be moved to another. A folder is not moved into itself. -/
structure AdmitsMove (es : Listing) (p q : Place) : Prop where
  target : es.Admits q
  source : (es.entryAt? p).isSome
  apart : es.entryAt? p = some .folder → ¬ p <+: q

theorem AdmitsMove.source_ne_nil (h : es.AdmitsMove p q) : p ≠ [] := by
  rintro rfl
  exact h.apart rfl List.nil_prefix

/-- The listing with all at a place, and below it, at another place instead. -/
def moved (es : Listing) (p q : Place) : Listing :=
  (es.filter fun e => !Place.isWithin e.1 q || Place.isWithin e.1 p).map fun e =>
    if Place.isWithin e.1 p then (q ++ e.1.drop p.length, e.2) else e

/-- Where an entry comes from that is found after a move. -/
theorem moved_beq (p q x : Place) (e : Place × DiskEntry) :
    ((!Place.isWithin e.1 q || Place.isWithin e.1 p) &&
        (if Place.isWithin e.1 p then (q ++ e.1.drop p.length, e.2) else e).1 == x) =
      if q <+: x then e.1 == p ++ x.drop q.length else !decide (p <+: x) && e.1 == x := by
  obtain ⟨y, content⟩ := e
  by_cases hp : p <+: y
  · obtain ⟨u, rfl⟩ := hp
    have hwithin : Place.isWithin (p ++ u) p = true :=
      Place.isWithin_iff.2 (List.prefix_append _ _)
    simp only [hwithin, if_true, Bool.or_true, Bool.true_and, List.drop_left]
    by_cases hq : q <+: x
    · obtain ⟨t, rfl⟩ := hq
      rw [Bool.eq_iff_iff]
      simp
    · have hne : (q ++ u == x) = false :=
        beq_false_of_ne fun h => hq (h ▸ List.prefix_append _ _)
      cases hx : p ++ u == x with
      | true => simp [hq, hne, eq_of_beq hx ▸ List.prefix_append p u]
      | false => simp [hq, hne]
  · have hwithin : Place.isWithin y p = false := Place.isWithin_eq_false hp
    have hne : ∀ t, (y == p ++ t) = false :=
      fun t => beq_false_of_ne fun h => hp (h ▸ List.prefix_append _ _)
    simp only [hwithin, Bool.or_false, Bool.false_eq_true, if_false, hne]
    cases hx : y == x with
    | false => simp
    | true =>
      obtain rfl := eq_of_beq hx
      by_cases hq : q <+: y
      · simp [hq, Place.isWithin_iff.2 hq]
      · simp [hq, hp, Place.isWithin_eq_false hq]

/-- What was below the old place is below the new one, where nothing else is left. -/
theorem entryAt?_moved (h : es.AdmitsMove p q) (x : Place) :
    (es.moved p q).entryAt? x =
      if q <+: x then es.entryAt? (p ++ x.drop q.length)
      else if p <+: x then none else es.entryAt? x := by
  have hp := h.source_ne_nil
  have hq := ne_nil_of_not_folder h.target.free
  cases x with
  | nil => simp [entryAt?, hp, hq]
  | cons b s =>
    have hnonempty : ∀ t, ∃ a r, p ++ t = a :: r := fun t =>
      List.exists_cons_of_ne_nil (List.append_ne_nil_of_left_ne_nil hp t)
    have hsnd : ∀ e : Place × DiskEntry,
        (if Place.isWithin e.1 p then (q ++ e.1.drop p.length, e.2) else e).2 = e.2 := by
      intro e
      split <;> rfl
    simp only [entryAt?, moved, List.find?_map, List.find?_filter, Function.comp_def,
      Bool.decide_and, Bool.decide_eq_true, moved_beq, Option.map_map, hsnd]
    by_cases hqx : q <+: b :: s
    · obtain ⟨a, r, har⟩ := hnonempty ((b :: s).drop q.length)
      simp only [hqx, if_true, har]
    · by_cases hpx : p <+: b :: s
      · simp [hqx, hpx]
      · simp only [hqx, hpx, if_false, decide_false, Bool.not_false, Bool.true_and]

theorem Sound.moved (h : es.Sound) (hmove : es.AdmitsMove p q) : (es.moved p q).Sound where
  isFileName x hx n hn := by
    rw [entryAt?_moved hmove] at hx
    split at hx
    · rename_i hqx
      obtain ⟨t, rfl⟩ := hqx
      rw [List.drop_left] at hx
      rcases List.mem_append.1 hn with hn | hn
      · exact hmove.target.isFileName n hn
      · exact h.isFileName _ hx n (List.mem_append_right _ hn)
    · split at hx
      · cases hx
      · exact h.isFileName x hx n hn
  parent x n hx := by
    rw [entryAt?_moved hmove] at hx
    by_cases hin : q <+: x ++ [n]
    · rcases List.prefix_concat_iff.1 hin with rfl | hqx
      · -- The new place itself: what it stands in is left alone.
        have hfolder : es.entryAt? x = some .folder := by simpa using hmove.target.parent
        have hqx : ¬ x ++ [n] <+: x := fun h => absurd h.length_le (by simp)
        have hpx : ¬ p <+: x := fun hpx =>
          hmove.apart (h.folder_of_isPrefix hpx hfolder) (hpx.trans (List.prefix_append _ _))
        rw [entryAt?_moved hmove, if_neg hqx, if_neg hpx, hfolder]
      · obtain ⟨t, rfl⟩ := hqx
        have hbelow : (es.entryAt? (p ++ t ++ [n])).isSome := by
          simpa [List.append_assoc, List.prefix_append] using hx
        rw [entryAt?_moved hmove, if_pos (List.prefix_append _ _), List.drop_left]
        exact h.parent _ _ hbelow
    · rw [if_neg hin] at hx
      split at hx
      · cases hx
      · rename_i hout
        rw [entryAt?_moved hmove, if_neg fun h => hin (h.trans (List.prefix_append _ _)),
          if_neg fun h => hout (h.trans (List.prefix_append _ _))]
        exact h.parent x n hx

/-! ## Nothing but one way down -/

/-- The folders on the way to a place, and the place itself. -/
def wayTo (p : Place) : Listing :=
  (List.range p.length).map fun i => (p.take (i + 1), .folder)

theorem entryAt?_wayTo {i : Nat} (h : i ≤ p.length) :
    (wayTo p).entryAt? (p.take i) = some .folder := by
  cases htake : p.take i with
  | nil => rfl
  | cons a r =>
    have hmem : p.take i ∈ (wayTo p).map (·.1) := by
      obtain _ | i := i
      · simp at htake
      · exact List.mem_map.2 ⟨_, List.mem_map.2 ⟨i, List.mem_range.2 h, rfl⟩, rfl⟩
    obtain ⟨e, he⟩ := Option.isSome_iff_exists.1 (isSome_of_mem hmem)
    rw [htake] at he
    obtain ⟨x, hx, rfl⟩ := Option.map_eq_some_iff.1 he
    obtain ⟨j, -, hj⟩ := List.mem_map.1 (List.mem_of_find?_eq_some hx)
    rw [he, ← hj]

theorem sound_wayTo (h : ∀ n ∈ p, IsFileName n) : (wayTo p).Sound := by
  refine sound_of_forall fun x hx => ?_
  obtain ⟨i, hi, rfl⟩ := List.mem_map.1 hx
  have hi : i < p.length := List.mem_range.1 hi
  refine ⟨fun n hn => h n (List.mem_of_mem_take hn), isFolder_iff.2 ?_⟩
  have hfront : (p.take (i + 1)).dropLast = p.take i := by
    rw [List.dropLast_eq_take, List.take_take, List.length_take, Nat.min_eq_left hi]
    simp
  simpa only [hfront] using entryAt?_wayTo (Nat.le_of_lt hi)

end Listing

end PayloadGen
