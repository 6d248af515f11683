import Mathlib.Data.List.Forall2

/-!
# Results of fallible steps

When a chain of steps that may fail succeeds, and with what error it fails.
-/

namespace Except

variable {ε α β : Type}

theorem bind_eq_ok_iff {x : Except ε α} {f : α → Except ε β} {b : β} :
    x.bind f = .ok b ↔ ∃ a, x = .ok a ∧ f a = .ok b := by
  cases x with
  | error e => simp [Except.bind]
  | ok a => simp [Except.bind]

theorem bind_eq_error_iff {x : Except ε α} {f : α → Except ε β} {e : ε} :
    x.bind f = .error e ↔ x = .error e ∨ ∃ a, x = .ok a ∧ f a = .error e := by
  cases x with
  | error e' => simp [Except.bind]
  | ok a => simp [Except.bind]

theorem map_eq_ok_iff {x : Except ε α} {f : α → β} {b : β} :
    x.map f = .ok b ↔ ∃ a, x = .ok a ∧ f a = b := by
  cases x with
  | error e => simp [Except.map]
  | ok a => simp [Except.map]

theorem map_eq_error_iff {x : Except ε α} {f : α → β} {e : ε} :
    x.map f = .error e ↔ x = .error e := by
  cases x with
  | error e' => simp [Except.map]
  | ok a => simp [Except.map]

theorem mapError_eq_ok_iff {x : Except ε α} {f : ε → β} {a : α} :
    x.mapError f = .ok a ↔ x = .ok a := by
  cases x with
  | error e => simp [Except.mapError]
  | ok a' => simp [Except.mapError]

theorem toOption_eq_some_iff {x : Except ε α} {a : α} : x.toOption = some a ↔ x = .ok a := by
  cases x with
  | error e => simp [Except.toOption]
  | ok a' => simp [Except.toOption]

/-- The error of a result that is one. -/
def error? : Except ε α → Option ε
  | .error e => some e
  | .ok _ => none

@[simp] theorem error?_ok (a : α) : (.ok a : Except ε α).error? = none := rfl

@[simp] theorem error?_error (e : ε) : (.error e : Except ε α).error? = some e := rfl

theorem error?_eq_some_iff {x : Except ε α} {e : ε} : x.error? = some e ↔ x = .error e := by
  cases x with
  | error e' => simp
  | ok a => simp

theorem error?_eq_none_iff {x : Except ε α} : x.error? = none ↔ ∃ a, x = .ok a := by
  cases x with
  | error e => simp
  | ok a => simp

@[simp] theorem error?_map (x : Except ε α) (f : α → β) : (x.map f).error? = x.error? := by
  cases x <;> rfl

/-- The error of two steps in sequence: that of the first, else that of the second. -/
theorem error?_bind {x : Except ε α} {f : α → Except ε β} {second : Option ε}
    (h : ∀ a, x = .ok a → (f a).error? = second) : (x.bind f).error? = x.error?.or second := by
  cases x with
  | error e => rfl
  | ok a => exact h a rfl

/-- Two results that are related, or the same error. -/
inductive Rel {γ : Type} (R : α → γ → Prop) : Except ε α → Except ε γ → Prop
  | ok {a : α} {c : γ} (h : R a c) : Rel R (.ok a) (.ok c)
  | error (e : ε) : Rel R (.error e) (.error e)

/-- Two results of which the second one is that of the first, or else both are failures. Nothing is
said where the first one fails with an error that is excused. -/
inductive Matches (excused : ε → Prop) : Except ε α → Except ε α → Prop
  | ok (a : α) : Matches excused (.ok a) (.ok a)
  | error (e e' : ε) : Matches excused (.error e) (.error e')
  | excused {e : ε} (h : excused e) (x : Except ε α) : Matches excused (.error e) x

namespace Matches

variable {excused : ε → Prop} {x x' : Except ε α}

theorem refl (x : Except ε α) : Matches excused x x := by
  cases x with
  | error e => exact .error e e
  | ok a => exact .ok a

theorem bind {f f' : α → Except ε β} (h : Matches excused x x')
    (hf : ∀ a, Matches excused (f a) (f' a)) : Matches excused (x.bind f) (x'.bind f') := by
  cases h with
  | ok a => exact hf a
  | error e e' => exact .error e e'
  | excused h x => exact .excused h _

theorem mapError {excused' : β → Prop} {f : ε → β} (hf : ∀ e, excused e → excused' (f e))
    (h : Matches excused x x') : Matches excused' (x.mapError f) (x'.mapError f) := by
  cases h with
  | ok a => exact .ok a
  | error e e' => exact .error (f e) (f e')
  | excused h x => exact .excused (hf _ h) _

theorem toOption_eq (h : Matches excused x x') (hx : ∀ e, x = .error e → ¬excused e) :
    x.toOption = x'.toOption := by
  cases h with
  | ok a => rfl
  | error e e' => rfl
  | excused h x => exact absurd h (hx _ rfl)

end Matches

end Except

namespace PayloadGen

variable {ε α β : Type}

theorem exists_right_of_forall₂ {R : α → β → Prop} {xs : List α} {ys : List β}
    (h : List.Forall₂ R xs ys) {x : α} (hx : x ∈ xs) : ∃ y ∈ ys, R x y := by
  induction h with
  | nil => cases hx
  | cons hr _ ih =>
    rcases List.mem_cons.1 hx with rfl | hx
    · exact ⟨_, List.mem_cons_self, hr⟩
    · obtain ⟨y, hy, hr⟩ := ih hx
      exact ⟨y, List.mem_cons_of_mem _ hy, hr⟩

theorem exists_left_of_forall₂ {R : α → β → Prop} {xs : List α} {ys : List β}
    (h : List.Forall₂ R xs ys) {y : β} (hy : y ∈ ys) : ∃ x ∈ xs, R x y :=
  exists_right_of_forall₂ h.flip hy

theorem map_eq_of_forall₂ {γ : Type} {f : α → γ} {g : β → γ} {xs : List α} {ys : List β}
    (h : List.Forall₂ (fun x y => g y = f x) xs ys) : ys.map g = xs.map f := by
  induction h with
  | nil => rfl
  | cons hxy _ ih => rw [List.map_cons, hxy, ih, List.map_cons]

theorem getElem?_of_forall₂ {R : α → β → Prop} {xs : List α} {ys : List β}
    (h : List.Forall₂ R xs ys) (i : Nat) : Option.Rel R xs[i]? ys[i]? := by
  induction h generalizing i with
  | nil => exact .none
  | cons hxy _ ih =>
    cases i with
    | zero => exact .some hxy
    | succ i => exact ih i

/-- A fallible map over a list succeeds when every member does, and keeps the order. -/
theorem mapM_eq_ok_iff {f : α → Except ε β} {xs : List α} {ys : List β} :
    xs.mapM f = .ok ys ↔ List.Forall₂ (fun x y => f x = .ok y) xs ys := by
  induction xs generalizing ys with
  | nil =>
    cases ys with
    | nil => simp [pure, Except.pure]
    | cons y ys => simp [pure, Except.pure]
  | cons x xs ih =>
    rw [List.mapM_cons, List.forall₂_cons_left_iff]
    simp only [bind, pure, Except.pure, Except.bind_eq_ok_iff, Except.ok.injEq, ih]
    constructor
    · rintro ⟨y, hy, ys', hys, rfl⟩
      exact ⟨y, ys', hy, hys, rfl⟩
    · rintro ⟨y, ys', hy, hys, rfl⟩
      exact ⟨y, hy, ys', hys, rfl⟩

theorem mapM_eq_ok_map {f : α → Except ε β} {g : α → β} {xs : List α}
    (h : ∀ x ∈ xs, f x = .ok (g x)) : xs.mapM f = .ok (xs.map g) :=
  mapM_eq_ok_iff.2 (List.forall₂_map_right_iff.2 (List.forall₂_same.2 h))

/-- Two fallible maps that succeed with the same results on the members of a list do so on the
list. -/
theorem exists_mapM_eq_ok {g g' : α → Except ε β} {xs : List α}
    (h : ∀ x ∈ xs, ∃ y, g x = .ok y ∧ g' x = .ok y) :
    ∃ ys, xs.mapM g = .ok ys ∧ xs.mapM g' = .ok ys := by
  simp only [mapM_eq_ok_iff]
  induction xs with
  | nil => exact ⟨[], .nil, .nil⟩
  | cons x xs ih =>
    obtain ⟨y, hy, hy'⟩ := h x List.mem_cons_self
    obtain ⟨ys, hys, hys'⟩ := ih fun x hx => h x (List.mem_cons_of_mem _ hx)
    exact ⟨y :: ys, .cons hy hys, .cons hy' hys'⟩

theorem matches_mapM {γ : Type} {excused : ε → Prop} {R : α → γ → Prop} {f : α → Except ε β}
    {g : γ → Except ε β} (hfg : ∀ x y, R x y → (f x).Matches excused (g y)) {xs : List α}
    {ys : List γ} (h : List.Forall₂ R xs ys) : (xs.mapM f).Matches excused (ys.mapM g) := by
  induction h with
  | nil => exact .ok []
  | cons hxy _ ih =>
    rw [List.mapM_cons, List.mapM_cons]
    exact .bind (hfg _ _ hxy) fun b => .bind ih fun bs => .ok (b :: bs)

/-- A fallible map over a list fails with the error of the first member that fails. -/
theorem mapM_eq_error_iff {f : α → Except ε β} {xs : List α} {e : ε} :
    xs.mapM f = .error e ↔
      ∃ before x after, xs = before ++ x :: after ∧ (∀ w ∈ before, ∃ y, f w = .ok y) ∧
        f x = .error e := by
  induction xs with
  | nil => simp [pure, Except.pure]
  | cons x xs ih =>
    rw [List.mapM_cons]
    simp only [bind, pure, Except.pure, Except.bind_eq_error_iff, reduceCtorEq, and_false,
      exists_false, or_false, ih]
    constructor
    · rintro (hx | ⟨y, hy, before, z, after, rfl, hbefore, hz⟩)
      · exact ⟨[], x, xs, rfl, by simp, hx⟩
      · exact ⟨x :: before, z, after, rfl, by simpa using ⟨⟨y, hy⟩, hbefore⟩, hz⟩
    · rintro ⟨before, z, after, hsplit, hbefore, hz⟩
      cases before with
      | nil =>
        obtain ⟨rfl, rfl⟩ := List.cons.inj hsplit
        exact .inl hz
      | cons w before =>
        obtain ⟨rfl, rfl⟩ := List.cons.inj hsplit
        obtain ⟨y, hy⟩ := hbefore x (by simp)
        exact .inr ⟨y, hy, before, z, after, rfl, fun w hw => hbefore w (by simp [hw]), hz⟩

end PayloadGen
