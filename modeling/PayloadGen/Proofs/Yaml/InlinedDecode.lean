import PayloadGen.Proofs.Except
import PayloadGen.Proofs.Yaml.Inlined

/-!
# Reading nodes with copies in place of aliases

A reader that meets a copy does what it does at the alias after following it, but for two things: it
has not entered the alias, and it has not counted a visit of it. So the reader of the copies
`Follows` the reader of the aliases, unless that is refused for too many visits through aliases.
When it gives a value, the other one gives the same; when it fails, the other one fails too.

Two facts carry the induction on the fuel. The visits through aliases that are saved are at least as
many as the visits that are saved (`InlinedState`), so the share of visits through aliases only gets
smaller. And where aliases come to an end, the reader never meets one that it has entered (`Clear`).
-/

namespace PayloadGen.Yaml

variable {name : String} {d d' : Document}

namespace Decode

/-! ## Visits -/

theorem visit_apply (c : DecodeContext) (s : DecodeState) :
    visit c s = if excessive (visited (!c.entered.isEmpty) s) then
      .error (.refused .excessiveAliasing)
      else .ok ((), visited (!c.entered.isEmpty) s) := by
  show (if excessive (visited (!c.entered.isEmpty) s) then throw (.refused .excessiveAliasing)
      else pure () :
    Decode Unit) c (visited (!c.entered.isEmpty) s) = _
  split <;> rfl

theorem throughAlias_apply {α : Type} (a : Alias) (act : Node → Decode α) (c : DecodeContext)
    (s : DecodeState) :
    throughAlias a.line a.column a.label a.target act c s =
      if a.place ∈ c.entered then .error (.refused (.selfContaining a.label))
      else (c.library.node? a.target).elim (.error (.refused (.unknownAnchor a.label)))
        fun n => act n ⟨c.library, a.place :: c.entered⟩ s := by
  have hcontains : c.entered.contains (a.target.document, a.line, a.column) = true ↔
      a.place ∈ c.entered :=
    List.contains_iff_mem
  show (ite _ _ _ : Decode α) c s = _
  by_cases h : a.place ∈ c.entered
  · rw [if_pos h, if_pos (hcontains.2 h)]
    rfl
  · rw [if_neg h, if_neg (mt hcontains.1 h)]
    cases c.library.node? a.target <;> rfl

/-- The share that is allowed gets smaller with the visits. -/
theorem allowedShare_anti {v w : Nat} (h : v ≤ w) : allowedShare w ≤ allowedShare v := by
  unfold allowedShare
  have hdiv : 890 * (v - 400000) / 3600000 ≤ 890 * (w - 400000) / 3600000 :=
    Nat.div_le_div_right (Nat.mul_le_mul_left 890 (Nat.sub_le_sub_right h 400000))
  split_ifs <;> omega

theorem allowedShare_le (v : Nat) : allowedShare v ≤ 1000 := by
  unfold allowedShare
  split
  · omega
  · split <;> omega

/-- How two readers stand, the second of which reads copies. If it is `late`, the first one has
visited an alias and is about to visit what it stands for, which is where the second one is. -/
structure InlinedState (late : Bool) (s s' : DecodeState) : Prop where
  mismatches : s'.mismatches = s.mismatches
  taken : s'.taken = s.taken
  visits : s'.visits ≤ s.visits
  aliased : s'.aliased + s.visits ≤ s.aliased + s'.visits + late.toNat

/-- The reader of copies is refused only if the other one is. -/
theorem InlinedState.excessive {s s' : DecodeState} (h : InlinedState false s s')
    (hs' : excessive s') : Decode.excessive s := by
  simp only [Decode.excessive, Bool.and_eq_true, decide_eq_true_eq] at hs' ⊢
  obtain ⟨⟨haliased, hvisits⟩, hshare⟩ := hs'
  have hmore := h.visits
  have hsaved : s'.aliased + s.visits ≤ s.aliased + s'.visits := by simpa using h.aliased
  refine ⟨⟨by omega, by omega⟩, ?_⟩
  obtain ⟨saved, hsaved'⟩ := Nat.exists_eq_add_of_le hmore
  calc allowedShare s.visits * s.visits ≤ allowedShare s'.visits * s.visits :=
        Nat.mul_le_mul_right _ (allowedShare_anti hmore)
    _ = allowedShare s'.visits * s'.visits + allowedShare s'.visits * saved := by
      rw [hsaved', Nat.mul_add]
    _ ≤ allowedShare s'.visits * s'.visits + 1000 * saved :=
        Nat.add_le_add_left (Nat.mul_le_mul_right _ (allowedShare_le _)) _
    _ < 1000 * s.aliased := by omega

/-! ## Contexts -/

/-- Where the two readers are: the second one has entered the aliases of other documents that the
first one has, and perhaps some of this one. -/
structure InlinedContext (name : String) (d d' : Document) (c c' : DecodeContext) : Prop where
  library : Library.Inlines name d d' c.library c'.library
  fewer : ∀ p ∈ c'.entered, p ∈ c.entered
  others : ∀ p ∈ c.entered, p.1 ≠ name → p ∈ c'.entered

namespace InlinedContext

variable {c c' : DecodeContext}

/-- Both readers enter an alias. -/
theorem enter (h : InlinedContext name d d' c c') (p : String × Nat × Nat) :
    InlinedContext name d d' ⟨c.library, p :: c.entered⟩ ⟨c'.library, p :: c'.entered⟩ := by
  refine ⟨h.library, fun q hq => ?_, fun q hq hother => ?_⟩
  · rcases List.mem_cons.1 hq with rfl | hq
    · exact List.mem_cons_self
    · exact List.mem_cons_of_mem _ (h.fewer q hq)
  · rcases List.mem_cons.1 hq with rfl | hq
    · exact List.mem_cons_self
    · exact List.mem_cons_of_mem _ (h.others q hq hother)

/-- Only the first reader enters an alias, of the document that has copies. -/
theorem enterFirst (h : InlinedContext name d d' c c') {p : String × Nat × Nat} (hp : p.1 = name) :
    InlinedContext name d d' ⟨c.library, p :: c.entered⟩ c' := by
  refine ⟨h.library, fun q hq => List.mem_cons_of_mem _ (h.fewer q hq), fun q hq hother => ?_⟩
  rcases List.mem_cons.1 hq with rfl | hq
  · exact absurd hp hother
  · exact h.others q hq hother

theorem entered_eq_nil (h : InlinedContext name d d' c c') (hc : c.entered = []) :
    c'.entered = [] := by
  refine List.eq_nil_iff_forall_not_mem.2 fun p hp => ?_
  simpa [hc] using h.fewer p hp

end InlinedContext

/-- No way from the aliases leads to one of the document that has been entered. -/
def Clear (name : String) (d : Document) (as : List Alias) (entered : List (String × Nat × Nat)) :
    Prop :=
  ∀ a ∈ as, a.target.document = name →
    a ∈ d.aliases ∧ ∀ b, Relation.ReflTransGen (d.Leads name) a b → b.target.document = name →
    b.place ∉ entered

namespace Clear

variable {as bs : List Alias} {entered : List (String × Nat × Nat)}

theorem mono (h : as ⊆ bs) (hclear : Clear name d bs entered) : Clear name d as entered :=
  fun a ha => hclear a (h ha)

theorem not_mem {a : Alias} (h : Clear name d [a] entered) (ha : a.target.document = name) :
    a.place ∉ entered :=
  (h a (List.mem_singleton_self a) ha).2 a .refl ha

/-- An alias can be entered, and then the node that it stands for is read. -/
theorem enter (hends : d.AliasesEnd name) {l l' : Library}
    (hl : Library.Inlines name d d' l l') {a : Alias} (h : Clear name d [a] entered) {t : Node}
    (ht : l.node? a.target = some t) : Clear name d t.aliases (a.place :: entered) := by
  intro b hb hname
  by_cases ha : a.target.document = name
  · obtain ⟨hmem, hentered⟩ := h a (List.mem_singleton_self a) ha
    rw [(hl.node?_self ha).1] at ht
    have hleads : d.Leads name a b := ⟨ha, t, ht, hb⟩
    refine ⟨List.mem_append_right _ (aliases_subset_items (List.mem_of_getElem? ht) hb),
      fun b' hb' hname' => ?_⟩
    rw [List.mem_cons, not_or]
    exact ⟨hends a hmem b' (.head' hleads hb'), hentered b' (.head hleads hb') hname'⟩
  · exact absurd hname ((hl.node?_other ha).2 t ht b hb)

end Clear

/-! ## Readers -/

/-- What two readers come to. -/
inductive Outcome {α : Type} :
    Except Error (α × DecodeState) → Except Error (α × DecodeState) → Prop
  | value {a : α} {s s' : DecodeState} (h : InlinedState false s s') :
      Outcome (.ok (a, s)) (.ok (a, s'))
  | failure (e e' : Error) : Outcome (.error e) (.error e')
  | refusal (r : Except Error (α × DecodeState)) : Outcome (.error (.refused .excessiveAliasing)) r

/-- The second reader comes to what the first one comes to, which reads nodes with these aliases. -/
def Follows (name : String) (d d' : Document) (as : List Alias) (late : Bool) {α : Type}
    (x x' : Decode α) : Prop :=
  ∀ c c' s s', InlinedContext name d d' c c' → Clear name d as c.entered →
    (late = true → c.entered ≠ [] ∧ c'.entered = []) → InlinedState late s s' →
    Outcome (x c s) (x' c' s')

namespace Follows

variable {α β : Type} {as bs : List Alias} {late : Bool} {x x' : Decode α}

theorem mono (h : as ⊆ bs) (hx : Follows name d d' as late x x') : Follows name d d' bs late x x' :=
  fun c c' s s' hc hclear => hx c c' s s' hc (hclear.mono h)

theorem bind {f f' : α → Decode β} (hx : Follows name d d' as late x x')
    (hf : ∀ a, Follows name d d' as false (f a) (f' a)) :
    Follows name d d' as late (x >>= f) (x' >>= f') := by
  intro c c' s s' hc hclear hlate hs
  have hxs := hx c c' s s' hc hclear hlate hs
  show Outcome ((x c s).bind fun p => f p.1 c p.2) ((x' c' s').bind fun p => f' p.1 c' p.2)
  revert hxs
  generalize x c s = r, x' c' s' = r'
  intro hxs
  cases hxs with
  | value h => exact hf _ c c' _ _ hc hclear nofun h
  | failure e e' => exact .failure e e'
  | refusal r => exact .refusal _

theorem pure (a : α) : Follows name d d' as false (Pure.pure a) (Pure.pure a) :=
  fun _ _ _ _ _ _ _ hs => .value hs

theorem throw (e e' : Error) :
    Follows name d d' as late (throw e : Decode α) (MonadExcept.throw e') :=
  fun _ _ _ _ _ _ _ _ => .failure e e'

/-- Without fuel a reader is refused. -/
theorem refused : Follows name d d' as late (MonadExcept.throw (.refused .excessiveAliasing)) x' :=
  fun _ _ _ _ _ _ _ _ => .refusal _

theorem read {f f' : DecodeContext → Decode β}
    (hf : ∀ c c', InlinedContext name d d' c c' → Follows name d d' as late (f c) (f' c')) :
    Follows name d d' as late (MonadReader.read >>= f) (MonadReader.read >>= f') :=
  fun c c' s s' hc hclear hlate hs => hf c c' hc c c' s s' hc hclear hlate hs

theorem get {f f' : DecodeState → Decode β}
    (hf : ∀ s s', InlinedState false s s' → Follows name d d' as false (f s) (f' s')) :
    Follows name d d' as false (MonadState.get >>= f) (MonadState.get >>= f') :=
  fun c c' s s' hc hclear hlate hs => hf s s' hs c c' s s' hc hclear hlate hs

theorem modify {g g' : DecodeState → DecodeState}
    (h : ∀ s s', InlinedState false s s' → InlinedState false (g s) (g' s')) :
    Follows name d d' as false (modify g : Decode Unit) (MonadState.modifyGet fun s =>
      ((), g' s)) :=
  fun _ _ s s' _ _ _ hs => .value (h s s' hs)

/-- What does not read nodes. -/
theorem lift (y : Except Error α) : Follows name d d' as false (liftM y : Decode α) (liftM y) := by
  intro c c' s s' hc hclear hlate hs
  cases y with
  | error e => exact .failure e e
  | ok a => exact .value hs

end Follows

theorem follows_visit {as : List Alias} {late : Bool} : Follows name d d' as late visit visit := by
  intro c c' s s' hc hclear hlate hs
  have hafter : InlinedState false (visited (!c.entered.isEmpty) s)
      (visited (!c'.entered.isEmpty) s') := by
    have hcount : (if !c'.entered.isEmpty then 1 else 0) + late.toNat ≤ if !c.entered.isEmpty then 1
        else 0 := by
      cases late with
      | true =>
        obtain ⟨hentered, hentered'⟩ := hlate rfl
        simp [hentered, hentered']
      | false =>
        cases hentered : c'.entered with
        | nil => simp
        | cons p r =>
          have hp : p ∈ c.entered := hc.fewer p (by simp [hentered])
          simp [List.ne_nil_of_mem hp]
    have haliased := hs.aliased
    refine ⟨hs.mismatches, hs.taken, Nat.succ_le_succ hs.visits, ?_⟩
    simp only [visited, Bool.toNat_false]
    omega
  rw [visit_apply, visit_apply]
  split
  · exact .refusal _
  · rename_i hleft
    split
    · rename_i hright
      exact absurd (hafter.excessive hright) hleft
    · exact .value hafter

/-! ## Aliases -/

section Aliases

variable (hends : d.AliasesEnd name)

include hends

/-- Both readers follow an alias. -/
theorem follows_throughAlias (hd : d.Inlines name d') {α : Type}
    {act act' : Node → Decode α} (a : Alias)
    (h : ∀ t t', InlinedInside name d t t' → Follows name d d' t.aliases false (act t) (act' t')) :
    Follows name d d' [a] false (throughAlias a.line a.column a.label a.target act)
      (throughAlias a.line a.column a.label a.target act') := by
  intro c c' s s' hc hclear hlate hs
  rw [throughAlias_apply, throughAlias_apply]
  by_cases hentered : a.place ∈ c.entered
  · -- The alias is one of another document, so both have entered it.
    have hother : a.target.document ≠ name := fun ha => hclear.not_mem ha hentered
    have hentered' : a.place ∈ c'.entered := hc.others _ hentered hother
    rw [if_pos hentered, if_pos hentered']
    exact .failure _ _
  · have hentered' : a.place ∉ c'.entered := fun hmem => hentered (hc.fewer _ hmem)
    rw [if_neg hentered, if_neg hentered']
    have hnode := hc.library.node? hd a.target
    revert hnode
    cases ht : c.library.node? a.target <;> cases c'.library.node? a.target <;>
      intro hnode <;> cases hnode
    · exact .failure _ _
    · rename_i t t' htt'
      exact h t t' htt' _ _ s s' (hc.enter a.place) (hclear.enter hends hc.library ht) nofun hs

/-- The first reader follows an alias, and the second one is at the copy. -/
theorem follows_replaced {α : Type} {act : Node → Decode α} {x' : Decode α} (a : Alias) {t : Node}
    (ha : a.target.document = name) (ht : d.anchors[a.target.number]? = some t)
    (h : ∀ late, Follows name d d' t.aliases late (act t) x') :
    Follows name d d' [a] false (visit >>= fun _ =>
      throughAlias a.line a.column a.label a.target act) x' := by
  intro c c' s s' hc hclear hlate hs
  show Outcome ((visit c s).bind fun p => throughAlias a.line a.column a.label a.target act c p.2)
      (x' c' s')
  rw [visit_apply]
  split
  · exact .refusal _
  have hnode : c.library.node? a.target = some t := (hc.library.node?_self ha).1.trans ht
  show Outcome (throughAlias a.line a.column a.label a.target act c
      (visited (!c.entered.isEmpty) s)) (x' c' s')
  rw [throughAlias_apply, if_neg (hclear.not_mem ha), hnode]
  -- The visit of the alias counts as one through an alias, or else it is the first one and the next
  -- visit will.
  refine h c.entered.isEmpty _ _ _ s' (hc.enterFirst ha) (hclear.enter hends hc.library hnode) ?_ ?_
  · exact fun hfirst => ⟨List.cons_ne_nil _ _, hc.entered_eq_nil (List.isEmpty_iff.1 hfirst)⟩
  · have hvisits := hs.visits
    have haliased := hs.aliased
    refine ⟨hs.mismatches, hs.taken, Nat.le_succ_of_le hvisits, ?_⟩
    cases c.entered.isEmpty <;> simp [visited] at haliased ⊢ <;> omega

end Aliases

/-- The readers of nodes with so much fuel are followed by those of copies with at least as much. -/
def FollowsNodes (name : String) (d d' : Document) {α : Type} (R : Nat → Node → Decode α)
    (fuel : Nat) : Prop :=
  ∀ ⦃extra n n'⦄ late, Inlined name d n n' → (late = true → n.isAlias = false) →
    Follows name d d' n.aliases late (R fuel n) (R (extra + fuel) n')

/-- A reader that follows aliases needs to be looked at only where there are none. -/
theorem FollowsNodes.succ (hd : d.Inlines name d') (hends : d.AliasesEnd name) {α : Type}
    {R : Nat → Node → Decode α} {fuel : Nat} (ih : FollowsNodes name d d' R fuel)
    (halias : ∀ fuel (a : Alias), R (fuel + 1) (.aliasOf a.line a.column a.label a.target) =
      (visit >>= fun _ => throughAlias a.line a.column a.label a.target (R fuel)))
    (hinside : ∀ {extra n n'} late, InlinedInside name d n n' → n.isAlias = false →
      Follows name d d' n.aliases late (R (fuel + 1) n) (R (extra + fuel + 1) n')) :
    FollowsNodes name d d' R (fuel + 1) := by
  intro extra n n' late h hlate
  cases h with
  | inside h =>
    cases h with
    | kept line column label target =>
      cases late with
      | true => cases hlate rfl
      | false =>
        rw [halias fuel ⟨line, column, label, target⟩, ← Nat.add_assoc,
          halias (extra + fuel) ⟨line, column, label, target⟩]
        exact .bind follows_visit fun _ =>
          follows_throughAlias hends hd ⟨line, column, label, target⟩
            fun t t' ht => ih false (.inside ht) nofun
    | scalar line tag text isPlain => exact hinside late (.scalar line tag text isPlain) rfl
    | sequence line tag h => exact hinside late (.sequence line tag h) rfl
    | mapping line tag h => exact hinside late (.mapping line tag h) rfl
  | replaced line column label hname htarget htalias h =>
    cases late with
    | true => cases hlate rfl
    | false =>
      rw [halias fuel ⟨line, column, label, _⟩, show extra + (fuel + 1) = extra + 1 + fuel by omega]
      exact follows_replaced hends ⟨line, column, label, _⟩ hname htarget
        fun late => ih late (.inside h) fun _ => htalias

/-! ## Nodes and keys -/

section Nodes

variable {entries entries' : List (Node × Node)}

theorem all_eq_of_forall₂ {α β : Type} {R : α → β → Prop} {p : α → Bool} {q : β → Bool}
    (hpq : ∀ x y, R x y → q y = p x) {xs : List α} {ys : List β} (h : List.Forall₂ R xs ys) :
    ys.all q = xs.all p := by
  induction h with
  | nil => rfl
  | cons hxy _ ih => rw [List.all_cons, List.all_cons, hpq _ _ hxy, ih]

theorem tagOf_inlined (hd : d.Inlines name d') {l l' : Library}
    (hl : Library.Inlines name d d' l l') (k : Node) : tagOf l' k = tagOf l k := by
  cases k with
  | aliasOf line column label target =>
    have hnode := hl.node? hd target
    simp only [tagOf]
    revert hnode
    cases l.node? target <;> cases l'.node? target <;> intro hnode <;> cases hnode
    · rfl
    · rename_i h
      cases h with
      | scalar | kept => rfl
      | sequence line tag | mapping line tag => cases tag <;> rfl
  | scalar line tag | sequence line tag | mapping line tag => cases tag <;> rfl

theorem isMapping_inlined (hd : d.Inlines name d') {l l' : Library}
    (hl : Library.Inlines name d d' l l') {n n' : Node} (h : Inlined name d n n') :
    isMapping l' n' = isMapping l n := by
  cases h with
  | inside h =>
    cases h with
    | kept line column label target =>
      have hnode := hl.node? hd target
      simp only [isMapping]
      revert hnode
      cases l.node? target <;> cases l'.node? target <;> intro hnode <;> cases hnode
      · rfl
      · rename_i h
        cases h <;> rfl
    | _ => rfl
  | @replaced _ _ _ target t t' hname htarget halias h =>
    have hnode : l.node? target = some t := (hl.node?_self hname).1.trans htarget
    simp only [isMapping, hnode]
    cases h with
    | kept => cases halias
    | _ => rfl

theorem repeatedKeys_cons (k v : Node) (entries : List (Node × Node)) :
    repeatedKeys ((k, v) :: entries) =
      ((entries.map (·.1)).filter (sameLabel k)).map (fun e =>
        .repeatedKey e.line e.label k.line) ++
          repeatedKeys entries := by
  simp [repeatedKeys, List.filter_map, Function.comp_def]

theorem repeatedKeys_inlined (h : InlinedEntries name d entries entries') :
    repeatedKeys entries' = repeatedKeys entries := by
  induction entries generalizing entries' with
  | nil =>
    cases h
    rfl
  | cons e entries ih =>
    cases h with
    | cons h hkey hentries => rw [repeatedKeys_cons, repeatedKeys_cons, hentries.keys, ih hentries]

/-- The mappings that are merged are the same but for copies. An alias of a sequence is left as it
is, since only the mappings in it could be merged if it were replaced. -/
theorem mergeSources_inlined (hd : d.Inlines name d') {l l' : Library}
    (hl : Library.Inlines name d d' l l') {k v v' : Node} (h : Inlined name d v v')
    (hinlinable : v.isAlias → v' = v ∨ Inlinable k v') (hmerge : isMerge k) :
    Option.Rel (List.Forall₂ (Inlined name d)) (mergeSources l v) (mergeSources l' v') := by
  have hmapping := isMapping_inlined hd hl h
  have hsingle : (∀ line tag items, v ≠ .sequence line tag items) →
      (∀ line tag items, v' ≠ .sequence line tag items) →
      Option.Rel (List.Forall₂ (Inlined name d)) (mergeSources l v) (mergeSources l' v') := by
    intro hv hv'
    rw [mergeSources.eq_2 l v hv, mergeSources.eq_2 l' v' hv', hmapping]
    split
    · exact .some (.cons h .nil)
    · exact .none
  cases h with
  | inside h =>
    cases h with
    | sequence line tag h =>
      have hall :=
        all_eq_of_forall₂ (fun n n' (h : Inlined name d n n') => isMapping_inlined hd hl h)
          h.forall₂
      rw [mergeSources, mergeSources, hall]
      split
      · exact .some h.forall₂
      · exact .none
    | _ => exact hsingle nofun nofun
  | replaced line column label hname htarget halias h =>
    refine hsingle nofun fun _ _ _ hsequence => ?_
    rcases hinlinable rfl with rfl | hinlinable
    · cases hsequence
    · rw [hsequence] at hinlinable
      exact Bool.false_ne_true (hinlinable.symm.trans hmerge)

theorem itemsAliases_mergeSources {l : Library} {n : Node} {ns : List Node}
    (h : mergeSources l n = some ns) : itemsAliases ns ⊆ n.aliases := by
  unfold mergeSources at h
  split at h <;> split at h <;> cases h
  · exact List.Subset.refl _
  · simp [itemsAliases]

theorem follows_keysDiffer {as : List Alias} (h : InlinedEntries name d entries entries') :
    Follows name d d' as false (keysDiffer entries) (keysDiffer entries') := by
  unfold keysDiffer
  rw [repeatedKeys_inlined h]
  exact .bind (.modify fun s s' hs => ⟨by rw [hs.mismatches], hs.taken, hs.visits, hs.aliased⟩)
    fun _ => .pure _

theorem follows_note {as : List Alias} (m : Mismatch) :
    Follows name d d' as false (note m) (note m) :=
  .modify fun s s' hs => ⟨by rw [hs.mismatches], hs.taken, hs.visits, hs.aliased⟩

theorem follows_noteCollection {as : List Alias} {n n' : Node} (h : n'.line = n.line)
    (tag : Option String) (usual expected : String) :
    Follows name d d' as false (noteCollection n tag usual expected)
      (noteCollection n' tag usual expected) := by
  unfold noteCollection
  rw [h]
  exact follows_note _

theorem follows_setTaken {as : List Alias} (taken : Option (List Value)) :
    Follows name d d' as false (modify fun s => { s with taken } : Decode Unit)
      (modify fun s => { s with taken }) :=
  .modify fun _ _ hs => ⟨hs.mismatches, rfl, hs.visits, hs.aliased⟩

theorem follows_thenMerge (hd : d.Inlines name d') {α : Type}
    (h : InlinedEntries name d entries entries') {taken : Option (List Value)}
    {keys keys' : Decode (List Value)} {done : α} {merge merge' : List Node → Decode α}
    (hkeys : Follows name d d' (entriesAliases entries) false keys keys')
    (hmerge : ∀ ns ns', List.Forall₂ (Inlined name d) ns ns' →
      Follows name d d' (itemsAliases ns) false (merge ns) (merge' ns')) :
    Follows name d d' (entriesAliases entries) false (thenMerge entries taken keys done merge)
      (thenMerge entries' taken keys' done merge') := by
  have hlast := h.getLast?_filter isMerge
  unfold thenMerge
  revert hlast
  cases hleft : (entries.filter fun e => isMerge e.1).getLast? <;>
    cases (entries'.filter fun e => isMerge e.1).getLast? <;> intro hlast <;> cases hlast
  · exact .bind (follows_setTaken taken) fun _ => .pure done
  · rename_i e e' he
    have hmem := List.mem_filter.1 (List.mem_of_getLast? hleft)
    have haliases := value_aliases_subset hmem.1
    refine .read fun c c' hc => ?_
    have hsources := mergeSources_inlined hd hc.library he.value he.inlinable hmem.2
    revert hsources
    cases hns : mergeSources c.library e.2 <;> cases mergeSources c'.library e'.2 <;>
      intro hsources <;> cases hsources
    · exact .throw _ _
    · rename_i ns ns' hforall
      refine .bind ?_ fun own => .bind (follows_setTaken _) fun _ => .bind ?_ fun merged =>
        .bind ?_ fun _ => .pure merged
      · split
        · exact hkeys
        · exact .pure []
      · exact (hmerge ns ns' hforall).mono
          (List.Subset.trans (itemsAliases_mergeSources hns) haliases)
      · refine .modify fun s s' hs => ⟨hs.mismatches, ?_, hs.visits, hs.aliased⟩
        dsimp only
        rw [hs.taken]

theorem followsNodes_keyText (hd : d.Inlines name d') (hends : d.AliasesEnd name) (fuel : Nat) :
    FollowsNodes name d d' keyText fuel := by
  induction fuel with
  | zero => exact fun _ _ _ _ _ _ => .refused
  | succ fuel ih =>
    refine ih.succ hd hends (fun _ _ => rfl) fun {extra n n'} late h halias =>
      .bind follows_visit fun _ => ?_
    cases h with
    | kept => cases halias
    | scalar line tag text isPlain => exact .bind (.lift _) fun v => by cases v <;> exact .pure _
    | sequence line tag h => exact .bind (follows_noteCollection rfl tag _ _) fun _ => .pure none
    | mapping line tag h =>
      refine .bind (follows_keysDiffer h) fun b => ?_
      cases b with
      | false => exact .pure none
      | true => exact .bind (follows_noteCollection rfl tag _ _) fun _ => .pure none

end Nodes

/-! ## Values -/

/-- The readers of values with so much fuel are followed by those of copies with at least as
much. -/
structure FollowsValues (name : String) (d d' : Document) (fuel : Nat) : Prop where
  value : FollowsNodes name d d' value fuel
  values : ∀ {extra ns ns'}, List.Forall₂ (Inlined name d) ns ns' →
    Follows name d d' (itemsAliases ns) false (values fuel ns) (values (extra + fuel) ns')
  mappingInto : ∀ {extra es es'} acc, InlinedEntries name d es es' →
    Follows name d d' (entriesAliases es) false (mappingInto fuel es acc)
      (mappingInto (extra + fuel) es' acc)
  entriesInto : ∀ {extra es es'} acc taken, InlinedEntries name d es es' →
    Follows name d d' (entriesAliases es) false (entriesInto fuel es acc taken)
      (entriesInto (extra + fuel) es' acc taken)
  mergeInto : ∀ {extra ns ns'} acc, List.Forall₂ (Inlined name d) ns ns' →
    Follows name d d' (itemsAliases ns) false (mergeInto fuel ns acc)
      (mergeInto (extra + fuel) ns' acc)
  mergeOne : ∀ acc, FollowsNodes name d d' (fun fuel n => mergeOne fuel n acc) fuel

namespace FollowsValues

variable (hd : d.Inlines name d') (hends : d.AliasesEnd name) {fuel extra : Nat}

include hd hends in
theorem value_succ (ih : FollowsValues name d d' fuel) :
    FollowsNodes name d d' Decode.value (fuel + 1) := by
  refine ih.value.succ hd hends (fun _ _ => rfl) fun {extra n n'} late h halias =>
    .bind follows_visit fun _ => ?_
  cases h with
  | kept => cases halias
  | scalar line tag text isPlain => exact .lift _
  | sequence line tag h => exact .bind (ih.values h.forall₂) fun _ => .pure _
  | @mapping line tag entries entries' h =>
    refine .read fun c c' hc => .bind (follows_keysDiffer h) fun b => ?_
    have hdict : entries'.all (fun e => ["!!str", "!!merge"].contains (tagOf c'.library e.1)) =
        entries.all fun e => ["!!str", "!!merge"].contains (tagOf c.library e.1) :=
      all_eq_of_forall₂ (fun e e' (he : InlinedEntry name d e e') => by
        rw [he.key, tagOf_inlined hd hc.library])
        h.forall₂
    rw [hdict]
    cases b with
    | false => exact .pure _
    | true => exact .bind (ih.mappingInto _ h) fun _ => .pure _

theorem values_succ (ih : FollowsValues name d d' fuel) {ns ns' : List Node}
    (h : List.Forall₂ (Inlined name d) ns ns') :
    Follows name d d' (itemsAliases ns) false (Decode.values (fuel + 1) ns)
      (Decode.values (extra + fuel + 1) ns') := by
  cases h with
  | nil => exact .pure []
  | cons h hns =>
    refine .bind ((ih.value false h nofun).mono (List.subset_append_left _ _)) fun _ => ?_
    exact .bind ((ih.values hns).mono (List.subset_append_right _ _)) fun _ => .pure _

theorem mergeInto_succ (ih : FollowsValues name d d' fuel) {ns ns' : List Node} (acc : Entries)
    (h : List.Forall₂ (Inlined name d) ns ns') :
    Follows name d d' (itemsAliases ns) false (Decode.mergeInto (fuel + 1) ns acc)
      (Decode.mergeInto (extra + fuel + 1) ns' acc) := by
  cases h with
  | nil => exact .pure acc
  | cons h hns =>
    refine .bind ((ih.mergeOne acc false h nofun).mono (List.subset_append_left _ _)) fun acc => ?_
    exact (ih.mergeInto acc hns).mono (List.subset_append_right _ _)

include hd hends in
theorem mergeOne_succ (ih : FollowsValues name d d' fuel) (acc : Entries) :
    FollowsNodes name d d' (fun fuel n => Decode.mergeOne fuel n acc) (fuel + 1) := by
  refine (ih.mergeOne acc).succ hd hends (fun _ _ => rfl) fun {extra n n'} late h halias =>
    .bind follows_visit fun _ => ?_
  cases h with
  | kept => cases halias
  | scalar | sequence => exact .pure acc
  | mapping line tag h =>
    refine .bind (follows_keysDiffer h) fun b => ?_
    cases b with
    | false => exact .pure acc
    | true => exact ih.mappingInto acc h

include hd hends in
theorem entriesInto_succ (ih : FollowsValues name d d' fuel) {es es' : List (Node × Node)}
    (acc : Entries) (taken : Option (List Value)) (h : InlinedEntries name d es es') :
    Follows name d d' (entriesAliases es) false (Decode.entriesInto (fuel + 1) es acc taken)
      (Decode.entriesInto (extra + fuel + 1) es' acc taken) := by
  cases h with
  | nil => exact .pure _
  | @cons k v v' es es' h hkey hes =>
    have hrest : ∀ acc taken, Follows name d d' (entriesAliases ((k, v) :: es)) false
        (Decode.entriesInto fuel es acc taken) (Decode.entriesInto (extra + fuel) es' acc taken) :=
      fun acc taken => (ih.entriesInto acc taken hes).mono (List.subset_append_right _ _)
    have hk : k.aliases ⊆ entriesAliases ((k, v) :: es) :=
      key_aliases_subset (e := (k, v)) List.mem_cons_self
    have hv : v.aliases ⊆ entriesAliases ((k, v) :: es) :=
      value_aliases_subset (e := (k, v)) List.mem_cons_self
    simp only [Decode.entriesInto]
    split
    · exact hrest acc taken
    · refine .bind (follows_setTaken none) fun _ => .bind ?_ fun key? => ?_
      · cases acc with
        | dict entries =>
          exact .bind ((followsNodes_keyText hd hends fuel false (.refl k) nofun).mono hk) fun _ =>
            .pure _
        | table entries => exact .bind ((ih.value false (.refl k) nofun).mono hk) fun _ => .pure _
      · cases key? with
        | none => exact hrest acc taken
        | some key =>
          dsimp only
          cases claim key taken with
          | none => exact hrest acc taken
          | some taken =>
            -- What follows a key that can be one; the check in front of it only adds an error.
            have hitem : Follows name d d' (entriesAliases ((k, v) :: es)) false
                (Decode.value fuel v >>= fun item =>
                  Decode.entriesInto fuel es (acc.insert key item) taken)
                (Decode.value (extra + fuel) v' >>= fun item =>
                  Decode.entriesInto (extra + fuel) es' (acc.insert key item) taken) :=
              .bind ((ih.value false h nofun).mono hv) fun item => hrest (acc.insert key item) taken
            dsimp only
            split
            · exact .bind (.throw _ _) fun _ => hitem
            · exact hitem

include hd in
theorem mappingInto_succ (ih : FollowsValues name d d' fuel) {es es' : List (Node × Node)}
    (acc : Entries) (h : InlinedEntries name d es es') :
    Follows name d d' (entriesAliases es) false (Decode.mappingInto (fuel + 1) es acc)
      (Decode.mappingInto (extra + fuel + 1) es' acc) := by
  refine .get fun s s' hs => ?_
  rw [hs.taken]
  refine .bind (ih.entriesInto acc s.taken h) fun (acc, taken) => ?_
  refine follows_thenMerge hd h ?_ fun ns ns' hns => ih.mergeInto acc hns
  rw [h.keys]
  exact (ih.values (List.forall₂_same.2 fun k _ => .refl k)).mono (itemsAliases_map_fst es)

end FollowsValues

theorem followsValues (hd : d.Inlines name d') (hends : d.AliasesEnd name) (fuel : Nat) :
    FollowsValues name d d' fuel := by
  induction fuel with
  | zero =>
    exact ⟨fun _ _ _ _ _ _ => .refused, fun _ => .refused, fun _ _ => .refused,
      fun _ _ _ => .refused, fun _ _ => .refused, fun _ _ _ _ _ _ _ => .refused⟩
  | succ fuel ih =>
    exact ⟨ih.value_succ hd hends, ih.values_succ, ih.mappingInto_succ hd,
      ih.entriesInto_succ hd hends, ih.mergeInto_succ, ih.mergeOne_succ hd hends⟩

/-! ## Records -/

/-- The readers of records with so much fuel are followed by those of copies with at least as
much. -/
structure FollowsRecords (name : String) (d d' : Document) (fuel : Nat) : Prop where
  fillShape : ∀ shape old, FollowsNodes name d d' (fun fuel n => fillShape fuel shape old n) fuel
  fillMapping : ∀ {extra n n' es es'} shape old tag, n'.line = n.line →
    InlinedEntries name d es es' →
    Follows name d d' (entriesAliases es) false (fillMapping fuel shape old n tag es)
      (fillMapping (extra + fuel) shape old n' tag es')
  fillRecord : ∀ {extra es es'} shape old, InlinedEntries name d es es' →
    Follows name d d' (entriesAliases es) false (fillRecord fuel shape old es)
      (fillRecord (extra + fuel) shape old es')
  fillEntries : ∀ {extra es es'} shape old done taken, InlinedEntries name d es es' →
    Follows name d d' (entriesAliases es) false (fillEntries fuel shape old done es taken)
      (fillEntries (extra + fuel) shape old done es' taken)
  fillMerged : ∀ {extra ns ns'} shape old, List.Forall₂ (Inlined name d) ns ns' →
    Follows name d d' (itemsAliases ns) false (fillMerged fuel shape old ns)
      (fillMerged (extra + fuel) shape old ns')

namespace FollowsRecords

variable (hd : d.Inlines name d') (hends : d.AliasesEnd name) {fuel extra : Nat}

include hd hends in
theorem fillShape_succ (ih : FollowsRecords name d d' fuel) (shape : Shape) (old : Filled) :
    FollowsNodes name d d' (fun fuel n => Decode.fillShape fuel shape old n) (fuel + 1) := by
  refine (ih.fillShape shape old).succ hd hends (fun _ _ => rfl) fun {extra n n'} late h halias =>
    .bind follows_visit fun _ => ?_
  cases h with
  | kept => cases halias
  | scalar line tag text isPlain =>
    refine .bind (.lift _) fun v => ?_
    cases shape <;> cases v <;>
      first | exact .pure _ | exact .bind (follows_note _) fun _ => .pure _
  | sequence line tag h => exact .bind (follows_noteCollection rfl tag _ _) fun _ => .pure old
  | mapping line tag h =>
    refine .bind (follows_keysDiffer h) fun b => ?_
    cases b with
    | false => exact .pure old
    | true => exact ih.fillMapping shape old tag rfl h

theorem fillMapping_succ (ih : FollowsRecords name d d' fuel) {n n' : Node}
    {es es' : List (Node × Node)} (shape : Shape) (old : Filled) (tag : Option String)
    (hline : n'.line = n.line) (h : InlinedEntries name d es es') :
    Follows name d d' (entriesAliases es) false (Decode.fillMapping (fuel + 1) shape old n tag es)
      (Decode.fillMapping (extra + fuel + 1) shape old n' tag es') := by
  cases shape with
  | text => exact .bind (follows_noteCollection hline tag _ _) fun _ => .pure old
  | record name fields => exact ih.fillRecord _ old h
  | texts => exact ih.fillRecord _ old h
  | optional content =>
    cases content with
    | record name fields =>
      rcases old with _ | _ | ⟨_ | content⟩ <;> exact .bind (ih.fillRecord _ _ h) fun _ => .pure _
    | _ => exact .bind (follows_noteCollection hline tag _ _) fun _ => .pure old

include hd hends in
theorem fillRecord_succ (ih : FollowsRecords name d d' fuel) {es es' : List (Node × Node)}
    (shape : Shape) (old : Filled) (h : InlinedEntries name d es es') :
    Follows name d d' (entriesAliases es) false (Decode.fillRecord (fuel + 1) shape old es)
      (Decode.fillRecord (extra + fuel + 1) shape old es') := by
  refine .get fun s s' hs => ?_
  rw [hs.taken]
  refine .bind (ih.fillEntries shape old [] s.taken h) fun (new, taken) => ?_
  refine follows_thenMerge hd h ?_ fun ns ns' hns => ih.fillMerged shape new hns
  rw [h.keys]
  exact ((followsValues hd hends fuel).values (List.forall₂_same.2 fun k _ => .refl k)).mono
    (itemsAliases_map_fst es)

include hd hends in
theorem fillEntries_succ (ih : FollowsRecords name d d' fuel) {es es' : List (Node × Node)}
    (shape : Shape) (old : Filled) (done : List String) (taken : Option (List Value))
    (h : InlinedEntries name d es es') :
    Follows name d d' (entriesAliases es) false
      (Decode.fillEntries (fuel + 1) shape old done es taken)
        (Decode.fillEntries (extra + fuel + 1) shape old done es' taken) := by
  cases h with
  | nil => exact .pure _
  | @cons k v v' es es' h hkey hes =>
    have hrest : ∀ old done taken, Follows name d d' (entriesAliases ((k, v) :: es)) false
        (Decode.fillEntries fuel shape old done es taken)
        (Decode.fillEntries (extra + fuel) shape old done es' taken) :=
      fun old done taken =>
        (ih.fillEntries shape old done taken hes).mono (List.subset_append_right _ _)
    have hk : k.aliases ⊆ entriesAliases ((k, v) :: es) :=
      key_aliases_subset (e := (k, v)) List.mem_cons_self
    have hv : v.aliases ⊆ entriesAliases ((k, v) :: es) :=
      value_aliases_subset (e := (k, v)) List.mem_cons_self
    simp only [Decode.fillEntries]
    split
    · exact hrest old done taken
    · refine .bind (follows_setTaken none) fun _ => ?_
      refine .bind ((followsNodes_keyText hd hends fuel false (.refl k) nofun).mono hk)
        fun key? => ?_
      cases key? with
      | none => exact hrest old done taken
      | some key =>
        dsimp only
        cases claim (.text key) taken with
        | none => exact hrest old done taken
        | some taken =>
          dsimp only
          cases shape.under? key with
          | none => exact hrest old done taken
          | some inner =>
            dsimp only
            split
            · exact .bind (follows_note _) fun _ => hrest old done taken
            · exact .bind ((ih.fillShape inner _ false h nofun).mono hv) fun new => hrest _ _ taken

theorem fillMerged_succ (ih : FollowsRecords name d d' fuel) {ns ns' : List Node} (shape : Shape)
    (old : Filled) (h : List.Forall₂ (Inlined name d) ns ns') :
    Follows name d d' (itemsAliases ns) false (Decode.fillMerged (fuel + 1) shape old ns)
      (Decode.fillMerged (extra + fuel + 1) shape old ns') := by
  cases h with
  | nil => exact .pure old
  | cons h hns =>
    refine .bind ((ih.fillShape shape old false h nofun).mono (List.subset_append_left _ _))
      fun new => ?_
    exact (ih.fillMerged shape new hns).mono (List.subset_append_right _ _)

end FollowsRecords

theorem followsRecords (hd : d.Inlines name d') (hends : d.AliasesEnd name) (fuel : Nat) :
    FollowsRecords name d d' fuel := by
  induction fuel with
  | zero =>
    exact ⟨fun _ _ _ _ _ _ _ _ => .refused, fun _ _ _ _ _ => .refused, fun _ _ _ => .refused,
      fun _ _ _ _ _ => .refused, fun _ _ _ => .refused⟩
  | succ fuel ih =>
    exact ⟨ih.fillShape_succ hd hends, ih.fillMapping_succ, ih.fillRecord_succ hd hends,
      ih.fillEntries_succ hd hends, ih.fillMerged_succ⟩

theorem Follows.run {α : Type} {as : List Alias} {x x' : Decode α}
    (h : Follows name d d' as false x x') (has : d.Known name as) {l l' : Library}
    (hl : Library.Inlines name d d' l l') :
    (x.run l).Matches (· = .refused .excessiveAliasing) (x'.run l') := by
  have hstart := h ⟨l, []⟩ ⟨l', []⟩ ⟨[], 0, 0, none⟩ ⟨[], 0, 0, none⟩ ⟨hl, nofun, nofun⟩
    (fun a ha hname => ⟨has a ha hname, nofun⟩) nofun ⟨rfl, rfl, Nat.le_refl 0, Nat.le_refl 0⟩
  unfold Decode.run StateT.run ReaderT.run
  revert hstart
  generalize x ⟨l, []⟩ ⟨[], 0, 0, none⟩ = r, x' ⟨l', []⟩ ⟨[], 0, 0, none⟩ = r'
  intro hstart
  cases hstart with
  | @value a s s' hs =>
    show (if s.mismatches.isEmpty then Except.ok a else _).Matches _
      (if s'.mismatches.isEmpty then _ else _)
    rw [hs.mismatches]
    exact .refl _
  | failure e e' => exact .error e e'
  | refusal r =>
    refine .excused ?_ _
    rfl

end Decode

namespace Library

variable {l l' : Library} {n n' : Node} (hd : d.Inlines name d')
  (hl : Library.Inlines name d d' l l') (h : Copied name d n n')

include hd hl h in
/-- There is at least as much fuel for copies. -/
theorem exists_extra_fuel :
    ∃ extra, 3 * l'.reach * (n'.size + 1) = extra + 3 * l.reach * (n.size + 1) :=
  Nat.exists_eq_add_of_le'
    (Nat.mul_le_mul (Nat.mul_le_mul_left 3 (hl.reach_le hd))
      (Nat.add_le_add_right h.inlined.size_le 1))

variable (hends : d.AliasesEnd name)

include hd hl h hends

theorem value_inlined : (l.value n).Matches (· = .refused .excessiveAliasing) (l'.value n') := by
  obtain ⟨extra, hfuel⟩ := exists_extra_fuel hd hl h
  rw [value, value, hfuel]
  exact ((Decode.followsValues hd hends _).value false h.inlined nofun).run h.known hl

theorem fill_inlined (shape : Shape) :
    (l.fill shape n).Matches (· = .refused .excessiveAliasing) (l'.fill shape n') := by
  obtain ⟨extra, hfuel⟩ := exists_extra_fuel hd hl h
  rw [fill, fill, hfuel]
  exact ((Decode.followsRecords hd hends _).fillShape shape shape.blank false h.inlined nofun).run
    h.known hl

end Library

end PayloadGen.Yaml
