import PayloadGen.Proofs.Reference.Inlined
import PayloadGen.Proofs.Yaml.Plain

/-!
# All aliases replaced

`References.expand` replaces all aliases in the place of values. What it gives is the node with
copies in place of aliases (`inlines_of_expand`), and where there are no references, it is what
replacing references gives as well (`resolve_of_expandWith`). Both are inductions over the
expansion, `expandWith_induction`.
-/

namespace PayloadGen.References

open Yaml

variable {files : Option FileSource} {file name : String} {stack : List String} {l : Library}
  {fuel : Nat} {n n' : Node}

theorem expandItems_eq_some {ns ns' : List Node} (h : expandItems l fuel ns = some ns') :
    List.Forall₂ (fun n n' => ∃ k < fuel, expandWith l k n = some n') ns ns' := by
  induction fuel generalizing ns ns' with
  | zero => cases h
  | succ fuel ih =>
    cases ns with
    | nil =>
      cases h
      exact .nil
    | cons n ns =>
      obtain ⟨m, hm, h⟩ := Option.bind_eq_some_iff.1 h
      obtain ⟨ms, hms, h⟩ := Option.bind_eq_some_iff.1 h
      cases h
      exact .cons ⟨fuel, Nat.lt_succ_self fuel, hm⟩ ((ih hms).imp fun _ _ ⟨k, hk, h⟩ =>
        ⟨k, Nat.lt_succ_of_lt hk, h⟩)

theorem expandEntries_eq_some {es es' : List (Node × Node)}
    (h : expandEntries l fuel es = some es') :
    List.Forall₂ (fun e e' => e'.1 = e.1 ∧ ∃ k < fuel, expandWith l k e.2 = some e'.2) es es' := by
  induction fuel generalizing es es' with
  | zero => cases h
  | succ fuel ih =>
    cases es with
    | nil =>
      cases h
      exact .nil
    | cons e es =>
      obtain ⟨v, hv, h⟩ := Option.bind_eq_some_iff.1 h
      obtain ⟨vs, hvs, h⟩ := Option.bind_eq_some_iff.1 h
      cases h
      exact .cons ⟨rfl, fuel, Nat.lt_succ_self fuel, hv⟩
        ((ih hvs).imp fun _ _ ⟨hkey, k, hk, h⟩ => ⟨hkey, k, Nat.lt_succ_of_lt hk, h⟩)

/-- What holds of scalars, is passed from the target of an alias to the alias and from the parts of
a collection to the collection, holds of every expansion. -/
theorem expandWith_induction {P : Node → Node → Prop}
    (scalar : ∀ line tag text isPlain,
      P (.scalar line tag text isPlain) (.scalar line tag text isPlain))
    (follow : ∀ line column label target t t', l.node? target = some t → P t t' →
      P (.aliasOf line column label target) t')
    (sequence : ∀ line tag items items', List.Forall₂ P items items' →
      P (.sequence line tag items) (.sequence line tag items'))
    (mapping : ∀ line tag entries entries',
      List.Forall₂ (fun e e' => e'.1 = e.1 ∧ P e.2 e'.2) entries entries' →
      P (.mapping line tag entries) (.mapping line tag entries'))
    (h : expandWith l fuel n = some n') : P n n' := by
  induction fuel using Nat.strong_induction_on generalizing n n' with
  | _ fuel ih =>
    cases fuel with
    | zero => cases h
    | succ fuel =>
      cases n with
      | scalar line tag text isPlain =>
        cases h
        exact scalar line tag text isPlain
      | aliasOf line column label target =>
        obtain ⟨t, ht, h⟩ := Option.bind_eq_some_iff.1 h
        exact follow line column label target t n' ht (ih fuel (Nat.lt_succ_self fuel) h)
      | sequence line tag items =>
        obtain ⟨items', hitems, rfl⟩ := Option.map_eq_some_iff.1 h
        refine sequence line tag items items' ((expandItems_eq_some hitems).imp
          fun _ _ ⟨k, hk, h⟩ => ?_)
        exact ih k (Nat.lt_succ_of_lt hk) h
      | mapping line tag entries =>
        obtain ⟨entries', hentries, rfl⟩ := Option.map_eq_some_iff.1 h
        refine mapping line tag entries entries' ((expandEntries_eq_some hentries).imp
          fun _ _ ⟨hkey, k, hk, h⟩ => ?_)
        exact ⟨hkey, ih k (Nat.lt_succ_of_lt hk) h⟩

/-! ## Expanding and copies -/

/-- May copies take the place of all aliases among the values of the mapping? -/
def isReplaceable (d : Document) : Node → Bool
  | .mapping _ _ entries => entries.all fun e =>
    match e.2 with
    | .aliasOf _ _ _ target => d.anchors[target.number]?.all fun t => decide (Inlinable e.1 t)
    | _ => true
  | _ => true

/-- May copies take the place of all aliases among the values of the document? -/
def allReplaceable (d : Document) : Bool :=
  (d.root :: d.anchors).all fun n => !n.isAlias && n.every (isReplaceable d)

theorem node?_single {d : Document} {a : Anchor} {t : Node}
    (h : Library.node? [(name, d)] a = some t) :
    a.document = name ∧ d.anchors[a.number]? = some t := by
  obtain ⟨e, he, ht⟩ := Option.bind_eq_some_iff.1 h
  rw [Pairs.find?_cons] at he
  split at he
  · rename_i hname
    cases he
    exact ⟨hname.symm, ht⟩
  · cases he

/-- In a mapping whose aliases can be replaced, copies are where they can be. -/
theorem inlinedEntry_of_isReplaceable {d : Document} {line : Nat} {tag : Option String}
    {entries : List (Node × Node)} (h : isReplaceable d (.mapping line tag entries))
    {e e' : Node × Node} (he : e ∈ entries) (hkey : e'.1 = e.1) (hv : Inlined name d e.2 e'.2) :
    InlinedEntry name d e e' := by
  refine ⟨hkey, hv, fun halias => ?_⟩
  obtain ⟨k, v⟩ := e
  obtain ⟨k', v'⟩ := e'
  cases hv with
  | inside hv =>
    cases hv with
    | kept => exact .inl rfl
    | scalar | sequence | mapping => cases halias
  | replaced _ _ _ _ htarget _ ht =>
    have hentry := List.all_eq_true.1 h _ he
    simp only [htarget, Option.all_some] at hentry
    exact .inr (ht.inlinable (of_decide_eq_true hentry))

theorem inlined_of_expandWith {d : Document}
    (hanchors : ∀ t ∈ d.anchors, t.isAlias = false ∧ t.every (isReplaceable d))
    (h : expandWith [(name, d)] fuel n = some n') (hn : n.every (isReplaceable d)) :
    Inlined name d n n' ∧ (n.isAlias = false → InlinedInside name d n n') := by
  revert hn
  refine expandWith_induction (P := fun n n' => n.every (isReplaceable d) →
    Inlined name d n n' ∧ (n.isAlias = false → InlinedInside name d n n')) ?_ ?_ ?_ ?_ h
  · exact fun line tag text isPlain _ => ⟨.refl _, fun _ => .refl _⟩
  · intro line column label target t t' ht ih _
    obtain ⟨hname, ht⟩ := node?_single ht
    obtain ⟨halias, hevery⟩ := hanchors t (List.mem_of_getElem? ht)
    exact ⟨.replaced line column label hname ht halias ((ih hevery).2 halias), nofun⟩
  · intro line tag items items' hitems hn
    rw [Node.every, Bool.and_eq_true_iff] at hn
    have hevery : ∀ n ∈ items, n.every (isReplaceable d) := fun n => every_of_mem_items hn.2
    have hinlined : InlinedItems name d items items' :=
      .of_forall₂ (((List.forall₂_and_left _ _).2 ⟨hevery, hitems⟩).imp fun _ _ h => (h.2 h.1).1)
    exact ⟨.inside (.sequence line tag hinlined), fun _ => .sequence line tag hinlined⟩
  · intro line tag entries entries' hentries hn
    rw [Node.every, Bool.and_eq_true_iff] at hn
    have hevery : ∀ e ∈ entries, e ∈ entries ∧ e.2.every (isReplaceable d) :=
      fun e he => ⟨he, every_of_mem_entries hn.2 he⟩
    have hinlined : InlinedEntries name d entries entries' :=
      .of_forall₂ (((List.forall₂_and_left _ _).2 ⟨hevery, hentries⟩).imp fun _ _ h =>
        inlinedEntry_of_isReplaceable hn.1 h.1.1 h.2.1 (h.2.2 h.1.2).1)
    exact ⟨.inside (.mapping line tag hinlined), fun _ => .mapping line tag hinlined⟩

/-- **The document with all aliases replaced is the document with copies in place of aliases**, if
copies may take the place of all of them. -/
theorem inlines_of_expand {d d' : Document} (hd : allReplaceable d)
    (hroot : expand [(name, d)] d.root = some d'.root)
    (hanchors : expandItems [(name, d)] (2 * Library.reach [(name, d)]) d.anchors =
      some d'.anchors) :
    d.Inlines name d' := by
  have hevery : ∀ n ∈ d.root :: d.anchors, n.isAlias = false ∧ n.every (isReplaceable d) := by
    intro n hn
    simpa using List.all_eq_true.1 hd n hn
  have hinside : ∀ fuel n n', n ∈ d.root :: d.anchors → expandWith [(name, d)] fuel n = some n' →
      InlinedInside name d n n' := by
    intro fuel n n' hn h
    have htargets := fun t ht => hevery t (List.mem_cons_of_mem _ ht)
    exact (inlined_of_expandWith htargets h (hevery n hn).2).2 (hevery n hn).1
  refine ⟨hinside _ _ _ List.mem_cons_self hroot, ?_⟩
  have hmem : ∀ t ∈ d.anchors, t ∈ d.root :: d.anchors := fun t ht => List.mem_cons_of_mem _ ht
  refine ((List.forall₂_and_left _ _).2 ⟨hmem, expandItems_eq_some hanchors⟩).imp fun t t' h => ?_
  obtain ⟨ht, k, -, h⟩ := h
  exact hinside k t t' ht h

/-! ## Expanding and replacing references -/

theorem anchored?_of_node? {a : Anchor} {t : Node} (h : l.node? a = some t) :
    anchored? files l a = some t := by
  obtain ⟨d, hd, ht⟩ := Option.bind_eq_some_iff.1 h
  simpa [anchored?, document, hd, Except.toOption] using ht

theorem resolveAll_of_forall₂ {ns ns' : List Node}
    (h : List.Forall₂ (fun n n' => resolve files file stack n l = some (.ok n', l)) ns ns') :
    resolveAll files file stack ns l = some (.ok ns', l) := by
  induction h with
  | nil => exact resolveAll_nil
  | cons hn _ ih =>
    rw [resolveAll_cons_ok hn, ih]
    rfl

/-- If the first node is a scalar, the second one is the same. -/
def SameScalar (n n' : Node) : Prop :=
  ∀ line tag text isPlain, n = .scalar line tag text isPlain → n' = n

/-- A mapping that is no reference after the expansion of its values was none before. -/
theorem refOf?_of_forall₂ {line : Nat} {tag : Option String} {es es' : List (Node × Node)}
    (h : List.Forall₂ (fun e e' => e'.1 = e.1 ∧ SameScalar e.2 e'.2) es es')
    (hes' : refOf? (.mapping line tag es') = none) : refOf? (.mapping line tag es) = none := by
  have hfind :=
    find?_of_forall₂ (p := fun e => e.1.label == "$ref") (q := fun e => e.1.label == "$ref")
      (fun _ _ he => by rw [he.1]) h
  unfold refOf? Node.entryAt? at hes' ⊢
  dsimp only at hes' ⊢
  revert hfind hes'
  generalize es.find? (fun e => e.1.label == "$ref") = x,
    es'.find? (fun e => e.1.label == "$ref") = x'
  intro hes' hfind
  cases hfind with
  | none => rfl
  | @some e e' he =>
    obtain ⟨k, v⟩ := e
    cases v with
    | scalar line tag text isPlain =>
      rw [Option.map_some, he.2 line tag text isPlain rfl] at hes'
      cases hes'
    | _ => rfl

/-- A node is replaced by its expansion if that has no references in it. -/
theorem resolve_of_expandWith (h : expandWith l fuel n = some n')
    (hn' : n'.every fun m => (refOf? m).isNone) (file : String) (stack : List String) :
    resolve files file stack n l = some (.ok n', l) := by
  -- A scalar stays as it is, so what is no reference after the expansion was none before.
  have hboth := expandWith_induction (P := fun n n' => SameScalar n n' ∧
    (n'.every (fun m => (refOf? m).isNone) → resolve files file stack n l = some (.ok n', l)))
      ?_ ?_ ?_ ?_ h
  · exact hboth.2 hn'
  · refine fun line tag text isPlain => ⟨fun _ _ _ _ _ => rfl, fun _ => ?_⟩
    rw [resolve_parts rfl rfl, Node.children, resolveAll_nil]
    rfl
  · intro line column label target t t' ht ih
    refine ⟨by rintro _ _ _ _ ⟨⟩, fun ht' => ?_⟩
    have htarget : target? files l (.aliasOf line column label target) = some t :=
      anchored?_of_node? ht
    rw [resolve_follow htarget]
    exact ih.2 ht'
  · intro line tag items items' hitems
    refine ⟨by rintro _ _ _ _ ⟨⟩, fun hn => ?_⟩
    rw [Node.every, Bool.and_eq_true_iff] at hn
    have hevery : ∀ m ∈ items', m.every (fun m => (refOf? m).isNone) :=
      fun m => every_of_mem_items hn.2
    have hparts := ((List.forall₂_and_left _ _).2 ⟨hevery, hitems.flip⟩).flip.imp fun _ _ h =>
      h.2.2 h.1
    rw [resolve_parts rfl rfl, Node.children, resolveAll_of_forall₂ hparts]
    rfl
  · intro line tag entries entries' hentries
    refine ⟨by rintro _ _ _ _ ⟨⟩, fun hn => ?_⟩
    rw [Node.every, Bool.and_eq_true_iff] at hn
    have hevery : ∀ e ∈ entries', e.2.every (fun m => (refOf? m).isNone) :=
      fun e he => every_of_mem_entries hn.2 he
    have hparts := ((List.forall₂_and_left _ _).2 ⟨hevery, hentries.flip⟩).flip
    have hvalues : List.Forall₂ (fun n n' => resolve files file stack n l = some (.ok n', l))
        (entries.map (·.2))
        (entries'.map (·.2)) := by
      rw [List.forall₂_map_left_iff, List.forall₂_map_right_iff]
      exact hparts.imp fun _ _ h => h.2.2.2 h.1
    have href : refOf? (.mapping line tag entries) = none :=
      refOf?_of_forall₂ (hentries.imp fun _ _ h => ⟨h.1, h.2.1⟩) (Option.isNone_iff_eq_none.1 hn.1)
    have hkeys : entries'.map (·.1) = entries.map (·.1) :=
      map_fst_of_forall₂ (fun _ _ h => h.1) hentries
    rw [resolve_parts rfl href, Node.children, resolveAll_of_forall₂ hvalues]
    simp only [Option.map_some, Except.map,
      withChildren_mapping, ← hkeys, ← List.zip_of_prod rfl rfl]

end PayloadGen.References
