import PayloadGen.Proofs.Reference.Reach
import PayloadGen.Proofs.Yaml.Inlined

/-!
# References where aliases are replaced by copies

Replacing references replaces aliases as well. So it gives the same node whether it starts from a
document or from the document with copies in place of aliases, and it ends for both or for neither
(`resolve_inlined`). References may lead to other documents and back; the libraries along the two
runs differ in the one document only.
-/

namespace PayloadGen

open Text Yaml

variable {name : String} {d d' : Document}

namespace Pointer

variable {at? at?' : Anchor → Option Node}

/-- Anchors lead to the same nodes but for copies. -/
structure InlinedAnchors (name : String) (d : Document) (at? at?' : Anchor → Option Node) :
    Prop where
  inside : ∀ a, Option.Rel (InlinedInside name d) (at? a) (at?' a)
  known : ∀ a t, at? a = some t → d.Known name t.aliases
  own : ∀ a, a.document = name → at? a = d.anchors[a.number]?

theorem follow_inlined (hat : InlinedAnchors name d at? at?') {n n' : Node}
    (h : Copied name d n n') :
    InlinedInside name d (follow at? n) (follow at?' n') ∧ d.Known name (follow at? n).aliases := by
  obtain ⟨h, hknown⟩ := h
  cases h with
  | inside h =>
    cases h with
    | kept line column label target =>
      have hinside := hat.inside target
      have hknown' := hat.known target
      simp only [follow]
      revert hinside hknown'
      cases at? target <;> cases at?' target <;> intro hinside hknown' <;> cases hinside
      · exact ⟨.refl _, hknown⟩
      · rename_i h
        exact ⟨h, hknown' _ rfl⟩
    | scalar line tag text isPlain => exact ⟨.scalar line tag text isPlain, hknown⟩
    | sequence line tag h => exact ⟨.sequence line tag h, hknown⟩
    | mapping line tag h => exact ⟨.mapping line tag h, hknown⟩
  | @replaced line column label target t t' hname htarget halias h =>
    have hat : at? target = some t ∧ d.Known name t.aliases :=
      ⟨(hat.own target hname).trans htarget,
        hat.known target t ((hat.own target hname).trans htarget)⟩
    have hleft : follow at? (.aliasOf line column label target) = t := by simp [follow, hat.1]
    have hright : follow at?' n' = n' := by
      have halias' := h.isAlias.trans halias
      cases n' with
      | aliasOf => cases halias'
      | _ => rfl
    rw [hleft, hright]
    exact ⟨h, hat.2⟩

theorem descend_inlined (hat : InlinedAnchors name d at? at?') (pointer : String) {n n' : Node}
    (h : Copied name d n n') (part : List Char) :
    (descend at? pointer n part).Rel (Copied name d) (descend at?' pointer n' part) := by
  obtain ⟨hfollow, hknown⟩ := follow_inlined hat h
  unfold descend
  revert hfollow hknown
  generalize follow at? n = m, follow at?' n' = m'
  intro hfollow hknown
  cases token part with
  | error e => exact .error e
  | ok t =>
    simp only [bind, Except.bind]
    cases hfollow with
    | scalar | kept => exact .error _
    | @sequence line tag items items' h =>
      cases index? t with
      | none => exact .error _
      | some i =>
        have hitem := getElem?_of_forall₂ h.forall₂ i
        simp only [Option.bind_some]
        revert hitem
        cases hi : items[i]? <;> cases items'[i]? <;> intro hitem <;> cases hitem
        · exact .error _
        · rename_i h
          exact .ok ⟨h, hknown.mono (aliases_subset_items (List.mem_of_getElem? hi))⟩
    | @mapping line tag entries entries' h =>
      have hentry := h.find? fun k => utf8 k.label == t
      dsimp only
      revert hentry
      cases hfind : entries.find? fun e => utf8 e.1.label == t <;>
        cases entries'.find? (fun e => utf8 e.1.label == t) <;> intro hentry <;> cases hentry
      · exact .error _
      · rename_i h
        have hmem := List.mem_of_find?_eq_some hfind
        exact .ok ⟨h.value, hknown.mono (aliases_subset_of_mem_children (List.mem_map_of_mem hmem))⟩

theorem walk_inlined (hat : InlinedAnchors name d at? at?') {root root' : Node}
    (h : Copied name d root root') (pointer : String) :
    (walk at? root pointer).Rel (Copied name d) (walk at?' root' pointer) := by
  unfold walk
  split
  · exact .ok h
  · exact .ok h
  · rename_i rest _ _
    generalize List.splitOn '/' rest = parts
    induction parts generalizing root root' with
    | nil => exact .ok h
    | cons part parts ih =>
      rw [List.foldlM_cons, List.foldlM_cons]
      have hstep := descend_inlined hat pointer h part
      revert hstep
      generalize descend at? pointer root part = r, descend at?' pointer root' part = r'
      intro hstep
      cases hstep with
      | error e => exact .error e
      | ok h => exact ih h
  · exact .error _

end Pointer

namespace References

variable {files : Option FileSource} {file ref : String} {stack : List String} {n n' : Node}
  {l l' : Library}

/-- The copies do not make or change a reference. -/
theorem refOf?_inlined (h : InlinedInside name d n n') : refOf? n' = refOf? n := by
  cases h with
  | scalar | kept | sequence => rfl
  | @mapping line tag entries entries' h =>
    have hentry := h.find? fun k => k.label == "$ref"
    unfold refOf? Node.entryAt?
    dsimp only
    revert hentry
    cases hfind : entries.find? fun e => e.1.label == "$ref" <;>
      cases entries'.find? (fun e => e.1.label == "$ref") <;> intro hentry <;> cases hentry
    · rfl
    · rename_i e e' h
      have hlabel : e.1.label = "$ref" := by simpa using List.find?_some hfind
      obtain ⟨k, v⟩ := e
      obtain ⟨k', v'⟩ := e'
      obtain ⟨-, hvalue, hinlinable⟩ := h
      simp only [Option.map_some] at hlabel hvalue hinlinable ⊢
      cases hvalue with
      | inside h => cases h <;> rfl
      | replaced =>
        rcases hinlinable rfl with rfl | hinlinable
        · rfl
        · cases v' with
          | scalar => exact absurd hlabel hinlinable
          | _ => rfl

/-- A document that is loaded has no aliases that lead to another one. -/
theorem document_of_mem_aliases_load {other : String} {e : Document}
    (h : load files other = .ok e) {a : Alias} (ha : a ∈ e.aliases) :
    a.target.document = other := by
  obtain ⟨source, text, parsed, -, -, -, rfl⟩ := load_eq_ok.1 h
  rcases List.mem_append.1 ha with ha | ha
  · exact document_of_mem_aliases_mapDocuments other parsed.root a ha
  · exact document_of_mem_itemsAliases_mapItems other parsed.anchors a ha

/-- What is found in two libraries: a document that is the same but for copies, and the libraries
afterwards. -/
structure Found (name : String) (d d' : Document) (p p' : Document × Library) : Prop where
  root : InlinedInside name d p.1.root p'.1.root
  anchors : List.Forall₂ (InlinedInside name d) p.1.anchors p'.1.anchors
  known : d.Known name p.1.aliases
  library : Library.Inlines name d d' p.2 p'.2

theorem Found.other {e : Document} (he : ∀ a ∈ e.aliases, a.target.document ≠ name)
    (hl : Library.Inlines name d d' l l') : Found name d d' (e, l) (e, l') :=
  ⟨.refl _, List.forall₂_same.2 fun t _ => .refl t, fun a ha hname => absurd hname (he a ha), hl⟩

theorem document_inlined (files : Option FileSource) (hd : d.Inlines name d')
    (hl : Library.Inlines name d d' l l') (file : String) :
    (document files l file).Rel (Found name d d') (document files l' file) := by
  unfold document
  by_cases hfile : file = name
  · subst hfile
    rw [hl.present, hl.find?_self]
    exact .ok ⟨hd.root, hd.anchors, fun a ha _ => ha, hl⟩
  · obtain ⟨hfind, haliases⟩ := hl.find?_other hfile
    rw [hfind]
    cases he : Pairs.find? file l with
    | some e => exact .ok (.other (haliases e he) hl)
    | none =>
      cases hload : load files file with
      | error e => exact .error e
      | ok e =>
        have haliases : ∀ a ∈ e.aliases, a.target.document ≠ name :=
          fun a ha hname => hfile ((document_of_mem_aliases_load hload ha).symm.trans hname)
        exact .ok (.other haliases (hl.insert hfile haliases))

theorem inlinedAnchors (files : Option FileSource) (hd : d.Inlines name d')
    (hl : Library.Inlines name d d' l l') :
    Pointer.InlinedAnchors name d (anchored? files l) (anchored? files l') := by
  have hpair : ∀ a : Anchor, Option.Rel (InlinedInside name d) (anchored? files l a)
      (anchored? files l' a) ∧
      ∀ t, anchored? files l a = some t → d.Known name t.aliases := by
    intro a
    have hfound := document_inlined files hd hl a.document
    unfold anchored?
    revert hfound
    generalize document files l a.document = r, document files l' a.document = r'
    intro hfound
    cases hfound with
    | error e => exact ⟨.none, nofun⟩
    | ok h =>
      refine ⟨getElem?_of_forall₂ h.anchors a.number, fun t ht => h.known.mono ?_⟩
      exact List.Subset.trans (aliases_subset_items (List.mem_of_getElem? ht))
        (List.subset_append_right _ _)
  refine ⟨fun a => (hpair a).1, fun a => (hpair a).2, fun a ha => ?_⟩
  unfold anchored? document
  rw [ha, hl.present]
  rfl

theorem lookup_inlined (files : Option FileSource) (hd : d.Inlines name d')
    (hl : Library.Inlines name d d' l l') (file ref : String) :
    ∃ r r' l₁ l₁', lookup files file ref l = (r, l₁) ∧ lookup files file ref l' = (r', l₁') ∧
      r.Rel (Copied name d) r' ∧ Library.Inlines name d d' l₁ l₁' := by
  refine ⟨(lookup files file ref l).1, (lookup files file ref l').1, (lookup files file ref l).2,
    (lookup files file ref l').2, rfl, rfl, ?_⟩
  have hfound := document_inlined files hd hl (targetFile file ref)
  unfold lookup
  revert hfound
  generalize document files l (targetFile file ref) = r,
    document files l' (targetFile file ref) = r'
  intro hfound
  cases hfound with
  | error e => exact ⟨.error e, hl⟩
  | ok h =>
    refine ⟨?_, h.library⟩
    exact Pointer.walk_inlined (inlinedAnchors files hd h.library)
      ⟨.inside h.root, h.known.mono (List.subset_append_left _ _)⟩ _

theorem target?_inlined (files : Option FileSource) (hd : d.Inlines name d')
    (hl : Library.Inlines name d d' l l') (h : InlinedInside name d n n') :
    Option.Rel (Copied name d) (target? files l n) (target? files l' n') := by
  cases h with
  | kept line column label a =>
    have hat := inlinedAnchors files hd hl
    have hinside := hat.inside a
    have hknown := hat.known a
    unfold target?
    dsimp only
    revert hinside hknown
    generalize anchored? files l a = t, anchored? files l' a = t'
    intro hinside hknown
    cases hinside with
    | none => exact .none
    | some h => exact .some ⟨.inside h, hknown _ rfl⟩
  | scalar | sequence | mapping => exact .none

/-- After an alias has been followed if there is a copy, the two nodes are of the same kind. -/
theorem exists_inside (files : Option FileSource) (hd : d.Inlines name d')
    (hl : Library.Inlines name d d' l l') (h : Copied name d n n') :
    ∃ m, InlinedInside name d m n' ∧ d.Known name m.aliases ∧
      (m = n ∨ target? files l n = some m) := by
  obtain ⟨h, hknown⟩ := h
  cases h with
  | inside h => exact ⟨n, h, hknown, .inl rfl⟩
  | @replaced line column label target t t' hname htarget halias h =>
    have hat := inlinedAnchors files hd hl
    have htarget' : anchored? files l target = some t := (hat.own target hname).trans htarget
    exact ⟨t, h, hat.known target t htarget', .inr htarget'⟩

theorem resolve_eq_of_inside {m : Node} (h : m = n ∨ target? files l n = some m) :
    resolve files file stack n l = resolve files file stack m l := by
  rcases h with rfl | h
  · rfl
  · exact resolve_follow h

/-- A reference is no alias. -/
theorem inside_of_refOf? (h : Copied name d n n') (href : refOf? n = some ref) :
    InlinedInside name d n n' := by
  cases h.inlined with
  | inside h => exact h
  | replaced => cases href

theorem children_copied (h : InlinedInside name d n n') (hknown : d.Known name n.aliases) :
    List.Forall₂ (Copied name d) n.children n'.children := by
  have hforall := h.children
  have hsubset : ∀ c ∈ n.children, c.aliases ⊆ n.aliases :=
    fun c hc => aliases_subset_of_mem_children hc
  revert hforall hsubset
  generalize n.children = cs, n'.children = cs'
  intro hforall hsubset
  induction hforall with
  | nil => exact .nil
  | cons h _ ih =>
    exact .cons ⟨h, hknown.mono (hsubset _ List.mem_cons_self)⟩
      (ih fun c hc => hsubset c (List.mem_cons_of_mem _ hc))

/-- The run comes to the same result and to a library that differs in the document only. -/
def Repeats (name : String) (d d' : Document) {α : Type} (aliasesOf : α → List Alias)
    (o : Outcome α) (run : Option (Outcome α)) : Prop :=
  ∃ l', run = some (o.1, l') ∧ Library.Inlines name d d' o.2 l' ∧ ∀ a, o.1 = .ok a →
    d.Known name (aliasesOf a)

theorem runInduction_inlined (files : Option FileSource) (hd : d.Inlines name d') :
    RunInduction files
      (fun file stack n l o => ∀ n' l', Copied name d n n' → Library.Inlines name d d' l l' →
        Repeats name d d' Node.aliases o (resolve files file stack n' l'))
      (fun file stack ns l o => ∀ ns' l', List.Forall₂ (Copied name d) ns ns' →
        Library.Inlines name d d' l l' →
        Repeats name d d' itemsAliases o (resolveAll files file stack ns' l')) where
  follow {file stack n t l o} htarget _ ih := by
    intro n' l' h hl
    obtain ⟨m, hm, hknown, hmn⟩ := exists_inside files hd hl h
    rcases hmn with rfl | hmn
    · -- The alias is there still, and its target is the same but for copies.
      obtain ⟨t', ht', htt'⟩ := rel_some_left (htarget ▸ target?_inlined files hd hl hm)
      rw [resolve_follow ht']
      exact ih t' l' htt' hl
    · obtain rfl : t = m := Option.some.inj (htarget.symm.trans hmn)
      exact ih n' l' ⟨.inside hm, hknown⟩ hl
  lost {file stack n ref l e l'} href hlookup := by
    intro n' k h hl
    obtain ⟨r, r', l₁, k₁, hl₁, hk₁, hrel, hlibrary⟩ := lookup_inlined files hd hl file ref
    cases hlookup.symm.trans hl₁
    cases hrel
    exact ⟨k₁, resolve_lost ((refOf?_inlined (inside_of_refOf? h href)).trans href) hk₁,
      hlibrary, nofun⟩
  circular {file stack n ref l t l'} href hlookup hkey := by
    intro n' k h hl
    obtain ⟨r, r', l₁, k₁, hl₁, hk₁, hrel, hlibrary⟩ := lookup_inlined files hd hl file ref
    cases hlookup.symm.trans hl₁
    cases hrel
    exact ⟨k₁, resolve_circular ((refOf?_inlined (inside_of_refOf? h href)).trans href) hk₁ hkey,
      hlibrary, nofun⟩
  reference {file stack n ref l t l' o} href hlookup hkey _ ih := by
    intro n' k h hl
    obtain ⟨r, r', l₁, k₁, hl₁, hk₁, hrel, hlibrary⟩ := lookup_inlined files hd hl file ref
    cases hlookup.symm.trans hl₁
    cases hrel with
    | ok htarget =>
      rw [resolve_reference ((refOf?_inlined (inside_of_refOf? h href)).trans href) hk₁ hkey]
      exact ih _ k₁ htarget hlibrary
  parts {file stack n l r l'} htarget href _ ih := by
    intro n' k h hl
    obtain ⟨m, hm, hknown, hmn⟩ := exists_inside files hd hl h
    obtain rfl : m = n := hmn.resolve_right fun hmn => by cases htarget.symm.trans hmn
    obtain ⟨k', hrun, hlibrary, hchildren⟩ := ih n'.children k (children_copied hm hknown) hl
    have htarget' : target? files k n' = none :=
      rel_none_left (htarget ▸ target?_inlined files hd hl hm)
    refine ⟨k', ?_, hlibrary, fun t ht => ?_⟩
    · rw [resolve_parts htarget' ((refOf?_inlined hm).trans href), hrun, funext hm.withChildren]
      rfl
    · obtain ⟨cs, hcs, rfl⟩ := Except.map_eq_ok_iff.1 ht
      refine Document.Known.mono (aliases_withChildren_subset m cs) fun a ha => ?_
      exact (List.mem_append.1 ha).elim (hknown a) (hchildren cs hcs a)
  nil {file stack l} := by
    intro ns' k h hl
    cases h
    exact ⟨k, resolveAll_nil, hl, fun ms hms => by cases hms; exact nofun⟩
  fail {file stack n ns l e l'} _ ih := by
    intro ns' k h hl
    cases h with
    | cons h hns =>
      obtain ⟨k', hrun, hlibrary, -⟩ := ih _ k h hl
      exact ⟨k', resolveAll_cons_error hrun, hlibrary, nofun⟩
  cons {file stack n m ns l l₁ r l'} _ ihNode _ ihNodes := by
    intro ns' k h hl
    cases h with
    | cons h hns =>
      obtain ⟨k₁, hnode, hl₁, hm⟩ := ihNode _ k h hl
      obtain ⟨k', hnodes, hl', hms⟩ := ihNodes _ k₁ hns hl₁
      refine ⟨k', ?_, hl', fun ms hr => ?_⟩
      · rw [resolveAll_cons_ok hnode, hnodes]
        rfl
      · obtain ⟨ms', hms', rfl⟩ := Except.map_eq_ok_iff.1 hr
        exact fun a ha => (List.mem_append.1 ha).elim (hm m rfl a) (hms ms' hms' a)

/-- If the run for the node with copies ends, so does the run for the node. -/
theorem runInduction_ends (files : Option FileSource) (hd : d.Inlines name d') :
    RunInduction files
      (fun file stack n' k _ => ∀ n l, Copied name d n n' → Library.Inlines name d d' l k →
        ∃ o, resolve files file stack n l = some o)
      (fun file stack ns' k _ => ∀ ns l, List.Forall₂ (Copied name d) ns ns' →
        Library.Inlines name d d' l k →
        ∃ o, resolveAll files file stack ns l = some o) where
  follow {file stack n' t' k o} htarget _ ih := by
    intro n l h hl
    obtain ⟨m, hm, -, hmn⟩ := exists_inside files hd hl h
    obtain ⟨t, ht, htt'⟩ := rel_some_right (htarget ▸ target?_inlined files hd hl hm)
    rw [resolve_eq_of_inside hmn, resolve_follow ht]
    exact ih t l htt' hl
  lost {file stack n' ref k e k'} href hlookup := by
    intro n l h hl
    obtain ⟨m, hm, -, hmn⟩ := exists_inside files hd hl h
    obtain ⟨r, r', l₁, k₁, hl₁, hk₁, hrel, -⟩ := lookup_inlined files hd hl file ref
    cases hlookup.symm.trans hk₁
    cases hrel
    rw [resolve_eq_of_inside hmn]
    exact ⟨_, resolve_lost ((refOf?_inlined hm).symm.trans href) hl₁⟩
  circular {file stack n' ref k t' k'} href hlookup hkey := by
    intro n l h hl
    obtain ⟨m, hm, -, hmn⟩ := exists_inside files hd hl h
    obtain ⟨r, r', l₁, k₁, hl₁, hk₁, hrel, -⟩ := lookup_inlined files hd hl file ref
    cases hlookup.symm.trans hk₁
    cases hrel
    rw [resolve_eq_of_inside hmn]
    exact ⟨_, resolve_circular ((refOf?_inlined hm).symm.trans href) hl₁ hkey⟩
  reference {file stack n' ref k t' k' o} href hlookup hkey _ ih := by
    intro n l h hl
    obtain ⟨m, hm, -, hmn⟩ := exists_inside files hd hl h
    obtain ⟨r, r', l₁, k₁, hl₁, hk₁, hrel, hlibrary⟩ := lookup_inlined files hd hl file ref
    cases hlookup.symm.trans hk₁
    cases hrel with
    | ok htarget =>
      rw [resolve_eq_of_inside hmn,
        resolve_reference ((refOf?_inlined hm).symm.trans href) hl₁ hkey]
      exact ih _ l₁ htarget hlibrary
  parts {file stack n' k r k'} htarget href _ ih := by
    intro n l h hl
    obtain ⟨m, hm, hknown, hmn⟩ := exists_inside files hd hl h
    have htarget' : target? files l m = none :=
      rel_none_right (htarget ▸ target?_inlined files hd hl hm)
    obtain ⟨o, ho⟩ := ih m.children l (children_copied hm hknown) hl
    rw [resolve_eq_of_inside hmn, resolve_parts htarget' ((refOf?_inlined hm).symm.trans href), ho]
    exact ⟨_, rfl⟩
  nil {file stack k} := by
    intro ns l h hl
    cases h
    exact ⟨_, resolveAll_nil⟩
  fail {file stack n' ns' k e k'} hrun ih := by
    intro ns l h hl
    cases h with
    | cons h hns =>
      obtain ⟨⟨r, l₁⟩, ho⟩ := ih _ l h hl
      obtain ⟨k₁, hrun', -⟩ := (runInduction_inlined files hd).resolve ho _ k h hl
      cases hrun.symm.trans hrun'
      exact ⟨_, resolveAll_cons_error ho⟩
  cons {file stack n' m ns' k k₁ r k'} hrun ihNode _ ihNodes := by
    intro ns l h hl
    cases h with
    | cons h hns =>
      obtain ⟨⟨r, l₁⟩, ho⟩ := ihNode _ l h hl
      obtain ⟨k₂, hrun', hlibrary, -⟩ := (runInduction_inlined files hd).resolve ho _ k h hl
      cases hrun.symm.trans hrun'
      obtain ⟨o, hns⟩ := ihNodes _ l₁ hns hlibrary
      rw [resolveAll_cons_ok ho, hns]
      exact ⟨_, rfl⟩

/-- **Replacing references does not tell copies from aliases.** A node and the node with copies in
place of aliases are replaced by the same, or neither replacement ends. -/
theorem resolve_inlined (files : Option FileSource) (hd : d.Inlines name d')
    (hl : Library.Inlines name d d' l l') (h : Copied name d n n') (file : String)
    (stack : List String) :
    resolve files file stack n l = none ∧ resolve files file stack n' l' = none ∨
      ∃ r l₁ l₁', resolve files file stack n l = some (r, l₁) ∧
      resolve files file stack n' l' = some (r, l₁') ∧
        Library.Inlines name d d' l₁ l₁' ∧ ∀ m, r = .ok m → d.Known name m.aliases := by
  cases hrun : resolve files file stack n l with
  | some o =>
    obtain ⟨l₁', hrun', hlibrary, hknown⟩ := (runInduction_inlined files hd).resolve hrun n' l' h hl
    exact .inr ⟨o.1, o.2, l₁', rfl, hrun', hlibrary, hknown⟩
  | none =>
    refine .inl ⟨rfl, ?_⟩
    cases hrun' : resolve files file stack n' l' with
    | none => rfl
    | some o' =>
      obtain ⟨o, ho⟩ := (runInduction_ends files hd).resolve hrun' n l h hl
      cases hrun.symm.trans ho

end References

end PayloadGen
