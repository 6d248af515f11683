import PayloadGen.Proofs.Dict
import PayloadGen.Proofs.Reference.Run

/-!
# The library of documents is transparent

Documents that have been read are kept in a library, and a replacement of references finds them
there. Two libraries agree if every name leads to the same document in both, be it from the library
or from the file. Looking up a reference keeps a library in agreement with itself (`Agree.lookup`),
and libraries in agreement give the same results (`resolve_agree`). So what a replacement gives does
not depend on what has been replaced before (`resolve_independent_of_earlier`).
-/

namespace PayloadGen.References

open Yaml

variable {files : Option FileSource} {file ref name : String} {stack : List String} {n t : Node}
  {l l' k : Library} {d : Document}

/-! ## Documents -/

theorem load_eq_ok :
    load files name = .ok d ↔
      ∃ source text parsed, files = some source ∧ source.read name = .ok text ∧
        Document.parse text = .ok (some parsed) ∧ d = parsed.mapDocuments fun _ => name := by
  cases files with
  | none => simp [load, throw, throwThe, MonadExceptOf.throw]
  | some source =>
    cases hread : source.read name with
    | error e => simp [load, hread, bind, Except.bind, Except.mapError]
    | ok text =>
      cases hparse : Document.parse text with
      | error e =>
        simp [load, hread, bind, Except.bind, Except.mapError, Document.read, hparse, Except.map]
      | ok parsed? =>
        cases parsed? with
        | none =>
          simp [load, hread, bind, Except.bind, Except.mapError, Document.read, hparse, Except.map,
            throw, throwThe, MonadExceptOf.throw]
        | some parsed =>
          simp [load, hread, bind, Except.bind, Except.mapError, Document.read, hparse, Except.map,
            pure, Except.pure, eq_comm]

/-! ## Libraries in agreement -/

/-- The document of a name, from the library or from its file. -/
def documentOf (files : Option FileSource) (l : Library) (name : String) :
    Except LookupError Document :=
  (document files l name).map (·.1)

theorem documentOf_eq (files : Option FileSource) (l : Library) (name : String) :
    documentOf files l name =
      match Pairs.find? name l with
      | some d => .ok d
      | none => load files name := by
  unfold documentOf document
  cases Pairs.find? name l with
  | some d => rfl
  | none => cases load files name <;> rfl

/-- Every name leads to the same document in both libraries. -/
def Agree (files : Option FileSource) (l k : Library) : Prop :=
  documentOf files l = documentOf files k

/-- A document that is found is that of the name, and finding it changes no answer. -/
theorem document_eq_ok (h : document files l name = .ok (d, l')) :
    documentOf files l name = .ok d ∧ Agree files l l' := by
  refine ⟨by simp [documentOf, h, Except.map], ?_⟩
  funext other
  unfold document at h
  split at h
  · cases h
    rfl
  · rename_i hnone
    obtain ⟨d', hload, hpair⟩ := Except.map_eq_ok_iff.1 h
    cases hpair
    simp only [documentOf_eq, Pairs.find?_insert]
    by_cases hother : other = name
    · subst hother
      simp [hnone, hload]
    · simp [hother]

theorem anchored?_eq (files : Option FileSource) (l : Library) (a : Anchor) :
    anchored? files l a =
      (documentOf files l a.document).toOption.bind fun d => d.anchors[a.number]? := by
  unfold anchored? documentOf
  cases document files l a.document <;> rfl

namespace Agree

theorem refl (l : Library) : Agree files l l := rfl

theorem symm (h : Agree files l k) : Agree files k l := Eq.symm h

theorem trans {k' : Library} (h : Agree files l k) (h' : Agree files k k') : Agree files l k' :=
  Eq.trans h h'

theorem anchored? (h : Agree files l k) : anchored? files l = anchored? files k := by
  funext a
  rw [anchored?_eq, anchored?_eq, h]

theorem target? (h : Agree files l k) (n : Node) : target? files l n = target? files k n := by
  cases n with
  | aliasOf line column name a => exact congrFun h.anchored? a
  | _ => rfl

end Agree

/-- The target of a reference in terms of the documents that the library leads to. -/
theorem lookup_fst (files : Option FileSource) (file ref : String) (l : Library) :
    (lookup files file ref l).1 =
      (documentOf files l (targetFile file ref)).bind fun d =>
        Pointer.walk (anchored? files l) d.root (parts ref).2 := by
  unfold lookup
  split
  · rename_i e h
    simp [documentOf, h, Except.map, Except.bind]
  · rename_i d l' h
    obtain ⟨hd, hagree⟩ := document_eq_ok h
    simp [hd, Except.bind, hagree.anchored?]

/-- A lookup that is known by its target and its library. -/
theorem lookup_eq_of_toOption {l' : Library}
    (h : ((lookup files file ref l).1.toOption, (lookup files file ref l).2) = (some t, l')) :
    lookup files file ref l = (.ok t, l') := by
  obtain ⟨ht, hl⟩ := Prod.mk.inj h
  exact Prod.ext (Except.toOption_eq_some_iff.1 ht) hl

namespace Agree

/-- Looking up a reference keeps every answer of the library. -/
theorem of_lookup (files : Option FileSource) (file ref : String) (l : Library) :
    Agree files l (lookup files file ref l).2 := by
  unfold lookup
  split
  · exact refl l
  · rename_i h
    exact (document_eq_ok h).2

theorem of_lookup_eq {r : Except LookupError Node} (h : lookup files file ref l = (r, l')) :
    Agree files l l' := by
  simpa [h] using of_lookup files file ref l

/-- Libraries in agreement have the same targets of references, and are in agreement afterwards. -/
theorem lookup {r : Except LookupError Node} (h : Agree files l k)
    (hl : lookup files file ref l = (r, l')) :
    ∃ k', lookup files file ref k = (r, k') ∧ Agree files l' k' := by
  refine ⟨_, Prod.ext ?_ rfl, (of_lookup_eq hl).symm.trans (h.trans (of_lookup files file ref k))⟩
  show (References.lookup files file ref k).1 = r
  rw [lookup_fst, ← h.anchored?, ← show documentOf files l =
    documentOf files k from h, ← lookup_fst, hl]

end Agree

/-! ## Runs from libraries in agreement -/

/-- A run that is possible from every library in agreement, with the same result and in agreement at
its end. -/
def Repeatable (files : Option FileSource) {α : Type} (run : Library → Option (Outcome α))
    (l : Library) (o : Outcome α) : Prop :=
  Agree files l o.2 ∧ ∀ k, Agree files l k → ∃ k', run k = some (o.1, k') ∧ Agree files o.2 k'

theorem runInduction_repeatable (files : Option FileSource) :
    RunInduction files (fun file stack n l o => Repeatable files (resolve files file stack n) l o)
      (fun file stack ns l o => Repeatable files (resolveAll files file stack ns) l o) where
  follow {file stack n t l o} htarget _ ih := by
    refine ⟨ih.1, fun k hk => ?_⟩
    rw [resolve_follow ((hk.target? n).symm.trans htarget)]
    exact ih.2 k hk
  lost {file stack n ref l e l'} href hlookup := by
    refine ⟨Agree.of_lookup_eq hlookup, fun k hk => ?_⟩
    obtain ⟨k', hlookup', hk'⟩ := hk.lookup hlookup
    exact ⟨k', resolve_lost href hlookup', hk'⟩
  circular {file stack n ref l t l'} href hlookup hkey := by
    refine ⟨Agree.of_lookup_eq hlookup, fun k hk => ?_⟩
    obtain ⟨k', hlookup', hk'⟩ := hk.lookup hlookup
    exact ⟨k', resolve_circular href hlookup' hkey, hk'⟩
  reference {file stack n ref l t l' o} href hlookup hkey _ ih := by
    refine ⟨(Agree.of_lookup_eq hlookup).trans ih.1, fun k hk => ?_⟩
    obtain ⟨k₁, hlookup', hk₁⟩ := hk.lookup hlookup
    rw [resolve_reference href hlookup' hkey]
    exact ih.2 k₁ hk₁
  parts {file stack n l r l'} htarget href _ ih := by
    refine ⟨ih.1, fun k hk => ?_⟩
    obtain ⟨k', hrun, hk'⟩ := ih.2 k hk
    refine ⟨k', ?_, hk'⟩
    rw [resolve_parts ((hk.target? n).symm.trans htarget) href, hrun]
    rfl
  nil {file stack l} := ⟨Agree.refl l, fun k hk => ⟨k, resolveAll_nil, hk⟩⟩
  fail {file stack n ns l e l'} _ ih := by
    refine ⟨ih.1, fun k hk => ?_⟩
    obtain ⟨k', hrun, hk'⟩ := ih.2 k hk
    exact ⟨k', resolveAll_cons_error hrun, hk'⟩
  cons {file stack n m ns l l₁ r l'} _ ihNode _ ihNodes := by
    refine ⟨ihNode.1.trans ihNodes.1, fun k hk => ?_⟩
    obtain ⟨k₁, hnode, hk₁⟩ := ihNode.2 k hk
    obtain ⟨k', hnodes, hk'⟩ := ihNodes.2 k₁ hk₁
    refine ⟨k', ?_, hk'⟩
    rw [resolveAll_cons_ok hnode, hnodes]
    rfl

/-- A run keeps every answer of the library. -/
theorem Agree.of_resolve {o : Outcome Node} (h : resolve files file stack n l = some o) :
    Agree files l o.2 :=
  ((runInduction_repeatable files).resolve h).1

/-- Libraries in agreement give the same result, or none from either. -/
theorem resolve_agree (h : Agree files l k) (file : String) (stack : List String) (n : Node) :
    (resolve files file stack n l).map (·.1) = (resolve files file stack n k).map (·.1) := by
  have hforth : ∀ {l k : Library} {r : Except ReferenceError Node}, Agree files l k →
      (resolve files file stack n l).map (·.1) = some r →
      (resolve files file stack n k).map (·.1) = some r := by
    intro l k r h hr
    obtain ⟨o, ho, rfl⟩ := Option.map_eq_some_iff.1 hr
    obtain ⟨k', hk', -⟩ := ((runInduction_repeatable files).resolve ho).2 k h
    rw [hk']
    rfl
  exact Option.ext fun r => ⟨hforth h, hforth h.symm⟩

/-! ## Libraries along a history -/

/-- The libraries that can arise when the root document has a name: at first, when a reference has
been looked up, and after a replacement, whatever its result. -/
inductive Reached (files : Option FileSource) (name : String) (root : Document) : Library → Prop
  | fresh : Reached files name root [(name, root)]
  | lookup (file ref : String) {l : Library} :
    Reached files name root l → Reached files name root (lookup files file ref l).2
  | replacement {file : String} {n : Node} {l : Library} {o : Outcome Node} :
    Reached files name root l → resolve files file [] n l = some o → Reached files name root o.2

theorem Reached.agree {root : Document} (h : Reached files name root l) :
    Agree files [(name, root)] l := by
  induction h with
  | fresh => exact Agree.refl _
  | lookup file ref _ ih => exact ih.trans (Agree.of_lookup files file ref _)
  | replacement _ hrun ih => exact ih.trans (Agree.of_resolve hrun)

/-- What a library holds that agrees with a root document alone. -/
theorem Agree.entry {root : Document} (h : Agree files [(name, root)] l) {f : String} {d : Document}
    (hd : Pairs.find? f l = some d) : f = name ∧ d = root ∨ f ≠ name ∧ load files f = .ok d := by
  have hf : documentOf files [(name, root)] f = .ok d := by
    rw [show documentOf files [(name, root)] = documentOf files l from h, documentOf_eq, hd]
  rw [documentOf_eq, Pairs.find?_cons] at hf
  by_cases hname : f = name
  · subst hname
    simp only [if_true, Except.ok.injEq] at hf
    exact .inl ⟨rfl, hf.symm⟩
  · exact .inr ⟨hname, by simpa [Ne.symm hname, Pairs.find?] using hf⟩

/-- **What was replaced before does not matter.** In every library that arises, a node has the same
result as with a new library; each entry is the root document or what its file holds; and a file
that cannot be loaded has none. -/
theorem resolve_independent_of_earlier {files : Option FileSource} {name : String} {root : Document}
    {l : Library} (h : Reached files name root l) (file : String) (n : Node) :
    (resolve files file [] n l).map (·.1) = (resolve files file [] n [(name, root)]).map (·.1) ∧
      (∀ f d, Pairs.find? f l = some d → f = name ∧ d = root ∨ f ≠ name ∧ load files f = .ok d) ∧
      ∀ f e, f ≠ name → load files f = .error e → Pairs.find? f l = none := by
  refine ⟨resolve_agree h.agree.symm file [] n, fun f d => h.agree.entry, fun f e hf hload => ?_⟩
  cases hfind : Pairs.find? f l with
  | none => rfl
  | some d =>
    rcases h.agree.entry hfind with ⟨rfl, -⟩ | ⟨-, hok⟩
    · exact absurd rfl hf
    · cases hok.symm.trans hload

/-! ## An example -/

/-- A reference as a node. -/
def refNode (line : Nat) (ref : String) : Node :=
  .mapping line none [(.scalar line none "$ref" true, .scalar line none ref false)]

/-- One file with one entry. -/
def otherFiles : FileSource := .ofDict [("b.yml", "x: 1")]

/-- The document of that file. -/
def otherDocument : Document :=
  ⟨.mapping 1 none [(.scalar 1 none "x" true, .scalar 1 none "1" true)], []⟩

/-- A root document that refers to the file. -/
def rootDocument : Document :=
  ⟨.mapping 1 none [(.scalar 1 none "a" true, refNode 1 "b.yml#/x")], []⟩

/-- A reference to a missing entry fails after its file has been read, and what it leaves behind
changes no other result. -/
theorem resolve_independent_of_earlier_missing :
    ∃ e, resolve (some otherFiles) "a.yml" [] (refNode 1 "b.yml#/y") [("a.yml", rootDocument)] =
        some (.error e, [("a.yml", rootDocument), ("b.yml", otherDocument)]) ∧
      (resolve (some otherFiles) "a.yml" [] rootDocument.root
          [("a.yml", rootDocument), ("b.yml", otherDocument)]).map (·.1) =
        (resolve (some otherFiles) "a.yml" [] rootDocument.root [("a.yml", rootDocument)]).map
          (·.1) := by
  have hlookup : ∃ e, lookup (some otherFiles) "a.yml" "b.yml#/y" [("a.yml", rootDocument)] =
      (.error e, [("a.yml", rootDocument), ("b.yml", otherDocument)]) := by
    have heval :
        ((lookup (some otherFiles) "a.yml" "b.yml#/y" [("a.yml", rootDocument)]).1.toOption,
          (lookup (some otherFiles) "a.yml" "b.yml#/y" [("a.yml", rootDocument)]).2) =
        (none, [("a.yml", rootDocument), ("b.yml", otherDocument)]) := by decide +kernel
    obtain ⟨hnone, hlibrary⟩ := Prod.mk.inj heval
    cases hresult : (lookup (some otherFiles) "a.yml" "b.yml#/y" [("a.yml", rootDocument)]).1 with
    | ok t => simp [hresult, Except.toOption] at hnone
    | error e => exact ⟨e, Prod.ext hresult hlibrary⟩
  obtain ⟨e, hlookup⟩ := hlookup
  have hrun : resolve (some otherFiles) "a.yml" [] (refNode 1 "b.yml#/y")
    [("a.yml", rootDocument)] =
      some (.error (.lookup "b.yml#/y" e), [("a.yml", rootDocument), ("b.yml", otherDocument)]) :=
    resolve_lost rfl hlookup
  exact ⟨_, hrun,
    (resolve_independent_of_earlier (.replacement .fresh hrun) "a.yml" rootDocument.root).1⟩

end PayloadGen.References
