import PayloadGen.Spec.Reference
import PayloadGen.Proofs.Except

/-!
# Runs of the replacement of references

What replacing references does at a node, one equation for each way in which it can go on:

* the node is an alias and its target is replaced instead (`resolve_follow`),
* it is a reference, which is lost (`resolve_lost`), comes back to itself (`resolve_circular`) or is
  followed (`resolve_reference`),
* or its children are replaced one after the other (`resolve_parts`).

`RunInduction` is the induction over the runs that end. Replacing is the least solution of its
equation, so a statement about results that is closed under the cases above holds of every run.
-/

namespace PayloadGen.References

open Yaml

variable {files : Option FileSource} {file ref : String} {stack : List String} {n t m : Node}
  {ns : List Node} {l l' : Library} {e : LookupError} {o : Outcome Node}

/-! ## Nodes -/

/-- The node that an alias stands for. -/
def target? (files : Option FileSource) (l : Library) : Node → Option Node
  | .aliasOf _ _ _ a => anchored? files l a
  | _ => none

theorem target?_eq_some (h : target? files l n = some t) :
    ∃ line column name a, n = .aliasOf line column name a ∧ anchored? files l a = some t := by
  cases n with
  | aliasOf line column name a => exact ⟨line, column, name, a, rfl, h⟩
  | _ => cases h

theorem refOf?_eq_none_of_target? (h : target? files l n = some t) : refOf? n = none := by
  obtain ⟨line, column, name, a, rfl, -⟩ := target?_eq_some h
  rfl

/-- An alias has no children. -/
theorem target?_eq_none_of_mem_children {c : Node} (h : c ∈ n.children) :
    target? files l n = none := by
  cases n with
  | aliasOf line column name a => cases h
  | _ => rfl

theorem resolve_follow (h : target? files l n = some t) :
    resolve files file stack n l = resolve files file stack t l := by
  obtain ⟨line, column, name, a, rfl, ha⟩ := target?_eq_some h
  have hunfold := Place.resolve.eq_def files ⟨file, stack⟩ (.aliasOf line column name a) l
  simp only [ha] at hunfold
  exact hunfold

theorem resolve_of_refOf? (href : refOf? n = some ref) :
    resolve files file stack n l =
      match lookup files file ref l with
      | (.error e, l) => some (.error (.lookup ref e), l)
      | (.ok t, l) =>
        if stack.contains (key file ref) then some (.error (.circular (stack ++ [key file ref])), l)
        else resolve files (targetFile file ref) (stack ++ [key file ref]) t l := by
  cases n with
  | mapping line tag entries =>
    have hunfold := Place.resolve.eq_def files ⟨file, stack⟩ (.mapping line tag entries) l
    simp only [href] at hunfold
    exact hunfold
  | _ => cases href

theorem resolve_lost (href : refOf? n = some ref)
    (hlookup : lookup files file ref l = (.error e, l')) :
    resolve files file stack n l = some (.error (.lookup ref e), l') := by
  rw [resolve_of_refOf? href, hlookup]

theorem resolve_circular (href : refOf? n = some ref)
    (hlookup : lookup files file ref l = (.ok t, l')) (hkey : key file ref ∈ stack) :
    resolve files file stack n l = some (.error (.circular (stack ++ [key file ref])), l') := by
  rw [resolve_of_refOf? href, hlookup]
  simp [hkey]

theorem resolve_reference (href : refOf? n = some ref)
    (hlookup : lookup files file ref l = (.ok t, l')) (hkey : key file ref ∉ stack) :
    resolve files file stack n l =
      resolve files (targetFile file ref) (stack ++ [key file ref]) t l' := by
  rw [resolve_of_refOf? href, hlookup]
  simp [hkey]

theorem resolveAll_nil : resolveAll files file stack [] l = some (.ok [], l) :=
  Place.resolveAll.eq_1 files ⟨file, stack⟩ l

theorem resolve_parts (htarget : target? files l n = none) (href : refOf? n = none) :
    resolve files file stack n l =
      (resolveAll files file stack n.children l).map fun o => (o.1.map n.withChildren, o.2) := by
  have hall : resolve files file stack n l =
      (resolveAll files file stack n.children l).bind fun o =>
        some (o.1.map n.withChildren, o.2) := by
    have hunfold := Place.resolve.eq_def files ⟨file, stack⟩ n l
    cases n with
    | aliasOf line column name a =>
      simp only [show anchored? files l a = none from htarget] at hunfold
      rw [Node.children, resolveAll_nil]
      exact hunfold
    | _ =>
      simp only [href] at hunfold
      exact hunfold
  rw [hall]
  cases resolveAll files file stack n.children l with
  | none => rfl
  | some o => rfl

/-! ## Lists of nodes -/

theorem resolveAll_cons_none (h : resolve files file stack n l = none) :
    resolveAll files file stack (n :: ns) l = none := by
  have hunfold := Place.resolveAll.eq_2 files ⟨file, stack⟩ l n ns
  rw [show Place.resolve files ⟨file, stack⟩ n l = none from h] at hunfold
  exact hunfold

theorem resolveAll_cons_error {e : ReferenceError}
    (h : resolve files file stack n l = some (.error e, l')) :
    resolveAll files file stack (n :: ns) l = some (.error e, l') := by
  have hunfold := Place.resolveAll.eq_2 files ⟨file, stack⟩ l n ns
  rw [show Place.resolve files ⟨file, stack⟩ n l = some (.error e, l') from h] at hunfold
  exact hunfold

theorem resolveAll_cons_ok (h : resolve files file stack n l = some (.ok m, l')) :
    resolveAll files file stack (n :: ns) l =
      (resolveAll files file stack ns l').map fun o => (o.1.map (m :: ·), o.2) := by
  have hunfold := Place.resolveAll.eq_2 files ⟨file, stack⟩ l n ns
  rw [show Place.resolve files ⟨file, stack⟩ n l = some (.ok m, l') from h] at hunfold
  refine hunfold.trans ?_
  show (resolveAll files file stack ns l').bind (fun o => some (o.1.map (m :: ·), o.2)) = _
  cases resolveAll files file stack ns l' with
  | none => rfl
  | some o => rfl

/-- A list is replaced as a whole if its first node and the others are. -/
theorem resolveAll_cons_eq_ok {ms : List Node}
    (h : resolveAll files file stack (n :: ns) l = some (.ok ms, l')) :
    ∃ m l₁ ms', resolve files file stack n l = some (.ok m, l₁) ∧
      resolveAll files file stack ns l₁ = some (.ok ms', l') := by
  cases hn : resolve files file stack n l with
  | none => cases (resolveAll_cons_none hn).symm.trans h
  | some o =>
    obtain ⟨r, l₁⟩ := o
    cases r with
    | error e => simp [resolveAll_cons_error hn] at h
    | ok m =>
      rw [resolveAll_cons_ok hn] at h
      obtain ⟨⟨r, l₂⟩, hns, h⟩ := Option.map_eq_some_iff.1 h
      obtain ⟨ms', hr, -⟩ := Except.map_eq_ok_iff.1 (congrArg Prod.fst h)
      cases congrArg Prod.snd h
      exact ⟨m, l₁, ms', rfl, by simpa [← hr] using hns⟩

/-! ## Induction over runs -/

/-- The cases of a statement about runs, at a node and at a list of nodes. Each run that is part of
another comes with what is stated of it. -/
structure RunInduction (files : Option FileSource)
    (ofNode : (file : String) → (stack : List String) → Node → Library → Outcome Node → Prop)
    (ofNodes : (file : String) → (stack : List String) → List Node → Library →
      Outcome (List Node) → Prop) : Prop where
  follow : ∀ {file stack n t l o}, target? files l n = some t →
    resolve files file stack t l = some o →
    ofNode file stack t l o → ofNode file stack n l o
  lost : ∀ {file stack n ref l e l'}, refOf? n = some ref →
    lookup files file ref l = (.error e, l') →
    ofNode file stack n l (.error (.lookup ref e), l')
  circular : ∀ {file stack n ref l t l'}, refOf? n = some ref →
    lookup files file ref l = (.ok t, l') →
    key file ref ∈ stack → ofNode file stack n l (.error (.circular (stack ++ [key file ref])), l')
  reference : ∀ {file stack n ref l t l' o}, refOf? n = some ref →
    lookup files file ref l = (.ok t, l') → key file ref ∉ stack →
    resolve files (targetFile file ref) (stack ++ [key file ref]) t l' = some o →
    ofNode (targetFile file ref) (stack ++ [key file ref]) t l' o → ofNode file stack n l o
  parts : ∀ {file stack n l r l'}, target? files l n = none → refOf? n = none →
    resolveAll files file stack n.children l = some (r, l') →
    ofNodes file stack n.children l (r, l') →
    ofNode file stack n l (r.map n.withChildren, l')
  nil : ∀ {file stack l}, ofNodes file stack [] l (.ok [], l)
  fail : ∀ {file stack n ns l e l'}, resolve files file stack n l = some (.error e, l') →
    ofNode file stack n l (.error e, l') → ofNodes file stack (n :: ns) l (.error e, l')
  cons : ∀ {file stack n m ns l l₁ r l'}, resolve files file stack n l = some (.ok m, l₁) →
    ofNode file stack n l (.ok m, l₁) → resolveAll files file stack ns l₁ = some (r, l') →
    ofNodes file stack ns l₁ (r, l') → ofNodes file stack (n :: ns) l (r.map (m :: ·), l')

namespace RunInduction

variable {ofNode : String → List String → Node → Library → Outcome Node → Prop}
  {ofNodes : String → List String → List Node → Library → Outcome (List Node) → Prop}

/-- The runs themselves, along with a statement about them. -/
theorem withRuns (ind : RunInduction files ofNode ofNodes) :
    (∀ file stack n l o, resolve files file stack n l = some o →
        resolve files file stack n l = some o ∧ ofNode file stack n l o) ∧
      ∀ file stack ns l o, resolveAll files file stack ns l = some o →
        resolveAll files file stack ns l = some o ∧ ofNodes file stack ns l o := by
  -- The induction hypotheses are about approximations of the runs, so that these are runs is part
  -- of them.
  have hplaces := Place.resolve.mutual_partial_correctness files
    (fun p n l o => resolve files p.file p.stack n l = some o ∧ ofNode p.file p.stack n l o)
    (fun p ns l o => resolveAll files p.file p.stack ns l = some o ∧ ofNodes p.file p.stack ns l o)
      ?_ ?_
  · exact ⟨fun file stack => hplaces.1 ⟨file, stack⟩, fun file stack => hplaces.2 ⟨file, stack⟩⟩
  · intro node nodes ihNode ihNodes ⟨file, stack⟩ n l o h
    cases n with
    | aliasOf line column name a =>
      cases ha : anchored? files l a with
      | some t =>
        simp only [ha] at h
        obtain ⟨hrun, ih⟩ := ihNode _ _ _ _ h
        have htarget : target? files l (.aliasOf line column name a) = some t := ha
        exact ⟨(resolve_follow htarget).trans hrun, ind.follow htarget hrun ih⟩
      | none =>
        simp only [ha] at h
        cases h
        have htarget : target? files l (.aliasOf line column name a) = none := ha
        refine ⟨?_, ind.parts (r := .ok []) htarget rfl resolveAll_nil ind.nil⟩
        rw [resolve_parts htarget rfl, Node.children, resolveAll_nil]
        rfl
    | scalar line tag text isPlain | sequence line tag items =>
      obtain ⟨⟨r, l'⟩, hall, h⟩ := Option.bind_eq_some_iff.1 h
      cases h
      obtain ⟨hrun, ih⟩ := ihNodes _ _ _ _ hall
      exact ⟨by rw [resolve_parts rfl rfl, hrun]; rfl, ind.parts rfl rfl hrun ih⟩
    | mapping line tag entries =>
      cases href : refOf? (.mapping line tag entries) with
      | none =>
        simp only [href] at h
        obtain ⟨⟨r, l'⟩, hall, h⟩ := Option.bind_eq_some_iff.1 h
        cases h
        obtain ⟨hrun, ih⟩ := ihNodes _ _ _ _ hall
        exact ⟨by rw [resolve_parts rfl href, hrun]; rfl, ind.parts rfl href hrun ih⟩
      | some ref =>
        simp only [href] at h
        split at h
        · rename_i hlookup
          cases h
          exact ⟨resolve_lost href hlookup, ind.lost href hlookup⟩
        · rename_i hlookup
          split at h
          · rename_i hkey
            have hkey := List.contains_iff_mem.1 hkey
            cases h
            exact ⟨resolve_circular href hlookup hkey, ind.circular href hlookup hkey⟩
          · rename_i hkey
            have hkey : key file ref ∉ stack := fun hmem => hkey (List.contains_iff_mem.2 hmem)
            obtain ⟨hrun, ih⟩ := ihNode _ _ _ _ h
            exact ⟨(resolve_reference href hlookup hkey).trans hrun,
              ind.reference href hlookup hkey hrun ih⟩
  · intro node nodes ihNode ihNodes ⟨file, stack⟩ ns l o h
    cases ns with
    | nil =>
      cases h
      exact ⟨resolveAll_nil, ind.nil⟩
    | cons n ns =>
      obtain ⟨⟨r, l₁⟩, hn, h⟩ := Option.bind_eq_some_iff.1 h
      obtain ⟨hnode, ihNode⟩ := ihNode _ _ _ _ hn
      cases r with
      | error e =>
        cases h
        exact ⟨resolveAll_cons_error hnode, ind.fail hnode ihNode⟩
      | ok m =>
        obtain ⟨⟨r, l'⟩, hns, h⟩ := Option.bind_eq_some_iff.1 h
        cases h
        obtain ⟨hnodes, ihNodes⟩ := ihNodes _ _ _ _ hns
        exact ⟨by rw [resolveAll_cons_ok hnode, hnodes]; rfl, ind.cons hnode ihNode hnodes ihNodes⟩

/-- What holds in each case holds of every run of a node that ends. -/
theorem resolve (ind : RunInduction files ofNode ofNodes)
    (h : resolve files file stack n l = some o) : ofNode file stack n l o :=
  (ind.withRuns.1 _ _ _ _ _ h).2

end RunInduction

end PayloadGen.References
