import PayloadGen.Proofs.Reference.Reach
import PayloadGen.Proofs.Yaml.Anchors

/-!
# What is left of references

What a replacement gives has no alias in the place of a value. Whether it has a reference is another
matter. A mapping is a reference if its `$ref` is a text, and that is decided before its values are
replaced. So a `$ref` that is an alias of a text, or itself a reference to one, is not followed; but
afterwards the text is there. `HidesReference` names these mappings, and a result has a reference
exactly if one of them is reached (`resolve_leaves_no_reference`).
-/

namespace PayloadGen.References

open Yaml Relation

variable {files : Option FileSource} {file ref name : String} {stack : List String} {n t m : Node}
  {l l' k : Library} {d : Document} {p q : Position}

/-! ## Aliases and their anchors -/

/-- Every document of the library was read under the name that it has there. -/
def WasRead (l : Library) : Prop :=
  ∀ name d, Pairs.find? name l = some d → ∃ text, Document.read name text = .ok (some d)

/-- Every alias in the node has a target. -/
def Anchored (files : Option FileSource) (l : Library) (n : Node) : Prop :=
  ∀ a ∈ n.aliases, ∃ t, anchored? files l a.target = some t

theorem WasRead.exists_text (hl : WasRead l) (hd : documentOf files l name = .ok d) :
    ∃ text, Document.read name text = .ok (some d) := by
  rw [documentOf_eq] at hd
  split at hd
  · rename_i hfind
    cases hd
    exact hl name d hfind
  · obtain ⟨source, text, parsed, -, -, hparse, rfl⟩ := load_eq_ok.1 hd
    exact ⟨text, by simp [Document.read, hparse, Except.map]⟩

/-- The nodes of a document have the targets of their aliases in it. -/
theorem WasRead.anchored (hl : WasRead l) (hd : documentOf files l name = .ok d)
    (hn : n ∈ d.root :: d.anchors) : Anchored files l n := by
  intro a ha
  have hmem : a ∈ d.aliases := by
    rcases List.mem_cons.1 hn with rfl | hn
    · exact List.mem_append_left _ ha
    · exact List.mem_append_right _ (aliases_subset_items hn ha)
  obtain ⟨text, hread⟩ := hl.exists_text hd
  obtain ⟨hname, hnumber⟩ := Document.read_anchors hread a hmem
  refine ⟨d.anchors[a.target.number], ?_⟩
  rw [anchored?_eq, hname, hd]
  exact List.getElem?_eq_getElem hnumber

theorem aliases_subset_of_below (h : Below n m) : m.aliases ⊆ n.aliases := by
  induction h with
  | refl => exact List.Subset.refl _
  | tail _ hc ih => exact List.Subset.trans (aliases_subset_of_mem_children hc) ih

/-- What a position reaches has the targets of its aliases too. -/
theorem Anchored.of_reaches (hl : WasRead l) (hp : Anchored files l p.node)
    (h : Reaches files l p q) : Anchored files l q.node := by
  obtain ⟨base, hbelow, hbase⟩ := (mem_held_of_reaches h).2
  have hanchored : Anchored files l base := by
    rcases hbase with rfl | ⟨name, d, hd, hbase⟩
    · exact hp
    · exact hl.anchored hd hbase
  exact fun a ha => hanchored a (aliases_subset_of_below hbelow ha)

theorem Anchored.isAlias_eq_false (hn : Anchored files l n) (h : target? files l n = none) :
    n.isAlias = false := by
  cases n with
  | aliasOf line column name a =>
    obtain ⟨t, ht⟩ := hn ⟨line, column, name, a⟩ (List.mem_singleton.2 rfl)
    cases h.symm.trans ht
  | _ => rfl

/-! ## Standing for a text -/

/-- Is the node a text? -/
def isScalar : Node → Bool
  | .scalar .. => true
  | _ => false

/-- An alias stands for its target, and a reference for its own. -/
inductive Stands (files : Option FileSource) (l : Library) : Position → Position → Prop
  | target {file : String} {n t : Node} : target? files l n = some t →
      Stands files l ⟨file, n⟩ ⟨file, t⟩
  | reference {p q : Position} {key : String} : Leads files l p key q → Stands files l p q

/-- The position is what the other stands for in the end. -/
abbrev StandsFor (files : Option FileSource) (l : Library) : Position → Position → Prop :=
  ReflTransGen (Stands files l)

/-- A mapping that is no reference, though its `$ref` stands for a text. -/
def HidesReference (files : Option FileSource) (l : Library) (p : Position) : Prop :=
  refOf? p.node = none ∧
    ∃ v q, p.node.entryAt? "$ref" = some v ∧ StandsFor files l ⟨p.file, v⟩ q ∧
    isScalar q.node = true

theorem Stands.step (h : Stands files l p q) : Step files l p q := by
  cases h with
  | target ht => exact .inner (.target ht)
  | reference hleads => exact .reference hleads

theorem refOf?_eq_none_iff :
    refOf? n = none ↔ ∀ v, n.entryAt? "$ref" = some v → isScalar v = false := by
  unfold refOf?
  cases n.entryAt? "$ref" with
  | none => simp
  | some v => cases v <;> simp [isScalar]

theorem isScalar_eq_false_of_refOf? (h : refOf? n = some ref) : isScalar n = false := by
  cases n with
  | mapping line tag entries => rfl
  | _ => cases h

/-- An alias leads to its target only. -/
theorem eq_of_step_of_target? (ht : target? files l n = some t) (h : Step files l ⟨file, n⟩ q) :
    q = ⟨file, t⟩ := by
  cases h with
  | inner hinner =>
    cases hinner with
    | child _ hc => cases (target?_eq_none_of_mem_children hc).symm.trans ht
    | target ht' =>
      cases ht.symm.trans ht'
      rfl
  | reference hleads =>
    cases hleads with
    | intro href _ => cases (refOf?_eq_none_of_target? ht).symm.trans href

/-- A reference leads to its target only. -/
theorem eq_of_step_of_refOf? (href : refOf? n = some ref)
    (hlookup : (lookup files file ref l).1 = .ok t) (h : Step files l ⟨file, n⟩ q) :
    q = ⟨targetFile file ref, t⟩ := by
  cases h with
  | inner hinner =>
    cases hinner with
    | child hnone _ => cases hnone.symm.trans href
    | target ht => cases (refOf?_eq_none_of_target? ht).symm.trans href
  | reference hleads =>
    cases hleads with
    | intro href' hlookup' =>
      cases href.symm.trans href'
      cases hlookup.symm.trans hlookup'
      rfl

/-- From any other node one comes to its children. -/
theorem step_parts_iff (htarget : target? files l n = none) (href : refOf? n = none) :
    Step files l ⟨file, n⟩ q ↔ ∃ c ∈ n.children, q = ⟨file, c⟩ := by
  constructor
  · intro h
    cases h with
    | inner hinner =>
      cases hinner with
      | child _ hc => exact ⟨_, hc, rfl⟩
      | target ht => cases htarget.symm.trans ht
    | reference hleads =>
      cases hleads with
      | intro href' _ => cases href.symm.trans href'
  · rintro ⟨c, hc, rfl⟩
    exact .inner (.child href hc)

/-! ## Other children -/

theorem children_withChildren {cs : List Node} (h : n.children.length = cs.length) :
    (n.withChildren cs).children = cs := by
  cases n with
  | scalar | aliasOf => exact (List.length_eq_zero_iff.1 h.symm).symm
  | sequence line tag items => rfl
  | mapping line tag entries =>
    rw [withChildren_mapping, Node.children, List.map_snd_zip]
    simpa [Node.children] using h.ge

theorem withChildren_children (n : Node) : n.withChildren n.children = n := by
  cases n with
  | mapping line tag entries => rw [withChildren_mapping, Node.children, ← List.zip_of_prod rfl rfl]
  | _ => rfl

theorem isAlias_withChildren (n : Node) (cs : List Node) :
    (n.withChildren cs).isAlias = n.isAlias := by
  cases n <;> rfl

theorem isScalar_withChildren (n : Node) (cs : List Node) :
    isScalar (n.withChildren cs) = isScalar n := by
  cases n <;> rfl

/-- The value of a key and the child in its place. -/
theorem entryAt?_withChildren {R : Node → Node → Prop} {cs : List Node}
    (h : List.Forall₂ R n.children cs) (key : String) :
    Option.Rel R (n.entryAt? key) (Node.entryAt? key (n.withChildren cs)) := by
  cases n with
  | mapping line tag entries =>
    rw [Node.children, List.forall₂_map_left_iff] at h
    simp only [Node.withChildren, Node.entryAt?]
    induction h with
    | nil => exact .none
    | @cons e c entries cs hc _ ih =>
      by_cases hkey : (e.1.label == key) = true
      · simpa [hkey] using Option.Rel.some hc
      · simpa [hkey] using ih
  | _ => exact .none

/-! ## Replaced nodes -/

/-- What holds of all that is reached holds of the start and of what is reached from its
neighbours. -/
theorem forall_reflTransGen_iff {α : Type} {r : α → α → Prop} {P : α → Prop} {a : α} :
    (∀ b, ReflTransGen r a b → P b) ↔ P a ∧ ∀ c, r a c → ∀ b, ReflTransGen r c b → P b := by
  constructor
  · exact fun h => ⟨h a .refl, fun c hc b hb => h b (.head hc hb)⟩
  · rintro ⟨ha, hnext⟩ b hb
    rcases ReflTransGen.cases_head hb with rfl | ⟨c, hc, hb⟩
    · exact ha
    · exact hnext c hc b hb

/-- No mapping in the tree of the node is a reference. -/
def ReferenceFree (m : Node) : Prop :=
  ∀ b, Below m b → refOf? b = none

/-- What a replacement gives for the node of a position. That it is a text exactly if the position
stands for one is what decides on the reference that a mapping around it becomes. -/
structure Replaced (files : Option FileSource) (l : Library) (p : Position) (m : Node) : Prop where
  aliasFree : ∀ b, Below m b → b.isAlias = false
  referenceFree : ReferenceFree m ↔ ∀ q, Reaches files l p q → ¬ HidesReference files l q
  scalar : isScalar m = true ↔ ∃ q, StandsFor files l p q ∧ isScalar q.node = true

/-- A position that leads to one other only, which it stands for, has the result of that one. -/
theorem Replaced.of_stands (h : Replaced files l q m) (hstands : Stands files l p q)
    (honly : ∀ q', Step files l p q' → q' = q) (hscalar : isScalar p.node = false)
    (hhides : ¬ HidesReference files l p) : Replaced files l p m where
  aliasFree := h.aliasFree
  referenceFree := by
    rw [h.referenceFree, forall_reflTransGen_iff (a := p)]
    constructor
    · intro hq
      refine ⟨hhides, fun q' hstep => ?_⟩
      cases honly q' hstep
      exact hq
    · exact fun hp => hp.2 q hstands.step
  scalar := by
    rw [h.scalar]
    constructor
    · rintro ⟨q', hq', hs⟩
      exact ⟨q', .head hstands hq', hs⟩
    · rintro ⟨q', hq', hs⟩
      rcases ReflTransGen.cases_head hq' with rfl | ⟨q'', hfirst, hq'⟩
      · cases hscalar.symm.trans hs
      · cases honly q'' hfirst.step
        exact ⟨q', hq', hs⟩

/-- A mapping becomes a reference exactly if it hides one. -/
theorem refOf?_withChildren_eq_none_iff {cs : List Node} (href : refOf? n = none)
    (h : List.Forall₂ (fun c c' => Replaced files l ⟨file, c⟩ c') n.children cs) :
    refOf? (n.withChildren cs) = none ↔ ¬ HidesReference files l ⟨file, n⟩ := by
  have hentry := entryAt?_withChildren h "$ref"
  rw [refOf?_eq_none_iff]
  simp only [HidesReference, href, true_and]
  generalize n.entryAt? "$ref" = value? at hentry
  generalize Node.entryAt? "$ref" (n.withChildren cs) = value?' at hentry
  cases hentry with
  | none => simp
  | some hv => simp [← Bool.not_eq_true, hv.scalar]

/-- A node that is neither an alias nor a reference is replaced as its children are. -/
theorem Replaced.of_parts {cs : List Node} (htarget : target? files l n = none)
    (href : refOf? n = none) (halias : n.isAlias = false)
    (h : List.Forall₂ (fun c c' => Replaced files l ⟨file, c⟩ c') n.children cs) :
    Replaced files l ⟨file, n⟩ (n.withChildren cs) := by
  have hchildren : (n.withChildren cs).children = cs := children_withChildren h.length_eq
  constructor
  · rw [forall_reflTransGen_iff, isAlias_withChildren, hchildren]
    refine ⟨halias, fun c' hc' => ?_⟩
    obtain ⟨c, -, hc⟩ := exists_left_of_forall₂ h hc'
    exact hc.aliasFree
  · rw [ReferenceFree, forall_reflTransGen_iff, forall_reflTransGen_iff (r := Step files l),
      refOf?_withChildren_eq_none_iff href h, hchildren]
    refine and_congr_right fun _ => ⟨fun hall q hq => ?_, fun hall c' hc' => ?_⟩
    · obtain ⟨c, hc, rfl⟩ := (step_parts_iff htarget href).1 hq
      obtain ⟨c', hc', hreplaced⟩ := exists_right_of_forall₂ h hc
      exact hreplaced.referenceFree.1 (hall c' hc')
    · obtain ⟨c, hc, hreplaced⟩ := exists_left_of_forall₂ h hc'
      exact hreplaced.referenceFree.2 (hall _ ((step_parts_iff htarget href).2 ⟨c, hc, rfl⟩))
  · rw [isScalar_withChildren]
    refine ⟨fun hs => ⟨_, .refl, hs⟩, fun ⟨q, hq, hs⟩ => ?_⟩
    -- Nothing stands for another here, so the text is the node itself.
    rcases ReflTransGen.cases_head hq with rfl | ⟨_, hfirst, -⟩
    · exact hs
    · cases hfirst with
      | target ht => cases htarget.symm.trans ht
      | reference hleads =>
        cases hleads with
        | intro href' _ => cases href.symm.trans href'

theorem runInduction_replaced (hl : WasRead l) :
    RunInduction files
      (fun file _ n k o => Agree files l k → Anchored files l n → ∀ m, o.1 = .ok m →
        Replaced files l ⟨file, n⟩ m)
      (fun file _ ns k o => Agree files l k → (∀ n ∈ ns, Anchored files l n) → ∀ ms, o.1 = .ok ms →
        List.Forall₂ (fun n m => Replaced files l ⟨file, n⟩ m) ns ms) where
  follow {file stack n t k o} htarget _ ih := by
    intro hk hn m hm
    have ht : target? files l n = some t := (hk.target? n).trans htarget
    have hstands : Stands files l ⟨file, n⟩ ⟨file, t⟩ := .target ht
    have hreplaced := ih hk (Anchored.of_reaches (p := ⟨file, n⟩) hl hn (.single hstands.step)) m hm
    refine hreplaced.of_stands hstands (fun q' => eq_of_step_of_target? ht) ?_ ?_
    all_goals obtain ⟨line, column, name, a, rfl, -⟩ := target?_eq_some ht
    · rfl
    · rintro ⟨-, v, q, ⟨⟩, -⟩
  lost := by
    rintro file stack n ref k e k' - - - - m ⟨⟩
  circular := by
    rintro file stack n ref k t k' - - - - - m ⟨⟩
  reference {file stack n ref k t k' o} href hlookup _ _ ih := by
    intro hk hn m hm
    obtain ⟨l₁, hlookup', -⟩ := hk.symm.lookup hlookup
    have ht : (lookup files file ref l).1 = .ok t := congrArg Prod.fst hlookup'
    have hstands : Stands files l ⟨file, n⟩ ⟨targetFile file ref, t⟩ := .reference (.intro href ht)
    have hreplaced := ih (hk.trans (Agree.of_lookup_eq hlookup))
      (Anchored.of_reaches (p := ⟨file, n⟩) hl hn (.single hstands.step)) m hm
    refine hreplaced.of_stands hstands (fun q' => eq_of_step_of_refOf? href ht) ?_ ?_
    · exact isScalar_eq_false_of_refOf? href
    · rintro ⟨hnone, -⟩
      cases hnone.symm.trans href
  parts {file stack n k r k'} htarget href _ ih := by
    intro hk hn m hm
    have htarget : target? files l n = none := (hk.target? n).trans htarget
    obtain ⟨cs, rfl, rfl⟩ := Except.map_eq_ok_iff.1 hm
    refine .of_parts htarget href (hn.isAlias_eq_false htarget) (ih hk (fun c hc a ha => ?_) cs rfl)
    exact hn a (aliases_subset_of_mem_children hc ha)
  nil := by
    rintro file stack k - - ms ⟨⟩
    exact .nil
  fail := by
    rintro file stack n ns k e k' - - - - ms ⟨⟩
  cons {file stack n m ns k k₁ r k'} hnode ihNode _ ihNodes := by
    intro hk hns ms hms
    obtain ⟨ms', rfl, rfl⟩ := Except.map_eq_ok_iff.1 hms
    refine .cons (ihNode hk (hns n List.mem_cons_self) m rfl) ?_
    exact ihNodes (hk.trans (Agree.of_resolve hnode)) (fun c hc =>
      hns c (List.mem_cons_of_mem _ hc)) ms' rfl

/-! ## Replacing again -/

theorem resolveAll_self {ns : List Node}
    (h : ∀ n ∈ ns, resolve files file stack n k = some (.ok n, k)) :
    resolveAll files file stack ns k = some (.ok ns, k) := by
  induction ns with
  | nil => exact resolveAll_nil
  | cons n ns ih =>
    rw [resolveAll_cons_ok (h n List.mem_cons_self), ih fun c hc => h c (List.mem_cons_of_mem _ hc)]
    rfl

/-- A node without aliases and references is replaced by itself. -/
theorem resolve_self (halias : ∀ b, Below m b → b.isAlias = false) (href : ReferenceFree m) :
    resolve files file stack m k = some (.ok m, k) := by
  induction hs : m.size using Nat.strong_induction_on generalizing m with
  | _ size ih =>
    subst hs
    have htarget : target? files k m = none := by
      cases m with
      | aliasOf line column name a => cases halias _ .refl
      | _ => rfl
    have hchildren : resolveAll files file stack m.children k = some (.ok m.children, k) := by
      refine resolveAll_self fun c hc => ih c.size (size_lt_of_mem_children hc) ?_ ?_ rfl
      · exact fun b hb => halias b (.head hc hb)
      · exact fun b hb => href b (.head hc hb)
    rw [resolve_parts htarget (href m .refl), hchildren]
    simp [Except.map, withChildren_children]

/-- **What is left of references.** In documents that were read, what a replacement gives has no
alias in the place of a value. It has no reference exactly if no mapping hides one among those that
are reached; and then it is replaced by itself, from any file and with any library. -/
theorem resolve_leaves_no_reference {files : Option FileSource} {file : String} {n m : Node}
    {l l' : Library} (hl : WasRead l) (hn : Anchored files l n)
    (h : resolve files file [] n l = some (.ok m, l')) : (∀ b, Below m b → b.isAlias = false) ∧
      ((∀ b, Below m b → refOf? b = none) ↔
        ∀ q, Reaches files l ⟨file, n⟩ q → ¬ HidesReference files l q) ∧
      ((∀ b, Below m b → refOf? b = none) →
        ∀ files' file' k, resolve files' file' [] m k = some (.ok m, k)) := by
  have hreplaced := (runInduction_replaced hl).resolve h (Agree.refl l) hn m rfl
  exact ⟨hreplaced.aliasFree, hreplaced.referenceFree,
    fun href files' file' k => resolve_self hreplaced.aliasFree href⟩

/-- A text with a mapping that hides a reference, and with references that are followed. -/
def hiddenText : String :=
  "link: &r '#/lamp'\nlamp: \x7btype: string\x7d\n" ++
    "hidden: \x7b$ref: *r\x7d\nshown: [\x7b$ref: '#/lamp'\x7d, *r]\n"

/-- What the references of the text lead to. -/
def lampNode : Node :=
  .mapping 2 none [(.scalar 2 none "type" true, .scalar 2 none "string" true)]

/-- The `$ref` is an alias of a text. -/
def hiddenNode : Node :=
  .mapping 3 none [(.scalar 3 none "$ref" true, .aliasOf 3 15 "r" ⟨"", 0⟩)]

/-- A reference and an alias. -/
def shownNode : Node :=
  .sequence 4 none [refNode 4 "#/lamp", .aliasOf 4 26 "r" ⟨"", 0⟩]

/-- The document of the text. -/
def hiddenDocument : Document :=
  ⟨.mapping 1 none [(.scalar 1 none "link" true, .scalar 1 none "#/lamp" false),
    (.scalar 2 none "lamp" true, lampNode), (.scalar 3 none "hidden" true, hiddenNode),
    (.scalar 4 none "shown" true, shownNode)], [.scalar 1 none "#/lamp" false]⟩

theorem read_hiddenText : Document.read "" hiddenText = .ok (some hiddenDocument) := by
  rw [← Except.toOption_eq_some_iff]
  decide +kernel

theorem resolve_scalar (line : Nat) (tag : Option String) (text : String) (isPlain : Bool) :
    resolve files file stack (.scalar line tag text isPlain) k =
      some (.ok (.scalar line tag text isPlain), k) := by
  rw [resolve_parts rfl rfl, Node.children, resolveAll_nil]
  rfl

theorem resolve_lampNode : resolve files file stack lampNode k = some (.ok lampNode, k) := by
  rw [resolve_parts rfl rfl, lampNode, Node.children, List.map_cons, List.map_nil,
    resolveAll_cons_ok (resolve_scalar ..), resolveAll_nil]
  rfl

/-- A reference to the mapping is replaced by it. -/
theorem resolve_of_lampRef (href : refOf? n = some "#/lamp") :
    resolve none "" [] n [("", hiddenDocument)] = some (.ok lampNode, [("", hiddenDocument)]) := by
  have hlookup : lookup none "" "#/lamp" [("", hiddenDocument)] =
      (.ok lampNode, [("", hiddenDocument)]) :=
    lookup_eq_of_toOption (by decide +kernel)
  rw [resolve_reference href hlookup (by simp), resolve_lampNode]

/-- A reference is left in what replaces the mapping that hides one, and replacing again gives
something else. -/
theorem resolve_hiddenText_twice :
    ∃ d n m m' l, Document.read "" hiddenText = .ok (some d) ∧ d.root.entryAt? "hidden" = some n ∧
      resolve none "" [] n [("", d)] = some (.ok m, l) ∧ refOf? m = some "#/lamp" ∧
      resolve none "" [] m l = some (.ok m', l) ∧ m' ≠ m := by
  refine ⟨hiddenDocument, hiddenNode,
    .mapping 3 none [(.scalar 3 none "$ref" true, .scalar 1 none "#/lamp" false)], lampNode,
    [("", hiddenDocument)], read_hiddenText, rfl, ?_, rfl, ?_, by decide⟩
  · have htarget : target? none [("", hiddenDocument)] (.aliasOf 3 15 "r" ⟨"", 0⟩) =
        some (.scalar 1 none "#/lamp" false) := by decide
    rw [resolve_parts rfl rfl, hiddenNode, Node.children, List.map_cons, List.map_nil,
      resolveAll_cons_ok ((resolve_follow htarget).trans (resolve_scalar ..)), resolveAll_nil]
    rfl
  · exact resolve_of_lampRef rfl

/-- Nothing is hidden in the sequence: what replaces it is replaced by itself. -/
theorem resolve_leaves_no_reference_shownNode :
    ∃ m l', resolve none "" [] shownNode [("", hiddenDocument)] = some (.ok m, l') ∧
      (∀ q, Reaches none [("", hiddenDocument)] ⟨"", shownNode⟩ q →
        ¬ HidesReference none [("", hiddenDocument)] q) ∧
      ∀ files' file' k, resolve files' file' [] m k = some (.ok m, k) := by
  have hl : WasRead [("", hiddenDocument)] := by
    intro name d hd
    rw [Pairs.find?_cons] at hd
    split at hd
    · rename_i hname
      cases hd
      subst hname
      exact ⟨hiddenText, read_hiddenText⟩
    · cases hd
  have hd : documentOf none [("", hiddenDocument)] "" = .ok hiddenDocument := by
    rw [documentOf_eq, Pairs.find?_cons, if_pos rfl]
  have hroot : Anchored none [("", hiddenDocument)] hiddenDocument.root :=
    hl.anchored hd List.mem_cons_self
  have hn : Anchored none [("", hiddenDocument)] shownNode :=
    fun a ha => hroot a (aliases_subset_of_mem_children (by decide) ha)
  have htarget : target? none [("", hiddenDocument)] (.aliasOf 4 26 "r" ⟨"", 0⟩) =
      some (.scalar 1 none "#/lamp" false) := by decide
  have hrun : resolve none "" [] shownNode [("", hiddenDocument)] =
      some (.ok (.sequence 4 none [lampNode, .scalar 1 none "#/lamp" false]),
        [("", hiddenDocument)]) := by
    rw [resolve_parts rfl rfl, shownNode, Node.children,
      resolveAll_cons_ok (resolve_of_lampRef rfl),
      resolveAll_cons_ok ((resolve_follow htarget).trans (resolve_scalar ..)), resolveAll_nil]
    rfl
  have hscalar : ∀ line text isPlain, ReferenceFree (.scalar line none text isPlain) := by
    refine fun line text isPlain => forall_reflTransGen_iff.2 ⟨rfl, fun c hc => ?_⟩
    cases hc
  have hlamp : ReferenceFree lampNode := by
    refine forall_reflTransGen_iff.2 ⟨rfl, fun c hc => ?_⟩
    obtain rfl := List.mem_singleton.1 hc
    exact hscalar 2 "string" true
  have hfree : ReferenceFree (.sequence 4 none [lampNode, .scalar 1 none "#/lamp" false]) := by
    refine forall_reflTransGen_iff.2 ⟨rfl, fun c hc => ?_⟩
    obtain rfl | rfl : c = lampNode ∨ c = .scalar 1 none "#/lamp" false := by
      simpa [Node.children] using hc
    · exact hlamp
    · exact hscalar 1 "#/lamp" false
  obtain ⟨-, hiff, hsame⟩ := resolve_leaves_no_reference hl hn hrun
  exact ⟨_, _, hrun, hiff.1 hfree, hsame hfree⟩

end PayloadGen.References
