import Mathlib.Data.Finite.Prod
import Mathlib.Data.Set.Finite.Lattice
import Mathlib.Logic.Relation
import PayloadGen.Proofs.Reference.Transparency

/-!
# What a node reaches

From a node one comes to the values of a mapping, the items of a sequence and the target of an alias
(`Inner`), and from a reference only to its target (`Leads`). A position is a node together with the
file that references are looked up from; `Reaches` is the closure of these steps.

There are only so many documents, so a position reaches finitely many others (`finite_reaches`).
-/

namespace PayloadGen.References

open Yaml Relation

/-- A node, and the file from which its references are looked up. -/
structure Position where
  file : String
  node : Node

/-- The key of the reference that stands at a position. -/
def Position.key? (p : Position) : Option String :=
  (refOf? p.node).map (key p.file)

variable {files : Option FileSource} {l k : Library}

/-! ## Steps -/

/-- A step inside a document: to a child, or to the target of an alias. There is none from a
reference. -/
inductive Inner (files : Option FileSource) (l : Library) : Node → Node → Prop
  | child {n c : Node} : refOf? n = none → c ∈ n.children → Inner files l n c
  | target {n t : Node} : target? files l n = some t → Inner files l n t

/-- A reference with its key and its target. -/
inductive Leads (files : Option FileSource) (l : Library) : Position → String → Position → Prop
  | intro {file ref : String} {n t : Node} : refOf? n = some ref →
    (lookup files file ref l).1 = .ok t →
    Leads files l ⟨file, n⟩ (key file ref) ⟨targetFile file ref, t⟩

/-- One step on a way. -/
inductive Step (files : Option FileSource) (l : Library) : Position → Position → Prop
  | inner {file : String} {n m : Node} : Inner files l n m → Step files l ⟨file, n⟩ ⟨file, m⟩
  | reference {p q : Position} {key : String} : Leads files l p key q → Step files l p q

/-- There is a way from one position to the other. -/
abbrev Reaches (files : Option FileSource) (l : Library) : Position → Position → Prop :=
  ReflTransGen (Step files l)

/-- The node with the anchor contains an alias to it, if need be through other aliases. What stands
below a reference does not count, for it is not looked at. -/
def ContainsItself (files : Option FileSource) (l : Library) (a : Anchor) : Prop :=
  ∃ t line column name, anchored? files l a = some t ∧
    ReflTransGen (Inner files l) t (.aliasOf line column name a)

/-! ## Finitely many positions -/

theorem size_le_itemsSize {c : Node} {items : List Node} (h : c ∈ items) :
    c.size ≤ itemsSize items := by
  induction items with
  | nil => cases h
  | cons n items ih =>
    rw [itemsSize]
    rcases List.mem_cons.1 h with rfl | h
    · omega
    · have := ih h
      omega

theorem size_le_entriesSize {name value : Node} {entries : List (Node × Node)}
    (h : (name, value) ∈ entries) : value.size ≤ entriesSize entries := by
  induction entries with
  | nil => cases h
  | cons e entries ih =>
    obtain ⟨k, v⟩ := e
    rw [entriesSize]
    rcases List.mem_cons.1 h with heq | h
    · cases heq
      omega
    · have := ih h
      omega

theorem size_lt_of_mem_children {n c : Node} (h : c ∈ n.children) : c.size < n.size := by
  cases n with
  | scalar line tag text isPlain => cases h
  | aliasOf line column name a => cases h
  | sequence line tag items =>
    have : c.size ≤ itemsSize items := size_le_itemsSize h
    rw [Node.size]
    omega
  | mapping line tag entries =>
    obtain ⟨e, he, rfl⟩ := List.mem_map.1 h
    have := size_le_entriesSize he
    rw [Node.size]
    omega

/-- The node is in the tree below the other. -/
abbrev Below : Node → Node → Prop :=
  ReflTransGen fun n c => c ∈ n.children

theorem finite_below (n : Node) : {m | Below n m}.Finite := by
  induction hs : n.size using Nat.strong_induction_on generalizing n with
  | _ size ih =>
    subst hs
    have hchildren : (⋃ c ∈ {c | c ∈ n.children}, {m | Below c m}).Finite :=
      Set.Finite.biUnion (List.finite_toSet n.children) fun c hc =>
        ih c.size (size_lt_of_mem_children hc) c rfl
    refine (hchildren.insert n).subset fun m hm => ?_
    rcases ReflTransGen.cases_head hm with rfl | ⟨c, hc, hm⟩
    · exact Set.mem_insert _ _
    · exact Set.mem_insert_of_mem _ (Set.mem_biUnion hc hm)

/-- The names of documents are those of the library and of the files. -/
theorem finite_names (files : Option FileSource) (l : Library) :
    {name | ∃ d, documentOf files l name = .ok d}.Finite := by
  have hfiles : {name | ∃ d, load files name = .ok d}.Finite := by
    cases files with
    | none => simp [load_eq_ok]
    | some source =>
      obtain ⟨names, hnames⟩ := source.finite
      refine (List.finite_toSet names).subset fun name ⟨d, hd⟩ => ?_
      obtain ⟨_, text, _, hsource, hread, -⟩ := load_eq_ok.1 hd
      cases hsource
      exact hnames name text hread
  refine ((List.finite_toSet l.keys).union hfiles).subset fun name ⟨d, hd⟩ => ?_
  rw [documentOf_eq] at hd
  split at hd
  · rename_i hfind
    exact .inl (Pairs.mem_keys_of_find? hfind)
  · exact .inr ⟨d, hd⟩

/-- The nodes of the documents, and those below a node. -/
def Held (files : Option FileSource) (l : Library) (n : Node) : Set Node :=
  {m | ∃ base, Below base m ∧
    (base = n ∨ ∃ name d, documentOf files l name = .ok d ∧ base ∈ d.root :: d.anchors)}

theorem finite_held (files : Option FileSource) (l : Library) (n : Node) :
    (Held files l n).Finite := by
  have hbases : {base | base = n ∨ ∃ name d, documentOf files l name = .ok d ∧
      base ∈ d.root :: d.anchors}.Finite := by
    have hof : ∀ name,
        {base | ∃ d, documentOf files l name = .ok d ∧ base ∈ d.root :: d.anchors}.Finite := by
      intro name
      cases documentOf files l name with
      | error e => simp
      | ok d =>
        refine (List.finite_toSet (d.root :: d.anchors)).subset ?_
        rintro base ⟨d', hd', hbase⟩
        cases hd'
        exact hbase
    refine (((finite_names files l).biUnion fun name _ => hof name).insert n).subset ?_
    rintro base (rfl | ⟨name, d, hd, hbase⟩)
    · exact Set.mem_insert _ _
    · exact Set.mem_insert_of_mem _ (Set.mem_biUnion ⟨d, hd⟩ ⟨d, hd, hbase⟩)
  refine (hbases.biUnion fun base _ => finite_below base).subset ?_
  rintro m ⟨base, hm, hbase⟩
  exact Set.mem_biUnion hbase hm

theorem mem_held_of_child {n m c : Node} (hm : m ∈ Held files l n) (hc : c ∈ m.children) :
    c ∈ Held files l n := by
  obtain ⟨base, hbelow, hbase⟩ := hm
  exact ⟨base, hbelow.tail hc, hbase⟩

theorem mem_held_of_document {n m : Node} {name : String} {d : Document}
    (hd : documentOf files l name = .ok d) (hm : m ∈ d.root :: d.anchors) : m ∈ Held files l n :=
  ⟨m, .refl, .inr ⟨name, d, hd, hm⟩⟩

theorem mem_held_of_anchored? {n t : Node} {a : Anchor} (h : anchored? files l a = some t) :
    t ∈ Held files l n := by
  rw [anchored?_eq] at h
  obtain ⟨d, hd, ht⟩ := Option.bind_eq_some_iff.1 h
  exact mem_held_of_document (Except.toOption_eq_some_iff.1 hd)
    (List.mem_cons_of_mem _ (List.mem_of_getElem? ht))

theorem mem_held_follow {n m : Node} (hm : m ∈ Held files l n) :
    Pointer.follow (anchored? files l) m ∈ Held files l n := by
  cases m with
  | aliasOf line column name a =>
    rw [Pointer.follow]
    cases ha : anchored? files l a with
    | none => exact hm
    | some t => exact mem_held_of_anchored? ha
  | _ => exact hm

theorem mem_children_of_descend {at? : Anchor → Option Node} {pointer : String} {n t : Node}
    {part : List Char} (h : Pointer.descend at? pointer n part = .ok t) :
    t ∈ (Pointer.follow at? n).children := by
  unfold Pointer.descend at h
  obtain ⟨token, -, h⟩ := Except.bind_eq_ok_iff.1 h
  split at h
  · rename_i hfollow
    split at h
    · rename_i hfind
      cases h
      rw [hfollow]
      exact List.mem_map.2 ⟨_, List.mem_of_find?_eq_some hfind, rfl⟩
    · cases h
  · rename_i hfollow
    split at h
    · rename_i hindex
      cases h
      obtain ⟨i, -, hi⟩ := Option.bind_eq_some_iff.1 hindex
      rw [hfollow]
      exact List.mem_of_getElem? hi
    · cases h
  · cases h

/-- A pointer leads to a node of the documents. -/
theorem mem_held_of_walk {n root t : Node} {pointer : String} (hroot : root ∈ Held files l n)
    (h : Pointer.walk (anchored? files l) root pointer = .ok t) : t ∈ Held files l n := by
  unfold Pointer.walk at h
  split at h
  · cases h
    exact hroot
  · cases h
    exact hroot
  · rename_i rest _ _
    generalize List.splitOn '/' rest = parts at h
    induction parts generalizing root with
    | nil =>
      cases h
      exact hroot
    | cons part parts ih =>
      obtain ⟨m, hm, h⟩ := Except.bind_eq_ok_iff.1 h
      exact ih (mem_held_of_child (mem_held_follow hroot) (mem_children_of_descend hm)) h
  · cases h

/-- What a position reaches is a node of the documents, met in their files or in its own. -/
theorem mem_held_of_reaches {p q : Position} (h : Reaches files l p q) :
    (q.file = p.file ∨ ∃ d, documentOf files l q.file = .ok d) ∧ q.node ∈ Held files l p.node := by
  induction h with
  | refl => exact ⟨.inl rfl, p.node, .refl, .inl rfl⟩
  | tail _ hstep ih =>
    cases hstep with
    | inner hinner =>
      refine ⟨ih.1, ?_⟩
      cases hinner with
      | child _ hc => exact mem_held_of_child ih.2 hc
      | target ht =>
        obtain ⟨_, _, _, a, -, ha⟩ := target?_eq_some ht
        exact mem_held_of_anchored? ha
    | reference hleads =>
      cases hleads with
      | intro _ hlookup =>
        rw [lookup_fst] at hlookup
        obtain ⟨d, hd, hwalk⟩ := Except.bind_eq_ok_iff.1 hlookup
        exact ⟨.inr ⟨d, hd⟩, mem_held_of_walk (mem_held_of_document hd List.mem_cons_self) hwalk⟩

/-- A position reaches only so many others. -/
theorem finite_reaches (files : Option FileSource) (l : Library) (p : Position) :
    {q | Reaches files l p q}.Finite := by
  have hboth := ((finite_names files l).insert p.file).prod (finite_held files l p.node)
  refine (hboth.image fun x => (⟨x.1, x.2⟩ : Position)).subset fun q hq => ?_
  exact ⟨(q.file, q.node), mem_held_of_reaches hq, rfl⟩

end PayloadGen.References
