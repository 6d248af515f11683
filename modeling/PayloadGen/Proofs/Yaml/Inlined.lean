import Mathlib.Data.List.Forall2
import Mathlib.Logic.Relation
import PayloadGen.Proofs.Dict
import PayloadGen.Proofs.Except
import PayloadGen.Yaml.Decode

/-!
# Aliases and copies

An alias stands for a node with an anchor, so a copy of that node may take its place.
`Inlined name d n n'` says that `n'` is the node `n` of the document `d` with some of its aliases
replaced by such copies, in which aliases may be replaced again. Keys are left as they are. Two
kinds of values are left as well, since what reads them looks at the node that is there: the text of
a reference, and a sequence of mappings to merge (`Inlinable`).

A copy is finite, and aliases that are left may lead on. That they come to an end is
`Document.AliasesEnd`: no anchor contains an alias to itself.
-/

namespace PayloadGen.Yaml

/-! ## Aliases of a node -/

/-- A node that is an alias. -/
structure Alias where
  line : Nat
  column : Nat
  label : String
  target : Anchor
  deriving DecidableEq

/-- The place of an alias, which tells it from all others. -/
def Alias.place (a : Alias) : String × Nat × Nat :=
  (a.target.document, a.line, a.column)

/-- Is the node an alias? -/
def Node.isAlias : Node → Bool
  | .aliasOf .. => true
  | _ => false

mutual

/-- The aliases in a node, in keys as well as in values. -/
def Node.aliases : Node → List Alias
  | .scalar .. => []
  | .aliasOf line column label target => [⟨line, column, label, target⟩]
  | .sequence _ _ items => itemsAliases items
  | .mapping _ _ entries => entriesAliases entries

/-- The aliases in the items of a sequence. -/
def itemsAliases : List Node → List Alias
  | [] => []
  | n :: r => n.aliases ++ itemsAliases r

/-- The aliases in the entries of a mapping. -/
def entriesAliases : List (Node × Node) → List Alias
  | [] => []
  | (k, v) :: r => k.aliases ++ v.aliases ++ entriesAliases r

end

theorem aliases_subset_items {n : Node} {items : List Node} (h : n ∈ items) :
    n.aliases ⊆ itemsAliases items := by
  induction items with
  | nil => cases h
  | cons m items ih =>
    rcases List.mem_cons.1 h with rfl | h
    · exact List.subset_append_left _ _
    · exact List.Subset.trans (ih h) (List.subset_append_right _ _)

theorem aliases_subset_entries {e : Node × Node} {entries : List (Node × Node)} (h : e ∈ entries) :
    e.1.aliases ++ e.2.aliases ⊆ entriesAliases entries := by
  induction entries with
  | nil => cases h
  | cons e' entries ih =>
    rcases List.mem_cons.1 h with rfl | h
    · exact List.subset_append_left _ _
    · exact List.Subset.trans (ih h) (List.subset_append_right _ _)

theorem key_aliases_subset {e : Node × Node} {entries : List (Node × Node)} (h : e ∈ entries) :
    e.1.aliases ⊆ entriesAliases entries :=
  List.Subset.trans (List.subset_append_left _ _) (aliases_subset_entries h)

theorem value_aliases_subset {e : Node × Node} {entries : List (Node × Node)} (h : e ∈ entries) :
    e.2.aliases ⊆ entriesAliases entries :=
  List.Subset.trans (List.subset_append_right _ _) (aliases_subset_entries h)

theorem itemsAliases_map_fst (entries : List (Node × Node)) :
    itemsAliases (entries.map (·.1)) ⊆ entriesAliases entries := by
  induction entries with
  | nil => exact List.Subset.refl _
  | cons e entries ih =>
    intro a ha
    rcases List.mem_append.1 ha with ha | ha
    · exact List.mem_append_left _ (List.mem_append_left _ ha)
    · exact List.mem_append_right _ (ih ha)

theorem aliases_subset_of_mem_children {n c : Node} (h : c ∈ n.children) :
    c.aliases ⊆ n.aliases := by
  cases n with
  | sequence line tag items => exact aliases_subset_items h
  | mapping line tag entries =>
    obtain ⟨e, he, rfl⟩ := List.mem_map.1 h
    exact value_aliases_subset he
  | scalar | aliasOf => cases h

theorem aliases_entryAt?_subset {n v : Node} {key : String} (h : n.entryAt? key = some v) :
    v.aliases ⊆ n.aliases := by
  cases n with
  | mapping line tag entries =>
    obtain ⟨e, he, rfl⟩ := Option.map_eq_some_iff.1 h
    exact aliases_subset_of_mem_children (List.mem_map_of_mem (List.mem_of_find?_eq_some he))
  | scalar | sequence | aliasOf => cases h

/-- With other children a node has the aliases of its keys and those of the children. -/
theorem aliases_withChildren_subset (n : Node) (cs : List Node) :
    (n.withChildren cs).aliases ⊆ n.aliases ++ itemsAliases cs := by
  cases n with
  | scalar | aliasOf => exact List.subset_append_left _ _
  | sequence line tag items => exact List.subset_append_right _ _
  | mapping line tag entries =>
    simp only [Node.withChildren, Node.aliases]
    induction entries generalizing cs with
    | nil => exact List.nil_subset _
    | cons e entries ih =>
      cases cs with
      | nil => exact List.nil_subset _
      | cons c cs =>
        have hrest := ih cs
        simp only [List.zipWith_cons_cons, entriesAliases, itemsAliases]
        intro a ha
        grind

mutual

theorem document_of_mem_aliases_mapDocuments (other : String) :
    ∀ n : Node, ∀ a ∈ (n.mapDocuments fun _ => other).aliases, a.target.document = other
  | .scalar .., _, h => nomatch h
  | .aliasOf .., _, h => by
    obtain rfl := List.mem_singleton.1 h
    rfl
  | .sequence _ _ items, a, h => document_of_mem_itemsAliases_mapItems other items a h
  | .mapping _ _ entries, a, h => document_of_mem_entriesAliases_mapEntries other entries a h

theorem document_of_mem_itemsAliases_mapItems (other : String) :
    ∀ items : List Node, ∀ a ∈ itemsAliases (mapItems (fun _ => other) items),
      a.target.document = other
  | [], _, h => nomatch h
  | n :: items, a, h => (List.mem_append.1 h).elim (document_of_mem_aliases_mapDocuments other n a)
    (document_of_mem_itemsAliases_mapItems other items a)

theorem document_of_mem_entriesAliases_mapEntries (other : String) :
    ∀ entries : List (Node × Node), ∀ a ∈ entriesAliases (mapEntries (fun _ => other) entries),
      a.target.document = other
  | [], _, h => nomatch h
  | (k, v) :: entries, a, h => by
    rcases List.mem_append.1 h with h | h
    · exact (List.mem_append.1 h).elim (document_of_mem_aliases_mapDocuments other k a)
        (document_of_mem_aliases_mapDocuments other v a)
    · exact document_of_mem_entriesAliases_mapEntries other entries a h

end

namespace Document

/-- The aliases in a document. -/
def aliases (d : Document) : List Alias :=
  d.root.aliases ++ itemsAliases d.anchors

/-- The aliases that lead to the document are aliases of it. -/
def Known (name : String) (d : Document) (as : List Alias) : Prop :=
  ∀ a ∈ as, a.target.document = name → a ∈ d.aliases

theorem Known.mono {name : String} {d : Document} {as bs : List Alias} (h : as ⊆ bs)
    (hbs : d.Known name bs) : d.Known name as :=
  fun a ha => hbs a (h ha)

/-- The first alias is one of the document with this name, and the node that it stands for contains
the second one. -/
def Leads (name : String) (d : Document) (a b : Alias) : Prop :=
  a.target.document = name ∧ ∃ t, d.anchors[a.target.number]? = some t ∧ b ∈ t.aliases

/-- **No anchor contains an alias to itself.** From an alias of the document, no way through the
nodes that aliases stand for comes to an alias at the same place. -/
def AliasesEnd (name : String) (d : Document) : Prop :=
  ∀ a ∈ d.aliases, ∀ b, Relation.TransGen (d.Leads name) a b → b.place ≠ a.place

end Document

/-! ## Copies -/

/-- Whether the copy of a node may take the place of an alias under the key. A text must not make
the mapping a reference, nor a sequence make it merge the mappings in it. -/
def Inlinable (key : Node) : Node → Prop
  | .scalar .. => key.label ≠ "$ref"
  | .sequence .. => Decode.isMerge key = false
  | _ => True

instance (key : Node) : DecidablePred (Inlinable key)
  | .scalar .. => inferInstanceAs (Decidable (key.label ≠ "$ref"))
  | .sequence .. => inferInstanceAs (Decidable (Decode.isMerge key = false))
  | .mapping .. | .aliasOf .. => .isTrue trivial

mutual

/-- The nodes are the same, except that in the second one aliases are replaced by copies. -/
inductive InlinedInside (name : String) (d : Document) : Node → Node → Prop
  | scalar (line : Nat) (tag : Option String) (text : String) (isPlain : Bool) :
      InlinedInside name d (.scalar line tag text isPlain) (.scalar line tag text isPlain)
  | kept (line column : Nat) (label : String) (target : Anchor) :
      InlinedInside name d (.aliasOf line column label target) (.aliasOf line column label target)
  | sequence (line : Nat) (tag : Option String) {items items' : List Node}
      (h : InlinedItems name d items items') :
      InlinedInside name d (.sequence line tag items) (.sequence line tag items')
  | mapping (line : Nat) (tag : Option String) {entries entries' : List (Node × Node)}
      (h : InlinedEntries name d entries entries') :
      InlinedInside name d (.mapping line tag entries) (.mapping line tag entries')

/-- The second node is the first one, a node of the document with this name, with aliases replaced
by copies. -/
inductive Inlined (name : String) (d : Document) : Node → Node → Prop
  | inside {n n' : Node} (h : InlinedInside name d n n') : Inlined name d n n'
  | replaced (line column : Nat) (label : String) {target : Anchor} {t t' : Node}
      (hname : target.document = name) (htarget : d.anchors[target.number]? = some t)
      (halias : t.isAlias = false) (h : InlinedInside name d t t') :
      Inlined name d (.aliasOf line column label target) t'

/-- The items of a sequence, with aliases replaced by copies. -/
inductive InlinedItems (name : String) (d : Document) : List Node → List Node → Prop
  | nil : InlinedItems name d [] []
  | cons {n n' : Node} {items items' : List Node} (h : Inlined name d n n')
      (hitems : InlinedItems name d items items') :
      InlinedItems name d (n :: items) (n' :: items')

/-- The entries of a mapping, with aliases in their values replaced by copies. -/
inductive InlinedEntries (name : String) (d : Document) :
    List (Node × Node) → List (Node × Node) → Prop
  | nil : InlinedEntries name d [] []
  | cons {k v v' : Node} {entries entries' : List (Node × Node)} (h : Inlined name d v v')
      (hkey : v.isAlias → v' = v ∨ Inlinable k v')
      (hentries : InlinedEntries name d entries entries') :
      InlinedEntries name d ((k, v) :: entries) ((k, v') :: entries')

end

/-- The second node is the first one with aliases replaced by copies, and the aliases that lead to
the document are aliases of it. -/
structure Copied (name : String) (d : Document) (n n' : Node) : Prop where
  inlined : Inlined name d n n'
  known : d.Known name n.aliases

/-- The second document is the first one with aliases replaced by copies. -/
structure Document.Inlines (name : String) (d d' : Document) : Prop where
  root : InlinedInside name d d.root d'.root
  anchors : List.Forall₂ (InlinedInside name d) d.anchors d'.anchors

variable {name : String} {d d' : Document}

mutual

theorem InlinedInside.refl : ∀ n : Node, InlinedInside name d n n
  | .scalar line tag text isPlain => .scalar line tag text isPlain
  | .aliasOf line column label target => .kept line column label target
  | .sequence line tag items => .sequence line tag (InlinedItems.refl items)
  | .mapping line tag entries => .mapping line tag (InlinedEntries.refl entries)

theorem InlinedItems.refl : ∀ items : List Node, InlinedItems name d items items
  | [] => .nil
  | n :: items => .cons (.inside (InlinedInside.refl n)) (InlinedItems.refl items)

theorem InlinedEntries.refl : ∀ entries : List (Node × Node), InlinedEntries name d entries entries
  | [] => .nil
  | (_, v) :: entries =>
    .cons (.inside (InlinedInside.refl v)) (fun _ => .inl rfl) (InlinedEntries.refl entries)

end

theorem Inlined.refl (n : Node) : Inlined name d n n :=
  .inside (.refl n)

/-- Aliases come to an end if those in an anchored node lead to nodes of a lower rank. -/
theorem Document.aliasesEnd_of_rank (rank : Nat → Nat)
    (hrank : ∀ t ∈ d.anchors.zipIdx, ∀ a ∈ t.1.aliases, rank a.target.number < rank t.2)
    (hplaces : ∀ a ∈ d.aliases, ∀ b ∈ d.aliases, a.place = b.place → a = b) :
    d.AliasesEnd name := by
  have hleads : ∀ a b, d.Leads name a b → b ∈ d.aliases ∧
      rank b.target.number < rank a.target.number := by
    rintro a b ⟨-, t, ht, hb⟩
    refine ⟨List.mem_append_right _ (aliases_subset_items (List.mem_of_getElem? ht) hb), ?_⟩
    exact hrank (t, a.target.number) (List.mem_zipIdx_iff_getElem?.2 ht) b hb
  intro a ha b hab hplace
  have hlower : b ∈ d.aliases ∧ rank b.target.number < rank a.target.number := by
    clear hplace
    induction hab with
    | single h => exact hleads a _ h
    | tail _ h ih => exact ⟨(hleads _ _ h).1, (hleads _ _ h).2.trans ih.2⟩
  obtain rfl := hplaces b hlower.1 a ha hplace
  exact absurd hlower.2 (Nat.lt_irrefl _)

mutual

/-- A copy is at least as large as the alias that it replaces. -/
theorem InlinedInside.size_le {n n' : Node} : InlinedInside name d n n' → n.size ≤ n'.size
  | .scalar .. | .kept .. => Nat.le_refl _
  | .sequence _ _ h => Nat.add_le_add_left h.size_le 1
  | .mapping _ _ h => Nat.add_le_add_left h.size_le 1

theorem Inlined.size_le {n n' : Node} : Inlined name d n n' → n.size ≤ n'.size
  | .inside h => h.size_le
  | .replaced .. => n'.one_le_size

theorem InlinedItems.size_le {items items' : List Node} :
    InlinedItems name d items items' → itemsSize items ≤ itemsSize items'
  | .nil => Nat.le_refl _
  | .cons h hitems => Nat.add_le_add h.size_le hitems.size_le

theorem InlinedEntries.size_le {entries entries' : List (Node × Node)} :
    InlinedEntries name d entries entries' → entriesSize entries ≤ entriesSize entries'
  | .nil => Nat.le_refl _
  | .cons h _ hentries => Nat.add_le_add (Nat.add_le_add_left h.size_le _) hentries.size_le

end

/-! ## Parts of related nodes -/

theorem find?_of_forall₂ {α β : Type} {R : α → β → Prop} {p : α → Bool} {q : β → Bool}
    (hpq : ∀ x y, R x y → p x = q y) {xs : List α} {ys : List β} (h : List.Forall₂ R xs ys) :
    Option.Rel R (xs.find? p) (ys.find? q) := by
  induction h with
  | nil => exact .none
  | @cons x y xs ys hxy _ ih =>
    rw [List.find?_cons, List.find?_cons, hpq x y hxy]
    cases q y with
    | true => exact .some hxy
    | false => exact ih

theorem getLast?_of_forall₂ {α β : Type} {R : α → β → Prop} {xs : List α} {ys : List β}
    (h : List.Forall₂ R xs ys) : Option.Rel R xs.getLast? ys.getLast? := by
  rw [List.getLast?_eq_getElem?, List.getLast?_eq_getElem?, h.length_eq]
  exact getElem?_of_forall₂ h _

theorem map_fst_of_forall₂ {α β : Type} {R : α × β → α × β → Prop} (hR : ∀ x y, R x y → y.1 = x.1)
    {xs ys : List (α × β)} (h : List.Forall₂ R xs ys) : ys.map (·.1) = xs.map (·.1) := by
  induction h with
  | nil => rfl
  | cons hxy _ ih => rw [List.map_cons, List.map_cons, hR _ _ hxy, ih]

theorem rel_map {α β γ δ : Type} {R : α → β → Prop} {S : γ → δ → Prop} {f : α → γ} {g : β → δ}
    (hfg : ∀ a b, R a b → S (f a) (g b)) {x : Option α} {y : Option β} (h : Option.Rel R x y) :
    Option.Rel S (x.map f) (y.map g) := by
  cases h with
  | none => exact .none
  | some h => exact .some (hfg _ _ h)

theorem rel_none_left {α β : Type} {R : α → β → Prop} {y : Option β} (h : Option.Rel R none y) :
    y = none := by
  cases h
  rfl

theorem rel_none_right {α β : Type} {R : α → β → Prop} {x : Option α} (h : Option.Rel R x none) :
    x = none := by
  cases h
  rfl

theorem rel_some_left {α β : Type} {R : α → β → Prop} {a : α} {y : Option β}
    (h : Option.Rel R (some a) y) : ∃ b, y = some b ∧ R a b := by
  cases h with
  | some h => exact ⟨_, rfl, h⟩

theorem rel_some_right {α β : Type} {R : α → β → Prop} {x : Option α} {b : β}
    (h : Option.Rel R x (some b)) : ∃ a, x = some a ∧ R a b := by
  cases h with
  | some h => exact ⟨_, rfl, h⟩

theorem InlinedItems.forall₂ {items items' : List Node} (h : InlinedItems name d items items') :
    List.Forall₂ (Inlined name d) items items' := by
  induction items generalizing items' with
  | nil =>
    cases h
    exact .nil
  | cons n items ih =>
    cases h with
    | cons h hitems => exact .cons h (ih hitems)

theorem InlinedItems.of_forall₂ {items items' : List Node}
    (h : List.Forall₂ (Inlined name d) items items') : InlinedItems name d items items' := by
  induction h with
  | nil => exact .nil
  | cons h _ ih => exact .cons h ih

/-- Entries with the same key, the value of the second one having aliases replaced by copies. -/
structure InlinedEntry (name : String) (d : Document) (e e' : Node × Node) : Prop where
  key : e'.1 = e.1
  value : Inlined name d e.2 e'.2
  inlinable : e.2.isAlias → e'.2 = e.2 ∨ Inlinable e.1 e'.2

namespace InlinedEntries

variable {entries entries' : List (Node × Node)}

theorem forall₂ (h : InlinedEntries name d entries entries') :
    List.Forall₂ (InlinedEntry name d) entries entries' := by
  induction entries generalizing entries' with
  | nil =>
    cases h
    exact .nil
  | cons e entries ih =>
    cases h with
    | cons h hkey hentries => exact .cons ⟨rfl, h, hkey⟩ (ih hentries)

theorem of_forall₂ (h : List.Forall₂ (InlinedEntry name d) entries entries') :
    InlinedEntries name d entries entries' := by
  induction h with
  | nil => exact .nil
  | @cons e e' _ _ h _ ih =>
    obtain ⟨k, v⟩ := e
    obtain ⟨k', v'⟩ := e'
    obtain ⟨rfl, hv, hinlinable⟩ := h
    exact .cons hv hinlinable ih

/-- The keys are the same. -/
theorem keys (h : InlinedEntries name d entries entries') :
    entries'.map (·.1) = entries.map (·.1) :=
  map_fst_of_forall₂ (fun _ _ he => he.key) h.forall₂

theorem values (h : InlinedEntries name d entries entries') :
    List.Forall₂ (Inlined name d) (entries.map (·.2)) (entries'.map (·.2)) := by
  rw [List.forall₂_map_left_iff, List.forall₂_map_right_iff]
  exact h.forall₂.imp fun _ _ he => he.value

/-- Of the entries whose key passes a test, the first ones belong together. -/
theorem find? (h : InlinedEntries name d entries entries') (p : Node → Bool) :
    Option.Rel (InlinedEntry name d) (entries.find? fun e => p e.1)
      (entries'.find? fun e => p e.1) :=
  find?_of_forall₂ (fun _ _ he => by rw [he.key]) h.forall₂

/-- Of the entries whose key passes a test, the last ones belong together. -/
theorem getLast?_filter (h : InlinedEntries name d entries entries') (p : Node → Bool) :
    Option.Rel (InlinedEntry name d) (entries.filter fun e => p e.1).getLast?
      (entries'.filter fun e => p e.1).getLast? :=
  getLast?_of_forall₂ (List.rel_filter (fun e e' (he : InlinedEntry name d e e') => by
    simp only [he.key]) h.forall₂)

/-- The keys are the same, and so are the values but for copies. -/
theorem copied (h : InlinedEntries name d entries entries')
    (hknown : d.Known name (entriesAliases entries)) :
    List.Forall₂ (fun e e' => e'.1 = e.1 ∧ Copied name d e.2 e'.2) entries entries' := by
  have hforall := h.forall₂
  clear h
  induction hforall with
  | nil => exact .nil
  | @cons e e' entries entries' h _ ih =>
    have hvalue := hknown.mono (value_aliases_subset List.mem_cons_self)
    exact .cons ⟨h.key, h.value, hvalue⟩ (ih (hknown.mono (List.subset_append_right _ _)))

end InlinedEntries

theorem withChildren_mapping (line : Nat) (tag : Option String) (entries : List (Node × Node))
    (cs : List Node) : (Node.mapping line tag entries).withChildren cs =
      .mapping line tag (List.zip (entries.map (·.1)) cs) := by
  rw [Node.withChildren, List.zip_map_left, List.zip, List.map_zipWith]
  rfl

namespace InlinedInside

variable {n n' : Node}

theorem isAlias (h : InlinedInside name d n n') : n'.isAlias = n.isAlias := by
  cases h <;> rfl

theorem inlinable (h : InlinedInside name d n n') {key : Node} (hn : Inlinable key n) :
    Inlinable key n' := by
  cases h <;> exact hn

theorem children (h : InlinedInside name d n n') :
    List.Forall₂ (Inlined name d) n.children n'.children := by
  cases h with
  | scalar | kept => exact .nil
  | sequence line tag h => exact h.forall₂
  | mapping line tag h => exact h.values

/-- With the same children the nodes are the same. -/
theorem withChildren (h : InlinedInside name d n n') (cs : List Node) :
    n'.withChildren cs = n.withChildren cs := by
  cases h with
  | scalar | kept | sequence => rfl
  | mapping line tag h => rw [withChildren_mapping, withChildren_mapping, h.keys]

theorem entryAt? (h : InlinedInside name d n n') (key : String) :
    Option.Rel (Inlined name d) (n.entryAt? key) (n'.entryAt? key) := by
  cases h with
  | mapping line tag h => exact rel_map (fun _ _ he => he.value) (h.find? fun k => k.label == key)
  | scalar | kept | sequence => exact .none

end InlinedInside

/-! ## Libraries -/

/-- What two libraries have in the same place: the documents with the name, or another document,
whose aliases do not lead to them. -/
inductive InlinedDocument (name : String) (d d' : Document) :
    String × Document → String × Document → Prop
  | named : InlinedDocument name d d' (name, d) (name, d')
  | other {e : String × Document} (hname : e.1 ≠ name)
      (haliases : ∀ a ∈ e.2.aliases, a.target.document ≠ name) :
      InlinedDocument name d d' e e

/-- The libraries are the same, except that the second one has the second document under the
name. -/
structure Library.Inlines (name : String) (d d' : Document) (l l' : Library) : Prop where
  documents : List.Forall₂ (InlinedDocument name d d') l l'
  present : Pairs.find? name l = some d

namespace Library.Inlines

variable {l l' : Library}

theorem single (name : String) (d d' : Document) :
    Library.Inlines name d d' [(name, d)] [(name, d')] :=
  ⟨.cons .named .nil, by simp [Pairs.find?]⟩

theorem find?_self (h : Library.Inlines name d d' l l') : Pairs.find? name l' = some d' := by
  obtain ⟨hdocuments, hpresent⟩ := h
  induction hdocuments with
  | nil => cases hpresent
  | cons he _ ih =>
    rw [Pairs.find?_cons] at hpresent ⊢
    cases he with
    | named => simp
    | other hname haliases =>
      rw [if_neg hname] at hpresent ⊢
      exact ih hpresent

theorem find?_other (h : Library.Inlines name d d' l l') {other : String} (hother : other ≠ name) :
    Pairs.find? other l' = Pairs.find? other l ∧
      ∀ e, Pairs.find? other l = some e → ∀ a ∈ e.aliases, a.target.document ≠ name := by
  obtain ⟨hdocuments, -⟩ := h
  induction hdocuments with
  | nil => exact ⟨rfl, nofun⟩
  | @cons e e' _ _ he _ ih =>
    rw [Pairs.find?_cons, Pairs.find?_cons]
    cases he with
    | named => simpa [hother.symm] using ih
    | other hname haliases =>
      by_cases heq : e.1 = other
      · simpa [heq] using haliases
      · simpa [heq] using ih

/-- Another document can be added to both. -/
theorem insert (h : Library.Inlines name d d' l l') {other : String} {e : Document}
    (hother : other ≠ name) (haliases : ∀ a ∈ e.aliases, a.target.document ≠ name) :
    Library.Inlines name d d' (Pairs.insert other e l) (Pairs.insert other e l') := by
  refine ⟨?_, by rw [Pairs.find?_insert, if_neg hother.symm, h.present]⟩
  have hnew : InlinedDocument name d d' (other, e) (other, e) := .other hother haliases
  have hdocuments := h.documents
  clear h
  induction hdocuments with
  | nil => exact .cons hnew .nil
  | @cons x x' l l' hx hl ih =>
    have hkey : x'.1 = x.1 := by cases hx <;> rfl
    obtain ⟨k, v⟩ := x
    obtain ⟨k', v'⟩ := x'
    obtain rfl : k' = k := hkey
    rw [Pairs.insert, Pairs.insert]
    split
    · exact .cons hnew (.cons hx hl)
    · split
      · exact .cons hnew hl
      · exact .cons hx ih

/-- Copies make a library larger. -/
theorem size_le (h : Library.Inlines name d d' l l') (hd : d.Inlines name d') :
    l.size ≤ l'.size := by
  have hanchors : itemsSize d.anchors ≤ itemsSize d'.anchors := by
    have hforall := hd.anchors
    generalize d.anchors = ns, d'.anchors = ns' at hforall
    induction hforall with
    | nil => exact Nat.le_refl _
    | cons h _ ih => exact Nat.add_le_add h.size_le ih
  have hsum : ∀ {m m' : Nat}, m ≤ m' →
      l.foldl (fun n e => n + (e.2.root.size + itemsSize e.2.anchors)) m ≤
        l'.foldl (fun n e => n + (e.2.root.size + itemsSize e.2.anchors)) m' := by
    have hdocuments := h.documents
    clear h
    induction hdocuments with
    | nil => exact fun h => h
    | cons he _ ih =>
      intro m m' hm
      refine ih (Nat.add_le_add hm ?_)
      cases he with
      | named => exact Nat.add_le_add hd.root.size_le hanchors
      | other => exact Nat.le_refl _
  exact hsum (Nat.le_refl 0)

theorem reach_le (h : Library.Inlines name d d' l l') (hd : d.Inlines name d') :
    l.reach ≤ l'.reach :=
  Nat.mul_le_mul (Nat.add_le_add_right (h.size_le hd) 2) (Nat.add_le_add_right (h.size_le hd) 2)

theorem node?_self (h : Library.Inlines name d d' l l') {a : Anchor} (ha : a.document = name) :
    l.node? a = d.anchors[a.number]? ∧ l'.node? a = d'.anchors[a.number]? := by
  simp [Library.node?, ha, h.present, h.find?_self]

theorem node?_other (h : Library.Inlines name d d' l l') {a : Anchor} (ha : a.document ≠ name) :
    l'.node? a = l.node? a ∧ ∀ t, l.node? a = some t →
      ∀ b ∈ t.aliases, b.target.document ≠ name := by
  obtain ⟨hfind, haliases⟩ := h.find?_other ha
  refine ⟨by simp [Library.node?, hfind], fun t ht b hb => ?_⟩
  obtain ⟨e, he, ht⟩ := Option.bind_eq_some_iff.1 ht
  exact haliases e he b
    (List.mem_append_right _ (aliases_subset_items (List.mem_of_getElem? ht) hb))

/-- An anchor leads to nodes that are the same but for copies. -/
theorem node? (h : Library.Inlines name d d' l l') (hd : d.Inlines name d') (a : Anchor) :
    Option.Rel (InlinedInside name d) (l.node? a) (l'.node? a) := by
  by_cases ha : a.document = name
  · rw [(h.node?_self ha).1, (h.node?_self ha).2]
    exact getElem?_of_forall₂ hd.anchors a.number
  · rw [(h.node?_other ha).1]
    cases l.node? a with
    | none => exact .none
    | some t => exact .some (.refl t)

end Library.Inlines

end PayloadGen.Yaml
