import PayloadGen.Proofs.Dict
import PayloadGen.Proofs.Except
import PayloadGen.Yaml.Decode

/-!
# Values of plain nodes

A node is plain if it and all nodes in it are scalars, sequences or mappings, and the keys of every
mapping are distinct texts (`Node.Plain`). What is read from a plain node has its mappings as
dictionaries: the same keys and, under each, what is read from the node under that key (`Reads`,
`reads_of_value`). Lists are not looked into.

Readers are followed by what they give (`Decode.Gives`). Nothing is merged in a plain node, so no
keys are ever taken.
-/

namespace PayloadGen.Yaml

/-! ## Places in a node -/

namespace Node

/-- The keys of a mapping. -/
def keys : Node → List String
  | mapping _ _ entries => entries.map (·.1.label)
  | _ => []

/-- The second node stands in the first one under these keys, one inside the other. The items of a
sequence stand where it stands itself. -/
inductive At : Node → List String → Node → Prop
  | here (n : Node) : At n [] n
  | item {line : Nat} {tag : Option String} {items : List Node} {n m : Node} {path : List String}
      (hn : n ∈ items) (h : At n path m) : At (.sequence line tag items) path m
  | entry {line : Nat} {tag : Option String} {entries : List (Node × Node)} {k v m : Node}
      {path : List String} (he : (k, v) ∈ entries) (h : At v path m) :
        At (.mapping line tag entries) (k.label :: path) m

end Node

mutual

/-- Does the test hold of the node and of all nodes in it? -/
def Node.every (test : Node → Bool) : Node → Bool
  | .sequence line tag items => test (.sequence line tag items) && everyItem test items
  | .mapping line tag entries => test (.mapping line tag entries) && everyEntry test entries
  | n => test n

/-- Does the test hold of all nodes in the items of a sequence? -/
def everyItem (test : Node → Bool) : List Node → Bool
  | [] => true
  | n :: r => n.every test && everyItem test r

/-- Does the test hold of all nodes in the values of a mapping? -/
def everyEntry (test : Node → Bool) : List (Node × Node) → Bool
  | [] => true
  | (_, v) :: r => v.every test && everyEntry test r

end

theorem every_of_mem_items {test : Node → Bool} {items : List Node}
    (h : everyItem test items) {n : Node} (hn : n ∈ items) : n.every test := by
  induction items with
  | nil => cases hn
  | cons m items ih =>
    obtain ⟨hm, hitems⟩ := Bool.and_eq_true_iff.1 h
    rcases List.mem_cons.1 hn with rfl | hn
    · exact hm
    · exact ih hitems hn

theorem every_of_mem_entries {test : Node → Bool} {entries : List (Node × Node)}
    (h : everyEntry test entries) {k v : Node} (he : (k, v) ∈ entries) : v.every test := by
  induction entries with
  | nil => cases he
  | cons e entries ih =>
    obtain ⟨hv, hentries⟩ := Bool.and_eq_true_iff.1 h
    rcases List.mem_cons.1 he with rfl | he
    · exact hv
    · exact ih hentries he

/-- A test of all nodes holds of the nodes at all places. -/
theorem Node.At.of_every {test : Node → Bool} {n m : Node} {path : List String} (h : n.At path m)
    (hn : n.every test) : test m := by
  induction h with
  | here n =>
    cases n with
    | sequence | mapping => exact (Bool.and_eq_true_iff.1 hn).1
    | scalar | aliasOf => exact hn
  | item hmem _ ih => exact ih (every_of_mem_items (Bool.and_eq_true_iff.1 hn).2 hmem)
  | entry he _ ih => exact ih (every_of_mem_entries (Bool.and_eq_true_iff.1 hn).2 he)

namespace Node

/-- The node is a scalar that stands for its text. -/
def IsText : Node → Prop
  | scalar _ tag text isPlain => tag.getD (impliedTag text isPlain) = "!!str"
  | _ => False

instance : DecidablePred IsText
  | scalar _ tag text isPlain =>
    inferInstanceAs (Decidable (tag.getD (impliedTag text isPlain) = "!!str"))
  | sequence .. | mapping .. | aliasOf .. => .isFalse id

/-- The node is no alias, and if it is a mapping, its keys are distinct texts. -/
def IsPlain : Node → Prop
  | mapping _ _ entries => (∀ e ∈ entries, e.1.IsText) ∧ (entries.map (·.1.label)).Nodup
  | aliasOf .. => False
  | _ => True

instance : DecidablePred IsPlain
  | mapping _ _ entries =>
    inferInstanceAs (Decidable ((∀ e ∈ entries, e.1.IsText) ∧ (entries.map (·.1.label)).Nodup))
  | aliasOf .. => .isFalse id
  | scalar .. | sequence .. => .isTrue trivial

/-- The node and all nodes in it are plain. -/
def Plain (n : Node) : Prop :=
  ∀ path m, n.At path m → m.IsPlain

namespace Plain

variable {line : Nat} {tag : Option String}

theorem item {items : List Node} (h : Plain (.sequence line tag items)) {n : Node}
    (hn : n ∈ items) : n.Plain :=
  fun path m hm => h path m (.item hn hm)

theorem entry {entries : List (Node × Node)} (h : Plain (.mapping line tag entries))
    {e : Node × Node} (he : e ∈ entries) : e.2.Plain :=
  fun path m hm => h (e.1.label :: path) m (.entry he hm)

theorem nodup_keys {entries : List (Node × Node)} (h : Plain (.mapping line tag entries)) :
    (entries.map (·.1.label)).Nodup :=
  (h [] _ (.here _)).2

theorem isText {entries : List (Node × Node)} (h : Plain (.mapping line tag entries)) :
    ∀ e ∈ entries, e.1.IsText :=
  (h [] _ (.here _)).1

end Plain

namespace IsText

variable {k : Node}

theorem exists_scalar (h : k.IsText) : ∃ line tag text isPlain, k = .scalar line tag text isPlain ∧
    tag.getD (impliedTag text isPlain) = "!!str" := by
  cases k with
  | scalar line tag text isPlain => exact ⟨line, tag, text, isPlain, rfl, h⟩
  | _ => cases h

theorem tagOf (h : k.IsText) (l : Library) : Decode.tagOf l k = "!!str" := by
  obtain ⟨line, tag, text, isPlain, rfl, htag⟩ := h.exists_scalar
  cases tag <;> exact htag

theorem isMerge (h : k.IsText) : Decode.isMerge k = false := by
  obtain ⟨line, tag, text, isPlain, rfl, htag⟩ := h.exists_scalar
  cases tag with
  | none =>
    by_cases hm : text == "<<" && isPlain
    · obtain ⟨htext, rfl⟩ := Bool.and_eq_true_iff.1 hm
      simp [impliedTag, htext] at htag
    · simpa [Decode.isMerge] using hm
  | some t =>
    cases htag
    simp [Decode.isMerge]

theorem not_binary {line : Nat} {tag : Option String} {text : String} {isPlain : Bool}
    (h : (scalar line tag text isPlain).IsText) : (tag == some "!!binary") = false := by
  cases tag with
  | none => rfl
  | some t =>
    cases h
    decide

end IsText

end Node

/-! ## Values -/

/-- The value has the mappings of the node: a mapping is a dictionary with its keys, and what stands
under a key has the mappings of the node there. -/
inductive Reads : Node → Value → Prop
  | scalar {line : Nat} {tag : Option String} {text : String} {isPlain : Bool} {v : Value}
      (hv : v.isCollection = false) : Reads (.scalar line tag text isPlain) v
  | sequence {line : Nat} {tag : Option String} {items : List Node} {vs : List Value} :
      Reads (.sequence line tag items) (.list vs)
  | mapping {line : Nat} {tag : Option String} {entries : List (Node × Node)} {d : Pairs Value}
      (hasc : d.Ascending) (hkeys : ∀ key, key ∈ d.keys ↔ key ∈ entries.map (·.1.label))
      (hentries : ∀ e ∈ entries, ∀ v, (e.1.label, v) ∈ d → Reads e.2 v) :
      Reads (.mapping line tag entries) (.dict d)

theorem isCollection_of_constant? {s : String} {v : Value} (h : constant? s = some v) :
    v.isCollection = false := by
  unfold constant? at h
  split at h
  · cases h; rfl
  split at h
  · cases h; rfl
  split at h
  · cases h; rfl
  split at h
  · cases h; rfl
  split at h
  · cases h; rfl
  split at h
  · cases h; rfl
  · cases h

theorem isCollection_of_number? {s : List Char} {v : Value} (h : number? s = some v) :
    v.isCollection = false := by
  unfold number? at h
  dsimp only at h
  split at h
  · cases h; rfl
  split at h
  · cases h; rfl
  · obtain ⟨n, -, rfl⟩ := Option.map_eq_some_iff.1 h
    rfl

theorem isCollection_looksLike (times : Bool) (s : String) :
    (looksLike times s).isCollection = false := by
  unfold looksLike
  split
  · exact isCollection_of_constant? (by assumption)
  · dsimp only
    split
    · cases Binary64.read? _ <;> rfl
    · split
      · split
        · rfl
        · cases h : number? _ with
          | none => rfl
          | some v => exact isCollection_of_number? h
      · rfl
    · rfl

theorem isCollection_of_scalarValue {tag : Option String} {text : String}
    {isPlain : Bool} {v : Value} (h : scalarValue tag text isPlain = .ok v) :
    v.isCollection = false := by
  unfold scalarValue at h
  split at h
  · cases h
    split
    · exact isCollection_looksLike _ _
    · rfl
  · cases h
    rfl
  · split at h
    · cases h; rfl
    · cases h
  · split at h
    · dsimp only at h
      split at h
      · cases h
        exact isCollection_looksLike _ _
      · split at h
        · split at h
          · cases h; rfl
          · cases h
        · cases h
    · cases h
      rfl

theorem eq_text_of_tag {v : Value} (h : v.tag = "!!str") : ∃ s, v = .text s := by
  cases v with
  | text s => exact ⟨s, rfl⟩
  | _ => simp [Value.tag] at h

theorem scalarValue_of_isText {line : Nat} {tag : Option String} {text : String} {isPlain : Bool}
    (h : (Node.scalar line tag text isPlain).IsText) :
    ∃ s, scalarValue tag text isPlain = .ok (.text s) := by
  cases tag with
  | some t =>
    cases (show t = "!!str" from h)
    exact ⟨text, rfl⟩
  | none =>
    have htag : impliedTag text isPlain = "!!str" := h
    unfold impliedTag at htag
    cases isPlain with
    | false => exact ⟨text, rfl⟩
    | true =>
      rw [Bool.not_true, if_neg Bool.false_ne_true] at htag
      split at htag
      · simp at htag
      · obtain ⟨s, hs⟩ := eq_text_of_tag htag
        exact ⟨s, congrArg Except.ok hs⟩

namespace Decode

/-- If no keys are taken, the reader gives such values only, and still no keys are taken. -/
def Gives {α : Type} (x : Decode α) (P : α → Prop) : Prop :=
  ∀ c s a s', s.taken = none → x c s = .ok (a, s') → P a ∧ s'.taken = none

namespace Gives

variable {α β : Type} {x : Decode α} {P : α → Prop} {Q : β → Prop}

theorem bind {f : α → Decode β} (hx : Gives x P) (hf : ∀ a, P a → Gives (f a) Q) :
    Gives (x >>= f) Q := by
  intro c s b s'' hs h
  obtain ⟨⟨a, s'⟩, ha, hb⟩ := Except.bind_eq_ok_iff.1 h
  obtain ⟨hP, hs'⟩ := hx c s a s' hs ha
  exact hf a hP c s' b s'' hs' hb

theorem pure {a : α} (h : P a) : Gives (Pure.pure a) P := by
  intro c s a' s' hs heq
  cases heq
  exact ⟨h, hs⟩

theorem throw (e : Error) : Gives (throw e : Decode α) P := by
  intro c s a s' hs h
  cases h

theorem read {f : DecodeContext → Decode β} (hf : ∀ c, Gives (f c) Q) :
    Gives (MonadReader.read >>= f) Q :=
  fun c s b s' hs h => hf c c s b s' hs h

theorem mono {P' : α → Prop} (h : Gives x P) (hP : ∀ a, P a → P' a) : Gives x P' := by
  intro c s a s' hs heq
  obtain ⟨ha, hs'⟩ := h c s a s' hs heq
  exact ⟨hP a ha, hs'⟩

theorem lift {y : Except Error α} (h : ∀ a, y = .ok a → P a) : Gives (liftM y) P := by
  intro c s a s' hs heq
  cases y with
  | error e => cases heq
  | ok b =>
    cases heq
    exact ⟨h a rfl, hs⟩

theorem modify {g : DecodeState → DecodeState} (h : ∀ s, s.taken = none → (g s).taken = none) :
    Gives (modify g) fun _ => True := by
  intro c s a s' hs heq
  cases heq
  exact ⟨trivial, h s hs⟩

theorem get : Gives get fun s : DecodeState => s.taken = none := by
  intro c s a s' hs heq
  cases heq
  exact ⟨hs, hs⟩

end Gives

theorem gives_visit : Gives visit fun _ => True := by
  refine .read fun c => .bind (.modify fun s hs => hs) fun _ _ => .bind .get fun s _ => ?_
  split
  · exact .throw _
  · exact .pure trivial

theorem repeatedKeys_eq_nil {entries : List (Node × Node)} (htexts : ∀ e ∈ entries, e.1.IsText)
    (hkeys : (entries.map (·.1.label)).Nodup) : repeatedKeys entries = [] := by
  induction entries with
  | nil => rfl
  | cons e entries ih =>
    obtain ⟨k, v⟩ := e
    obtain ⟨hfresh, hkeys⟩ := List.nodup_cons.1 hkeys
    rw [repeatedKeys, ih (fun e he => htexts e (List.mem_cons_of_mem _ he)) hkeys, List.append_nil,
      List.map_eq_nil_iff, List.filter_eq_nil_iff]
    intro e he hsame
    obtain ⟨_, _, text, _, rfl, -⟩ := (htexts (k, v) List.mem_cons_self).exists_scalar
    obtain ⟨_, _, text', _, hk, -⟩ := (htexts e (List.mem_cons_of_mem _ he)).exists_scalar
    rw [hk] at hsame
    refine hfresh (List.mem_map.2 ⟨e, he, ?_⟩)
    rw [hk]
    exact (eq_of_beq hsame).symm

theorem gives_keysDiffer {entries : List (Node × Node)} (htexts : ∀ e ∈ entries, e.1.IsText)
    (hkeys : (entries.map (·.1.label)).Nodup) : Gives (keysDiffer entries) (· = true) := by
  refine .bind (.modify fun s hs => hs) fun _ _ => .pure ?_
  rw [repeatedKeys_eq_nil htexts hkeys]
  rfl

theorem gives_keyText (fuel : Nat) {k : Node} (h : k.IsText) :
    Gives (keyText fuel k) (· = some k.label) := by
  cases fuel with
  | zero => exact .throw _
  | succ fuel =>
    obtain ⟨line, tag, text, isPlain, rfl, -⟩ := h.exists_scalar
    obtain ⟨s, hs⟩ := scalarValue_of_isText h
    refine .bind gives_visit fun _ _ => ?_
    simp only [hs]
    refine .bind (.pure rfl) fun v hv => ?_
    subst hv
    simp only [h.not_binary]
    exact .pure rfl

/-! ## Readers -/

/-- The values have been read from the entries, in their order, and stand under their keys. -/
abbrev ReadsEntries : List (Node × Node) → List (String × Value) → Prop :=
  List.Forall₂ fun e p => p.1 = e.1.label ∧ Reads e.2 p.2

theorem ReadsEntries.map_fst {es : List (Node × Node)} {ps : List (String × Value)}
    (h : ReadsEntries es ps) : ps.map (·.1) = es.map (·.1.label) := by
  induction h with
  | nil => rfl
  | cons hp _ ih => rw [List.map_cons, List.map_cons, hp.1, ih]

theorem ReadsEntries.reads {line : Nat} {tag : Option String} {es : List (Node × Node)}
    {ps : List (String × Value)} (h : ReadsEntries es ps) (hkeys : (es.map (·.1.label)).Nodup) :
    Reads (.mapping line tag es) (.dict (Pairs.ofList ps)) := by
  refine .mapping (Pairs.ascending_ofList ps) (fun key => ?_) fun e he v hv => ?_
  · rw [Pairs.mem_keys_ofList, h.map_fst]
  · obtain ⟨e', he', hlabel, hreads⟩ := exists_left_of_forall₂ h (Pairs.mem_of_mem_ofList hv)
    rw [List.inj_on_of_nodup_map hkeys he he' hlabel]
    exact hreads

/-- What the readers with so much fuel give on plain nodes. -/
structure GivesPlain (fuel : Nat) : Prop where
  value : ∀ n : Node, n.Plain → Gives (value fuel n) (Reads n)
  values : ∀ ns : List Node, (∀ n ∈ ns, n.Plain) → Gives (values fuel ns) fun _ => True
  entriesInto : ∀ (es : List (Node × Node)) (d : Pairs Value), (∀ e ∈ es, e.1.IsText ∧ e.2.Plain) →
    Gives (entriesInto fuel es (.dict d) none) fun r => r.2 = none ∧
      ∃ ps, ReadsEntries es ps ∧ r.1 = .dict (ps.foldl (fun d p => d.insert p.1 p.2) d)
  mappingInto : ∀ es : List (Node × Node), (∀ e ∈ es, e.1.IsText ∧ e.2.Plain) →
    Gives (mappingInto fuel es (.dict [])) fun acc =>
      ∃ ps, ReadsEntries es ps ∧ acc = .dict (Pairs.ofList ps)

namespace GivesPlain

variable {fuel : Nat}

theorem value_succ (ih : GivesPlain fuel) (n : Node) (hn : n.Plain) :
    Gives (Decode.value (fuel + 1) n) (Reads n) := by
  refine .bind gives_visit fun _ _ => ?_
  cases n with
  | aliasOf line column name target => exact (hn [] _ (.here _)).elim
  | scalar line tag text isPlain => exact .lift fun v hv => .scalar (isCollection_of_scalarValue hv)
  | sequence line tag items =>
    exact .bind (ih.values items fun n h => hn.item h) fun vs _ => .pure .sequence
  | mapping line tag entries =>
    refine .read fun c => .bind (gives_keysDiffer hn.isText hn.nodup_keys) fun b hb => ?_
    subst hb
    have hdict : (entries.all fun e => ["!!str", "!!merge"].contains (tagOf c.library e.1)) =
        true :=
      List.all_eq_true.2 fun e he => by rw [(hn.isText e he).tagOf]; decide
    simp only [hdict, if_true]
    have hentries : ∀ e ∈ entries, e.1.IsText ∧ e.2.Plain :=
      fun e he => ⟨hn.isText e he, hn.entry he⟩
    refine .bind (ih.mappingInto entries hentries) fun acc hacc => ?_
    obtain ⟨ps, hps, rfl⟩ := hacc
    exact .pure (hps.reads hn.nodup_keys)

theorem values_succ (ih : GivesPlain fuel) (ns : List Node) (hns : ∀ n ∈ ns, n.Plain) :
    Gives (Decode.values (fuel + 1) ns) fun _ => True := by
  cases ns with
  | nil => exact .pure trivial
  | cons n ns =>
    refine .bind (ih.value n (hns n List.mem_cons_self)) fun _ _ => ?_
    exact .bind (ih.values ns fun n hn => hns n (List.mem_cons_of_mem _ hn)) fun _ _ =>
      .pure trivial

theorem entriesInto_succ (ih : GivesPlain fuel) (es : List (Node × Node)) (d : Pairs Value)
    (hes : ∀ e ∈ es, e.1.IsText ∧ e.2.Plain) :
    Gives (Decode.entriesInto (fuel + 1) es (.dict d) none) fun r => r.2 = none ∧
      ∃ ps, ReadsEntries es ps ∧ r.1 = .dict (ps.foldl (fun d p => d.insert p.1 p.2) d) := by
  cases es with
  | nil => exact .pure ⟨rfl, [], .nil, rfl⟩
  | cons e es =>
    obtain ⟨k, v⟩ := e
    obtain ⟨hk, hv⟩ := hes (k, v) List.mem_cons_self
    rw [Decode.entriesInto, hk.isMerge, if_neg Bool.false_ne_true]
    refine .bind (.modify fun _ _ => rfl) fun _ _ => ?_
    have hkey : Gives (Entries.key? (keyText fuel k) (Decode.value fuel k) (.dict d))
        (· = some (.text k.label)) :=
      .bind (gives_keyText fuel hk) fun key hkey => .pure (congrArg (Option.map Value.text) hkey)
    refine .bind hkey fun key hkey => ?_
    subst hkey
    refine .bind (ih.value v hv) fun item hitem => ?_
    refine (ih.entriesInto es (d.insert k.label item) fun e he =>
      hes e (List.mem_cons_of_mem _ he)).mono ?_
    rintro r ⟨htaken, ps, hps, hr⟩
    exact ⟨htaken, (k.label, item) :: ps, .cons ⟨rfl, hitem⟩ hps, hr⟩

theorem mappingInto_succ (ih : GivesPlain fuel) (es : List (Node × Node))
    (hes : ∀ e ∈ es, e.1.IsText ∧ e.2.Plain) :
    Gives (Decode.mappingInto (fuel + 1) es (.dict [])) fun acc =>
      ∃ ps, ReadsEntries es ps ∧ acc = .dict (Pairs.ofList ps) := by
  refine .bind .get fun s hs => ?_
  rw [hs]
  refine .bind (ih.entriesInto es [] hes) fun r hr => ?_
  obtain ⟨acc, taken⟩ := r
  obtain ⟨htaken, ps, hps, hacc⟩ := hr
  have hmerge : es.filter (fun e => isMerge e.1) = [] :=
    List.filter_eq_nil_iff.2 fun e he => by rw [(hes e he).1.isMerge]; exact Bool.false_ne_true
  dsimp only at htaken hacc ⊢
  rw [thenMerge, hmerge, htaken]
  exact .bind (.modify fun _ _ => rfl) fun _ _ => .pure ⟨ps, hps, hacc⟩

end GivesPlain

theorem givesPlain (fuel : Nat) : GivesPlain fuel := by
  induction fuel with
  | zero =>
    exact ⟨fun _ _ => .throw _, fun _ _ => .throw _, fun _ _ _ => .throw _, fun _ _ => .throw _⟩
  | succ fuel ih => exact ⟨ih.value_succ, ih.values_succ, ih.entriesInto_succ, ih.mappingInto_succ⟩

end Decode

/-- What is read from a plain node has its mappings. -/
theorem reads_of_value {l : Library} {n : Node} {v : Value} (hn : n.Plain) (h : l.value n = .ok v) :
    Reads n v := by
  obtain ⟨⟨v', s⟩, hv, h⟩ := Except.bind_eq_ok_iff.1 h
  have hreads : Reads n v' :=
    ((Decode.givesPlain _).value n hn ⟨l, []⟩ ⟨[], 0, 0, none⟩ v' s rfl hv).1
  dsimp only at h
  split at h
  · cases h
    exact hreads
  · cases h

end PayloadGen.Yaml
