import PayloadGen.Proofs.Yaml.Plain
import PayloadGen.Yaml.Writer

/-!
# Reading nodes that show a written tree

A node shows a tree of numbers, texts and mappings if it has its shape, its keys and its values
(`Block.Shown`). From such a node the readers of `Decode` get the tree back: its value
(`Library.dict_of_shown`), and the texts of a mapping under two keys (`Library.fill_of_shown`).
There is no alias in such a node and nothing in it is merged, so a reader that succeeds leaves
nothing to complain about (`Decode.Yields`). The induction is on the fuel, of which three times the
number of nodes is enough for values and four times for records.
-/

namespace PayloadGen.Yaml

/-! ## Trees and nodes -/

mutual

/-- The value of a tree. -/
def Block.value : Block → Value
  | .int n => .int n
  | .text s => .text s
  | .mapping entries => .dict (Pairs.ofList (blockValues entries))

/-- The values of the entries of a mapping. -/
def blockValues : List (String × Block) → List (String × Value)
  | [] => []
  | (k, b) :: r => (k, b.value) :: blockValues r

end

mutual

/-- The keys of every mapping are distinct. -/
def Block.Distinct : Block → Prop
  | .int _ | .text _ => True
  | .mapping entries => (entries.map (·.1)).Nodup ∧ EntriesDistinct entries

/-- The keys of every mapping in the values of entries are distinct. -/
def EntriesDistinct : List (String × Block) → Prop
  | [] => True
  | (_, b) :: r => b.Distinct ∧ EntriesDistinct r

end

mutual

/-- The node shows the tree. -/
def Block.Shown : Block → Node → Prop
  | .int n, .scalar _ tag text isPlain => scalarValue tag text isPlain = .ok (.int n)
  | .text s, n => n.IsText ∧ n.label = s
  | .mapping blocks, .mapping _ _ entries => EntriesShown blocks entries
  | _, _ => False

/-- The entries of a mapping show those of a tree, in their order. -/
def EntriesShown : List (String × Block) → List (Node × Node) → Prop
  | [], [] => True
  | (k, b) :: bs, (key, n) :: es => (key.IsText ∧ key.label = k) ∧ b.Shown n ∧ EntriesShown bs es
  | _, _ => False

end

/-- Is the value the number? -/
def isInt (n : Int) : Except Error Value → Bool
  | .ok (.int m) => m == n
  | _ => false

theorem isInt_iff {n : Int} {v : Except Error Value} : isInt n v = true ↔ v = .ok (.int n) := by
  rcases v with _ | (_ | _ | _ | _ | _ | _ | _ | _ | _) <;> simp [isInt]

mutual

/-- Whether a node shows a tree can be computed. -/
def Block.decideShown : (b : Block) → (n : Node) → Decidable (b.Shown n)
  | .int _, .scalar _ tag text isPlain =>
    decidable_of_iff (isInt _ (scalarValue tag text isPlain) = true) isInt_iff
  | .int _, .sequence .. | .int _, .mapping .. | .int _, .aliasOf .. => .isFalse id
  | .text s, n => inferInstanceAs (Decidable (n.IsText ∧ n.label = s))
  | .mapping bs, .mapping _ _ es => decideEntriesShown bs es
  | .mapping _, .scalar .. | .mapping _, .sequence .. | .mapping _, .aliasOf .. => .isFalse id

/-- Whether entries show those of a tree can be computed. -/
def decideEntriesShown :
    (bs : List (String × Block)) → (es : List (Node × Node)) → Decidable (EntriesShown bs es)
  | [], [] => .isTrue trivial
  | (k, b) :: bs, (key, n) :: es =>
    have := b.decideShown n
    have := decideEntriesShown bs es
    inferInstanceAs (Decidable ((key.IsText ∧ key.label = k) ∧ b.Shown n ∧ EntriesShown bs es))
  | [], _ :: _ | _ :: _, [] => .isFalse id

end

instance (b : Block) (n : Node) : Decidable (b.Shown n) :=
  b.decideShown n

theorem EntriesShown.map_label {bs : List (String × Block)} {es : List (Node × Node)}
    (h : EntriesShown bs es) : es.map (·.1.label) = bs.map (·.1) := by
  induction bs generalizing es with
  | nil =>
    cases es with
    | nil => rfl
    | cons e es => cases h
  | cons b bs ih =>
    cases es with
    | nil => cases h
    | cons e es =>
      obtain ⟨⟨-, hlabel⟩, -, hrest⟩ := h
      rw [List.map_cons, List.map_cons, hlabel, ih hrest]

theorem EntriesShown.isText {bs : List (String × Block)} {es : List (Node × Node)}
    (h : EntriesShown bs es) : ∀ e ∈ es, e.1.IsText := by
  induction bs generalizing es with
  | nil =>
    cases es with
    | nil => simp
    | cons e es => cases h
  | cons b bs ih =>
    cases es with
    | nil => cases h
    | cons e es =>
      obtain ⟨⟨hkey, -⟩, -, hrest⟩ := h
      exact List.forall_mem_cons.2 ⟨hkey, ih hrest⟩

/-- Texts as the fields of a record. -/
def textFields (ps : List (String × String)) : List (String × Filled) :=
  ps.map fun p => (p.1, .text p.2)

/-- Texts as the entries of a tree. -/
def textBlocks (ps : List (String × String)) : List (String × Block) :=
  ps.map fun p => (p.1, .text p.2)

/-! ## Texts -/

theorem constant?_ne_text {s t : String} : constant? s ≠ some (.text t) := by
  unfold constant?
  repeat' split
  all_goals simp

theorem number?_ne_text {s : List Char} {t : String} : number? s ≠ some (.text t) := by
  unfold number?
  dsimp only
  split
  · simp
  split
  · simp
  · simp

/-- What looks like a text is that text. -/
theorem looksLike_eq_text {times : Bool} {s t : String} (h : looksLike times s = .text t) :
    t = s := by
  unfold looksLike at h
  split at h
  · rename_i hconstant
    exact absurd (h ▸ hconstant) constant?_ne_text
  dsimp only at h
  split at h
  · cases hread : Binary64.read? s.toList with
    | none =>
      rw [hread] at h
      exact (Value.text.inj h).symm
    | some x =>
      rw [hread] at h
      cases h
  · split at h
    · split at h
      · cases h
      · cases hnumber : number? s.toList with
        | none =>
          rw [hnumber] at h
          exact (Value.text.inj h).symm
        | some v =>
          rw [hnumber] at h
          obtain rfl : v = .text t := h
          exact absurd hnumber number?_ne_text
    · exact (Value.text.inj h).symm
  · cases h

/-- A scalar that stands for its text has it as its value. -/
theorem scalarValue_eq_text {line : Nat} {tag : Option String} {text : String} {isPlain : Bool}
    (h : (Node.scalar line tag text isPlain).IsText) :
    scalarValue tag text isPlain = .ok (.text text) := by
  obtain ⟨s, hs⟩ := scalarValue_of_isText h
  cases tag with
  | some t =>
    cases (show t = "!!str" from h)
    rfl
  | none =>
    rw [hs]
    cases isPlain with
    | false => exact hs.symm
    | true => rw [looksLike_eq_text (Except.ok.inj hs)]

/-! ## Readers that succeed -/

/-- Nothing has failed to fit, no alias has been followed, and no keys are taken. -/
structure DecodeState.Calm (s : DecodeState) : Prop where
  mismatches : s.mismatches = []
  aliased : s.aliased = 0
  taken : s.taken = none

namespace Decode

/-- Outside of aliases the reader gives the value and leaves nothing behind. -/
def Yields {α : Type} (x : Decode α) (a : α) : Prop :=
  ∀ l s, s.Calm → ∃ s', x ⟨l, []⟩ s = .ok (a, s') ∧ s'.Calm

namespace Yields

variable {α β : Type} {x : Decode α} {a : α} {b : β}

theorem bind {f : α → Decode β} (hx : Yields x a) (hf : Yields (f a) b) : Yields (x >>= f) b := by
  intro l s hs
  obtain ⟨s', hx, hs'⟩ := hx l s hs
  obtain ⟨s'', hf, hs''⟩ := hf l s' hs'
  exact ⟨s'', Except.bind_eq_ok_iff.2 ⟨(a, s'), hx, hf⟩, hs''⟩

theorem pure : Yields (Pure.pure a) a :=
  fun _ s hs => ⟨s, rfl, hs⟩

theorem read {f : DecodeContext → Decode β} (hf : ∀ l, Yields (f ⟨l, []⟩) b) :
    Yields (MonadReader.read >>= f) b :=
  fun l s hs => hf l l s hs

theorem get {f : DecodeState → Decode β} (hf : ∀ s, s.Calm → Yields (f s) b) :
    Yields (MonadState.get >>= f) b :=
  fun l s hs => hf s hs l s hs

theorem lift {y : Except Error α} (h : y = .ok a) : Yields (liftM y) a := by
  subst h
  exact fun _ s hs => ⟨s, rfl, hs⟩

theorem modify {g : DecodeState → DecodeState} (h : ∀ s, s.Calm → (g s).Calm) :
    Yields (modify g) () :=
  fun _ s hs => ⟨g s, rfl, h s hs⟩

theorem run (h : Yields x a) (l : Library) : Decode.run x l = .ok a := by
  obtain ⟨s, hx, hs⟩ := h l ⟨[], 0, 0, none⟩ ⟨rfl, rfl, rfl⟩
  refine Except.bind_eq_ok_iff.2 ⟨(a, s), hx, ?_⟩
  simp only [hs.mismatches, List.isEmpty_nil, if_true]
  rfl

end Yields

theorem yields_visit : Yields visit () := by
  refine .read fun l =>
    .bind (.modify fun s hs => ⟨hs.mismatches, hs.aliased, hs.taken⟩) (.get fun s hs => ?_)
  rw [excessive, hs.aliased]
  exact .pure

theorem yields_keysDiffer {entries : List (Node × Node)} (htexts : ∀ e ∈ entries, e.1.IsText)
    (hkeys : (entries.map (·.1.label)).Nodup) : Yields (keysDiffer entries) true := by
  have hnone := repeatedKeys_eq_nil htexts hkeys
  rw [keysDiffer, hnone]
  exact .bind (.modify fun s hs => hs) .pure

theorem yields_keyText (fuel : Nat) {k : Node} (h : k.IsText) :
    Yields (keyText (fuel + 1) k) (some k.label) := by
  obtain ⟨line, tag, text, isPlain, rfl, -⟩ := h.exists_scalar
  refine .bind yields_visit (.bind (.lift (scalarValue_eq_text h)) ?_)
  simp only [h.not_binary]
  exact .pure

theorem yields_thenMerge {α : Type} {entries : List (Node × Node)}
    (htexts : ∀ e ∈ entries, e.1.IsText) {keys : Decode (List Value)} {done : α}
    {merge : List Node → Decode α} : Yields (thenMerge entries none keys done merge) done := by
  have hmerge : entries.filter (fun e => isMerge e.1) = [] :=
    List.filter_eq_nil_iff.2 fun e he => by rw [(htexts e he).isMerge]; exact Bool.false_ne_true
  rw [thenMerge, hmerge]
  exact .bind (.modify fun s hs => ⟨hs.mismatches, hs.aliased, rfl⟩) .pure

/-! ## Values -/

/-- What the readers of values with so much fuel yield. -/
structure YieldsValues (fuel : Nat) : Prop where
  value : ∀ (b : Block) (n : Node), b.Shown n → b.Distinct → 3 * n.size ≤ fuel →
    Yields (value fuel n) b.value
  entriesInto : ∀ bs es (d : Pairs Value), EntriesShown bs es → EntriesDistinct bs →
    3 * entriesSize es + 1 ≤ fuel →
    Yields (entriesInto fuel es (.dict d) none)
      (.dict ((blockValues bs).foldl (fun d e => d.insert e.1 e.2) d), none)
  mappingInto : ∀ bs es, EntriesShown bs es → EntriesDistinct bs → 3 * entriesSize es + 2 ≤ fuel →
    Yields (mappingInto fuel es (.dict [])) (.dict (Pairs.ofList (blockValues bs)))

namespace YieldsValues

variable {fuel : Nat}

theorem value_succ (ih : YieldsValues fuel) (b : Block) (n : Node) (hshown : b.Shown n)
    (hdistinct : b.Distinct) (hfuel : 3 * n.size ≤ fuel + 1) :
    Yields (Decode.value (fuel + 1) n) b.value := by
  refine .bind yields_visit ?_
  cases b with
  | int k =>
    cases n with
    | scalar line tag text isPlain => exact .lift hshown
    | _ => cases hshown
  | text t =>
    obtain ⟨htext, rfl⟩ := hshown
    obtain ⟨line, tag, text, isPlain, rfl, -⟩ := htext.exists_scalar
    exact .lift (scalarValue_eq_text htext)
  | mapping bs =>
    cases n with
    | mapping line tag es =>
      have hentries : EntriesShown bs es := hshown
      obtain ⟨hkeys, hdistinct⟩ := hdistinct
      have htexts := hentries.isText
      rw [← hentries.map_label] at hkeys
      refine .read fun l => .bind (yields_keysDiffer htexts hkeys) ?_
      have hdict : (es.all fun e => ["!!str", "!!merge"].contains (tagOf l e.1)) = true :=
        List.all_eq_true.2 fun e he => by rw [(htexts e he).tagOf]; decide
      simp only [hdict, if_true]
      rw [Node.size] at hfuel
      exact .bind (ih.mappingInto bs es hentries hdistinct (by omega)) .pure
    | _ => cases hshown

theorem entriesInto_succ (ih : YieldsValues fuel) (bs : List (String × Block))
    (es : List (Node × Node)) (d : Pairs Value) (hshown : EntriesShown bs es)
    (hdistinct : EntriesDistinct bs) (hfuel : 3 * entriesSize es + 1 ≤ fuel + 1) :
    Yields (Decode.entriesInto (fuel + 1) es (.dict d) none)
      (.dict ((blockValues bs).foldl (fun d e => d.insert e.1 e.2) d), none) := by
  cases bs with
  | nil =>
    cases es with
    | nil => exact .pure
    | cons e es => cases hshown
  | cons b bs =>
    cases es with
    | nil => cases hshown
    | cons e es =>
      obtain ⟨⟨hkey, hlabel⟩, hvalue, hrest⟩ := hshown
      obtain ⟨hdistinct, hdistincts⟩ := hdistinct
      obtain ⟨key, b⟩ := b
      obtain ⟨k, v⟩ := e
      obtain rfl : k.label = key := hlabel
      rw [entriesSize] at hfuel
      have hk := k.one_le_size
      obtain ⟨fuel, rfl⟩ : ∃ m, fuel = m + 1 := ⟨fuel - 1, by omega⟩
      rw [Decode.entriesInto, hkey.isMerge, if_neg Bool.false_ne_true]
      refine .bind (.modify fun s hs => ⟨hs.mismatches, hs.aliased, rfl⟩) ?_
      have hread :
          Yields (Entries.key? (keyText (fuel + 1) k) (Decode.value (fuel + 1) k) (.dict d))
          (some (.text k.label)) := .bind (yields_keyText fuel hkey) .pure
      refine .bind hread (.bind (ih.value b v hvalue hdistinct (by omega)) ?_)
      exact ih.entriesInto bs es _ hrest hdistincts (by omega)

theorem mappingInto_succ (ih : YieldsValues fuel) (bs : List (String × Block))
    (es : List (Node × Node)) (hshown : EntriesShown bs es) (hdistinct : EntriesDistinct bs)
    (hfuel : 3 * entriesSize es + 2 ≤ fuel + 1) :
    Yields (Decode.mappingInto (fuel + 1) es (.dict []))
      (.dict (Pairs.ofList (blockValues bs))) := by
  refine .get fun s hs => ?_
  rw [hs.taken]
  exact .bind (ih.entriesInto bs es [] hshown hdistinct (by omega)) (yields_thenMerge hshown.isText)

end YieldsValues

theorem yieldsValues (fuel : Nat) : YieldsValues fuel := by
  induction fuel with
  | zero =>
    refine ⟨fun b n _ _ h => ?_, fun bs es d _ _ h => ?_, fun bs es _ _ h => ?_⟩
    · have hn := n.one_le_size
      omega
    · omega
    · omega
  | succ fuel ih => exact ⟨ih.value_succ, ih.entriesInto_succ, ih.mappingInto_succ⟩

/-! ## Records -/

theorem yields_fillText (fuel : Nat) (old : Filled) {n : Node} (h : n.IsText) :
    Yields (fillShape (fuel + 1) .text old n) (.text n.label) := by
  obtain ⟨line, tag, text, isPlain, rfl, -⟩ := h.exists_scalar
  refine .bind yields_visit (.bind (.lift (scalarValue_eq_text h)) ?_)
  simp only [h.not_binary]
  exact .pure

theorem setField_append {fields : List (String × Filled)} {name : String}
    (h : name ∉ fields.map (·.1)) (value : Filled) :
    (Filled.record fields).setField name value = .record (fields ++ [(name, value)]) := by
  have hany : fields.any (·.1 == name) = false := by
    rw [List.any_eq_false]
    intro e he heq
    exact h (List.mem_map.2 ⟨e, he, eq_of_beq heq⟩)
  rw [Filled.setField, hany]
  rfl

/-- Texts under new keys are added to the fields one by one. -/
theorem yields_fillEntries_texts {fuel : Nat} {ps : List (String × String)}
    {es : List (Node × Node)} {fields : List (String × Filled)} {done : List String}
    (hshown : EntriesShown (textBlocks ps) es) (hkeys : (fields.map (·.1) ++ ps.map (·.1)).Nodup)
    (hdone : ∀ k ∈ done, k ∈ fields.map (·.1)) (hfuel : 4 * entriesSize es + 1 ≤ fuel) :
    Yields (fillEntries fuel .texts (.record fields) done es none)
      (.record (fields ++ textFields ps), none) := by
  induction ps generalizing es fields done fuel with
  | nil =>
    obtain ⟨fuel, rfl⟩ : ∃ m, fuel = m + 1 := ⟨fuel - 1, by omega⟩
    cases es with
    | nil =>
      rw [show textFields [] = [] from rfl, List.append_nil]
      exact .pure
    | cons e es => cases hshown
  | cons p ps ih =>
    cases es with
    | nil => cases hshown
    | cons e es =>
      obtain ⟨⟨hkey, hlabel⟩, ⟨htext, hvalue⟩, hrest⟩ := hshown
      obtain ⟨key, value⟩ := p
      obtain ⟨k, v⟩ := e
      obtain rfl : k.label = key := hlabel
      obtain rfl : v.label = value := hvalue
      rw [entriesSize] at hfuel
      have hk := k.one_le_size
      obtain ⟨fuel, rfl⟩ : ∃ m, fuel = m + 2 := ⟨fuel - 2, by omega⟩
      have hfresh : k.label ∉ fields.map (·.1) := fun hmem =>
        (List.nodup_append.1 hkeys).2.2 _ hmem _ List.mem_cons_self rfl
      have hnew : (k.label ∈ done) = False := eq_false fun hmem => hfresh (hdone _ hmem)
      rw [fillEntries, hkey.isMerge, if_neg Bool.false_ne_true]
      refine .bind (.modify fun s hs => ⟨hs.mismatches, hs.aliased, rfl⟩)
        (.bind (yields_keyText fuel hkey) ?_)
      simp only [claim, Shape.under?, List.contains_eq_mem, hnew, decide_false,
        Bool.false_eq_true, if_false]
      refine .bind (yields_fillText fuel _ htext) ?_
      rw [setField_append hfresh]
      have hdone' : ∀ k' ∈ k.label :: done,
          k' ∈ (fields ++ [(k.label, Filled.text v.label)]).map (·.1) := by
        intro k' hk'
        rw [List.map_append, List.mem_append]
        obtain rfl | hk' := List.mem_cons.1 hk'
        · exact .inr List.mem_cons_self
        · exact .inl (hdone k' hk')
      have hkeys' :
          ((fields ++ [(k.label, Filled.text v.label)]).map (·.1) ++ ps.map (·.1)).Nodup := by
        simpa using hkeys
      have htail := ih hrest hkeys' hdone' (show 4 * entriesSize es + 1 ≤ fuel + 1 by omega)
      rw [List.append_assoc] at htail
      exact htail

/-- A mapping of texts is read whole. -/
theorem yields_fillTexts {fuel : Nat} {ps : List (String × String)} {n : Node}
    (hshown : (Block.mapping (textBlocks ps)).Shown n) (hkeys : (ps.map (·.1)).Nodup)
    (hfuel : 4 * n.size ≤ fuel) :
    Yields (fillShape fuel .texts (.record []) n) (.record (textFields ps)) := by
  cases n with
  | mapping line tag es =>
    have hentries : EntriesShown (textBlocks ps) es := hshown
    have hlabels : (es.map (·.1.label)).Nodup := by
      rw [hentries.map_label]
      simpa [textBlocks, Function.comp_def] using hkeys
    rw [Node.size] at hfuel
    obtain ⟨fuel, rfl⟩ : ∃ m, fuel = m + 3 := ⟨fuel - 3, by omega⟩
    refine .bind yields_visit
      (.bind (yields_keysDiffer hentries.isText hlabels) (.get fun s hs => ?_))
    rw [hs.taken]
    refine .bind (yields_fillEntries_texts hentries ?_ ?_ (by omega))
      (yields_thenMerge hentries.isText)
    · simpa using hkeys
    · simp
  | _ => cases hshown

/-- A record of one field: entries under other keys are left alone. -/
theorem yields_fillEntries_other {fuel : Nat} {name field : String} {inner : Shape} {old : Filled}
    {bs : List (String × Block)} {es : List (Node × Node)} {done : List String}
    (hshown : EntriesShown bs es) (hfield : field ∉ bs.map (·.1))
    (hfuel : 4 * entriesSize es + 1 ≤ fuel) :
    Yields (fillEntries fuel (.record name [(field, inner)]) old done es none) (old, none) := by
  induction bs generalizing es fuel with
  | nil =>
    obtain ⟨fuel, rfl⟩ : ∃ m, fuel = m + 1 := ⟨fuel - 1, by omega⟩
    cases es with
    | nil => exact .pure
    | cons e es => cases hshown
  | cons b bs ih =>
    cases es with
    | nil => cases hshown
    | cons e es =>
      obtain ⟨⟨hkey, hlabel⟩, -, hrest⟩ := hshown
      obtain ⟨k, v⟩ := e
      obtain ⟨hne, hfield⟩ := List.ne_and_not_mem_of_not_mem_cons hfield
      rw [entriesSize] at hfuel
      have hk := k.one_le_size
      obtain ⟨fuel, rfl⟩ : ∃ m, fuel = m + 2 := ⟨fuel - 2, by omega⟩
      have hunder : (Shape.record name [(field, inner)]).under? k.label = none := by
        have hother : (field == k.label) = false := beq_eq_false_iff_ne.2 (hlabel ▸ hne)
        simp [Shape.under?, hother]
      rw [fillEntries, hkey.isMerge, if_neg Bool.false_ne_true]
      refine .bind (.modify fun s hs => ⟨hs.mismatches, hs.aliased, rfl⟩)
        (.bind (yields_keyText fuel hkey) ?_)
      simp only [claim, hunder]
      exact ih hrest hfield (by omega)

/-- A record of one field: what stands under the key of the field is read into it, and without it
the record stays. -/
theorem yields_fillEntries_field {fuel : Nat} {name field : String} {inner : Shape}
    {content result : Filled} {bs : List (String × Block)} {es : List (Node × Node)}
    (hshown : EntriesShown bs es) (hkeys : (bs.map (·.1)).Nodup)
    (hnone : field ∉ bs.map (·.1) → content = result)
    (hsome : ∀ b n, (field, b) ∈ bs → b.Shown n → ∀ fuel, 4 * n.size ≤ fuel →
      Yields (fillShape fuel inner content n) result)
    (hfuel : 4 * entriesSize es + 1 ≤ fuel) :
    Yields (fillEntries fuel (.record name [(field, inner)])
      (.record [(field, content)]) [] es none)
      (.record [(field, result)], none) := by
  induction bs generalizing es fuel with
  | nil =>
    obtain ⟨fuel, rfl⟩ : ∃ m, fuel = m + 1 := ⟨fuel - 1, by omega⟩
    cases es with
    | nil =>
      rw [hnone List.not_mem_nil]
      exact .pure
    | cons e es => cases hshown
  | cons b bs ih =>
    cases es with
    | nil => cases hshown
    | cons e es =>
      obtain ⟨⟨hkey, hlabel⟩, hvalue, hrest⟩ := hshown
      obtain ⟨key, b⟩ := b
      obtain ⟨k, v⟩ := e
      obtain rfl : k.label = key := hlabel
      obtain ⟨hfresh, hkeys⟩ := List.nodup_cons.1 hkeys
      rw [entriesSize] at hfuel
      have hk := k.one_le_size
      obtain ⟨fuel, rfl⟩ : ∃ m, fuel = m + 2 := ⟨fuel - 2, by omega⟩
      rw [fillEntries, hkey.isMerge, if_neg Bool.false_ne_true]
      refine .bind (.modify fun s hs => ⟨hs.mismatches, hs.aliased, rfl⟩)
        (.bind (yields_keyText fuel hkey) ?_)
      by_cases hfield : k.label = field
      · subst hfield
        have hread := hsome b v List.mem_cons_self hvalue (fuel + 1) (by omega)
        have htail : Yields (fillEntries (fuel + 1) (.record name [(k.label, inner)])
            (.record [(k.label, result)]) [k.label] es none) (.record [(k.label, result)], none) :=
          yields_fillEntries_other hrest hfresh (by omega)
        simp only [claim, Shape.under?, Filled.field?, List.find?_cons_of_pos, beq_self_eq_true,
          Option.map_some, List.contains_nil, Bool.false_eq_true, if_false, Option.getD_some]
        refine .bind hread ?_
        simpa [Filled.setField] using htail
      · have hother : (field == k.label) = false := beq_eq_false_iff_ne.2 (Ne.symm hfield)
        have hunder : (Shape.record name [(field, inner)]).under? k.label = none := by
          simp [Shape.under?, hother]
        simp only [claim, hunder]
        refine ih hrest hkeys (fun h => hnone ?_) (fun b n hb =>
          hsome b n (List.mem_cons_of_mem _ hb)) (by omega)
        exact List.not_mem_cons_of_ne_of_not_mem (Ne.symm hfield) h

/-- A mapping is read into a record of one field. -/
theorem yields_fillField {fuel : Nat} {name field : String} {inner : Shape}
    {content result : Filled} {bs : List (String × Block)} {n : Node}
    (hshown : (Block.mapping bs).Shown n) (hkeys : (bs.map (·.1)).Nodup)
    (hnone : field ∉ bs.map (·.1) → content = result)
    (hsome : ∀ b n, (field, b) ∈ bs → b.Shown n → ∀ fuel, 4 * n.size ≤ fuel →
      Yields (fillShape fuel inner content n) result)
    (hfuel : 4 * n.size ≤ fuel) :
    Yields (fillShape fuel (.record name [(field, inner)]) (.record [(field, content)]) n)
      (.record [(field, result)]) := by
  cases n with
  | mapping line tag es =>
    have hentries : EntriesShown bs es := hshown
    have hlabels : (es.map (·.1.label)).Nodup := hentries.map_label ▸ hkeys
    rw [Node.size] at hfuel
    obtain ⟨fuel, rfl⟩ : ∃ m, fuel = m + 3 := ⟨fuel - 3, by omega⟩
    refine .bind yields_visit
      (.bind (yields_keysDiffer hentries.isText hlabels) (.get fun s hs => ?_))
    rw [hs.taken]
    exact .bind (yields_fillEntries_field hentries hkeys hnone hsome (by omega))
      (yields_thenMerge hentries.isText)
  | _ => cases hshown

end Decode

/-- A library reaches far enough for four times the nodes of a node. -/
theorem Library.four_mul_le (l : Library) (size : Nat) :
    4 * (size + 1) ≤ 3 * l.reach * (size + 1) := by
  refine Nat.mul_le_mul_right _ ?_
  have hreach : 2 * 2 ≤ l.reach := Nat.mul_le_mul (by omega) (by omega)
  omega

/-- The entries of a tree are read from a node that shows it. -/
theorem Library.dict_of_shown (l : Library) {bs : List (String × Block)} {n : Node}
    (hshown : (Block.mapping bs).Shown n) (hdistinct : (Block.mapping bs).Distinct) :
    l.dict n = .ok (Pairs.ofList (blockValues bs)) := by
  cases n with
  | mapping line tag es =>
    have hentries : EntriesShown bs es := hshown
    obtain ⟨hkeys, hdistinct⟩ := hdistinct
    rw [← hentries.map_label] at hkeys
    have hfuel := l.four_mul_le (Node.mapping line tag es).size
    rw [Node.size] at hfuel
    refine Decode.Yields.run
      (.bind Decode.yields_visit (.bind (Decode.yields_keysDiffer hentries.isText hkeys) ?_)) l
    refine .bind ((Decode.yieldsValues _).mappingInto bs es hentries hdistinct ?_) .pure
    rw [Node.size]
    omega
  | _ => cases hshown

/-- Under the key stands a mapping of these entries; it may be left out if there are none. -/
structure Under (key : String) (bs entries : List (String × Block)) : Prop where
  eq_mapping : ∀ b, (key, b) ∈ bs → b = .mapping entries
  eq_nil : key ∉ bs.map (·.1) → entries = []

theorem entriesDistinct_iff {bs : List (String × Block)} :
    EntriesDistinct bs ↔ ∀ e ∈ bs, e.2.Distinct := by
  induction bs with
  | nil => simp [EntriesDistinct]
  | cons b bs ih => rw [EntriesDistinct, ih, List.forall_mem_cons]

theorem under_of_find? {key : String} {bs entries : List (String × Block)}
    (hkeys : (bs.map (·.1)).Nodup)
    (h : Pairs.find? key bs = if entries ≠ [] then some (.mapping entries) else none) :
    Under key bs entries := by
  refine ⟨fun b hb => ?_, fun hkey => ?_⟩
  · rw [(Pairs.find?_eq_some_iff_of_nodup hkeys).2 hb] at h
    split at h
    · exact Option.some.inj h
    · cases h
  · by_contra hentries
    rw [if_pos hentries] at h
    exact hkey (Pairs.mem_keys_of_find? h)

theorem Under.distinct {key : String} {bs entries : List (String × Block)}
    (h : Under key bs entries) (hbs : EntriesDistinct bs) : (Block.mapping entries).Distinct := by
  by_cases hkey : key ∈ bs.map (·.1)
  · obtain ⟨⟨k, b⟩, hb, rfl⟩ := List.mem_map.1 hkey
    obtain rfl := h.eq_mapping b hb
    exact entriesDistinct_iff.1 hbs _ hb
  · rw [h.eq_nil hkey]
    exact ⟨List.nodup_nil, trivial⟩

/-- The texts under two keys are read from a node that shows their tree. -/
theorem Library.fill_of_shown (l : Library) {outer inner key field : String}
    {bs ds : List (String × Block)} {ps : List (String × String)} {n : Node}
    (hshown : (Block.mapping bs).Shown n) (hdistinct : (Block.mapping bs).Distinct)
    (hds : Under key bs ds) (hps : Under field ds (textBlocks ps)) :
    l.fill (.record outer [(key, .record inner [(field, .texts)])]) n =
      .ok (.record [(key, .record [(field, .record (textFields ps))])]) := by
  obtain ⟨hkeys, hbs⟩ := hdistinct
  obtain ⟨hfields, hdistinct⟩ := hds.distinct hbs
  have hnames : (ps.map (·.1)).Nodup := by
    have htexts := (hps.distinct hdistinct).1
    simpa [textBlocks, Function.comp_def] using htexts
  have hempty (h : field ∉ ds.map (·.1)) : ps = [] := List.map_eq_nil_iff.1 (hps.eq_nil h)
  have hfuel := l.four_mul_le n.size
  refine (Decode.yields_fillField hshown hkeys (fun h => ?_) (fun b n hb hn fuel hfuel => ?_)
    (by omega)).run l
  · rw [hempty (by rw [hds.eq_nil h]; exact List.not_mem_nil)]
    rfl
  · obtain rfl := hds.eq_mapping b hb
    refine Decode.yields_fillField hn hfields (fun h => ?_) (fun b n hb hn fuel hfuel => ?_) hfuel
    · rw [hempty h]
      rfl
    · obtain rfl := hps.eq_mapping b hb
      exact Decode.yields_fillTexts hn hnames hfuel

end PayloadGen.Yaml
