import PayloadGen.Proofs.Yaml.Documents
import PayloadGen.Yaml.Decode

/-!
# Reading nodes of documents under other names

`Library.value` and `Library.fill` follow aliases into the documents that they name. When documents
get other names, and the aliases with them, the results stay the same (`Library.value_mapDocuments`,
`Library.fill_mapDocuments`). Two readers are the `Same` if the first one does, where documents have
their new names, what the second one does where they have the old ones. Readers that are put
together from such readers are the same again, so each function of `Decode` needs one step, and the
induction is on the fuel.
-/

namespace PayloadGen.Yaml

variable {f : String → String}

/-- The context with other names of its documents. -/
def DecodeContext.mapDocuments (f : String → String) (c : DecodeContext) : DecodeContext :=
  ⟨c.library.mapDocuments f, c.entered.map (Prod.map f id)⟩

namespace Decode

/-- The first reader does under the new names what the second one does under the old ones. -/
def Same (f : String → String) {α : Type} (x y : Decode α) : Prop :=
  ∀ c : DecodeContext, x (c.mapDocuments f) = y c

namespace Same

variable {α β : Type} {x y : Decode α}

theorem bind {k k' : α → Decode β} (hx : Same f x y) (hk : ∀ a, Same f (k a) (k' a)) :
    Same f (x >>= k) (y >>= k') := by
  intro c
  show (x (c.mapDocuments f) >>= fun a => k a (c.mapDocuments f)) = (y c >>= fun a => k' a c)
  rw [hx c]
  exact congrArg _ (funext fun a => hk a c)

/-- What is read from the context may change with the names. -/
theorem read {k k' : DecodeContext → Decode β} (hk : ∀ c, Same f (k (c.mapDocuments f)) (k' c)) :
    Same f (MonadReader.read >>= k) (MonadReader.read >>= k') := by
  intro c
  exact hk c c

end Same

theorem same_visit : Same f visit visit := by
  refine .read fun c => ?_
  rw [show (c.mapDocuments f).entered.isEmpty = c.entered.isEmpty from List.isEmpty_map]
  refine .bind (fun _ => rfl) fun _ => .bind (fun _ => rfl) fun s => ?_
  split <;> exact fun _ => rfl

theorem same_throughAlias (hf : Function.Injective f) {α : Type} {act act' : Node → Decode α}
    (h : ∀ n, Same f (act (n.mapDocuments f)) (act' n)) (line column : Nat) (name : String)
    (target : Anchor) :
    Same f (throughAlias line column name ⟨f target.document, target.number⟩ act)
      (throughAlias line column name target act') := by
  refine .read fun c => ?_
  have hentered : (c.mapDocuments f).entered.contains (f target.document, line, column) =
      c.entered.contains (target.document, line, column) := by
    have hpair : Function.Injective (Prod.map f (id : Nat × Nat → Nat × Nat)) :=
      hf.prodMap Function.injective_id
    rw [Bool.eq_iff_iff, List.contains_iff_mem, List.contains_iff_mem]
    exact List.mem_map_of_injective (a := (target.document, line, column)) hpair
  have hnode : (c.mapDocuments f).library.node? ⟨f target.document, target.number⟩ =
      (c.library.node? target).map (Node.mapDocuments f) :=
    Library.node?_mapDocuments hf c.library target
  simp only [hentered, hnode]
  split
  · exact fun _ => rfl
  · cases c.library.node? target with
    | none => exact fun _ => rfl
    | some n => exact fun c => h n ⟨c.library, (target.document, line, column) :: c.entered⟩

/-! ## Nodes and keys -/

theorem tagOf_mapDocuments (hf : Function.Injective f) (l : Library) (n : Node) :
    tagOf (l.mapDocuments f) (n.mapDocuments f) = tagOf l n := by
  cases n with
  | aliasOf line column name target =>
    simp only [Node.mapDocuments, tagOf, Library.node?_mapDocuments hf]
    cases l.node? target with
    | none => rfl
    | some t => rcases t with ⟨_, _ | _, _, _⟩ | ⟨_, _ | _, _⟩ | ⟨_, _ | _, _⟩ | _ <;> rfl
  | scalar line tag text isPlain | sequence line tag items | mapping line tag entries =>
    cases tag <;> rfl

@[simp] theorem isMerge_mapDocuments (n : Node) : isMerge (n.mapDocuments f) = isMerge n := by
  rcases n with ⟨_, _ | _, _, _⟩ | _ | _ | _ <;> rfl

theorem sameLabel_mapDocuments (k n : Node) :
    sameLabel (k.mapDocuments f) (n.mapDocuments f) = sameLabel k n := by
  cases k <;> cases n <;> rfl

theorem repeatedKeys_mapEntries (es : List (Node × Node)) :
    repeatedKeys (mapEntries f es) = repeatedKeys es := by
  induction es with
  | nil => rfl
  | cons e es ih =>
    rw [mapEntries, repeatedKeys, ih, repeatedKeys, mapEntries_eq, List.filter_map, List.map_map]
    simp [Function.comp_def, sameLabel_mapDocuments]

theorem isMapping_mapDocuments (hf : Function.Injective f) (l : Library) (n : Node) :
    isMapping (l.mapDocuments f) (n.mapDocuments f) = isMapping l n := by
  cases n with
  | aliasOf line column name target =>
    simp only [Node.mapDocuments, isMapping, Library.node?_mapDocuments hf]
    cases l.node? target with
    | none => rfl
    | some t => cases t <;> rfl
  | _ => rfl

theorem mergeSources_mapDocuments (hf : Function.Injective f) (l : Library) (n : Node) :
    mergeSources (l.mapDocuments f) (n.mapDocuments f) =
      (mergeSources l n).map (List.map (Node.mapDocuments f)) := by
  cases n with
  | sequence line tag items =>
    simp only [Node.mapDocuments, mergeSources, mapItems_eq, List.all_map, Function.comp_def,
      isMapping_mapDocuments hf]
    split <;> rfl
  | mapping line tag entries => rfl
  | scalar line tag text isPlain => rfl
  | aliasOf line column name target =>
    have hmapping := isMapping_mapDocuments hf l (.aliasOf line column name target)
    simp only [Node.mapDocuments] at hmapping
    simp only [Node.mapDocuments, mergeSources, hmapping]
    split <;> rfl

theorem map_fst_mapEntries (es : List (Node × Node)) :
    (mapEntries f es).map (·.1) = (es.map (·.1)).map (Node.mapDocuments f) := by
  simp [mapEntries_eq]

theorem getLast?_filter_mapEntries (es : List (Node × Node)) :
    ((mapEntries f es).filter fun e => isMerge e.1).getLast? =
      ((es.filter fun e => isMerge e.1).getLast?).map
        (Prod.map (Node.mapDocuments f) (Node.mapDocuments f)) := by
  simp [mapEntries_eq, List.filter_map, Function.comp_def]

theorem same_keysDiffer (es : List (Node × Node)) :
    Same f (keysDiffer (mapEntries f es)) (keysDiffer es) := by
  intro c
  rw [keysDiffer, repeatedKeys_mapEntries]
  rfl

theorem same_noteCollection (n : Node) (tag : Option String) (usual expected : String) :
    Same f (noteCollection (n.mapDocuments f) tag usual expected)
      (noteCollection n tag usual expected) := by
  intro c
  rw [noteCollection, Node.line_mapDocuments]
  rfl

theorem same_thenMerge (hf : Function.Injective f) {α : Type} {es : List (Node × Node)}
    {taken : Option (List Value)} {keys keys' : Decode (List Value)} {done : α}
    {merge merge' : List Node → Decode α}
    (hkeys : Same f keys keys')
    (hmerge : ∀ ns, Same f (merge (ns.map (Node.mapDocuments f))) (merge' ns)) :
    Same f (thenMerge (mapEntries f es) taken keys done merge)
      (thenMerge es taken keys' done merge') := by
  rw [thenMerge, getLast?_filter_mapEntries, thenMerge]
  cases (es.filter fun e => isMerge e.1).getLast? with
  | none => exact fun _ => rfl
  | some e =>
    refine .read fun c => ?_
    have hsources : mergeSources (c.mapDocuments f).library (e.2.mapDocuments f) =
        (mergeSources c.library e.2).map (List.map (Node.mapDocuments f)) :=
      mergeSources_mapDocuments hf c.library e.2
    rw [hsources]
    cases mergeSources c.library e.2 with
    | none => exact fun _ => rfl
    | some sources =>
      refine .bind ?_ fun own => .bind (fun _ => rfl) fun _ => .bind (hmerge sources) fun merged =>
        fun _ => rfl
      split
      · exact hkeys
      · exact fun _ => rfl

theorem same_keyText (hf : Function.Injective f) (fuel : Nat) (n : Node) :
    Same f (keyText fuel (n.mapDocuments f)) (keyText fuel n) := by
  induction fuel generalizing n with
  | zero => exact fun _ => rfl
  | succ fuel ih =>
    refine .bind same_visit fun _ => ?_
    cases n with
    | aliasOf line column name target => exact same_throughAlias hf ih line column name target
    | scalar line tag text isPlain =>
      exact .bind (fun _ => rfl) fun v => by cases v <;> exact fun _ => rfl
    | sequence line tag items =>
      exact .bind (same_noteCollection (.sequence line tag items) tag _ _) fun _ _ => rfl
    | mapping line tag entries =>
      refine .bind (same_keysDiffer entries) fun b => ?_
      cases b with
      | false => exact fun _ => rfl
      | true => exact .bind (same_noteCollection (.mapping line tag entries) tag _ _) fun _ _ => rfl

/-! ## Values -/

/-- The readers of values with so much fuel are the same. -/
structure SameValues (f : String → String) (fuel : Nat) : Prop where
  value : ∀ n, Same f (value fuel (n.mapDocuments f)) (value fuel n)
  values : ∀ ns, Same f (values fuel (ns.map (Node.mapDocuments f))) (values fuel ns)
  mappingInto : ∀ es acc, Same f (mappingInto fuel (mapEntries f es) acc) (mappingInto fuel es acc)
  entriesInto : ∀ es acc taken,
    Same f (entriesInto fuel (mapEntries f es) acc taken) (entriesInto fuel es acc taken)
  mergeInto : ∀ ns acc, Same f (mergeInto fuel (ns.map (Node.mapDocuments f)) acc)
    (mergeInto fuel ns acc)
  mergeOne : ∀ n acc, Same f (mergeOne fuel (n.mapDocuments f) acc) (mergeOne fuel n acc)

namespace SameValues

variable {fuel : Nat}

theorem value_succ (hf : Function.Injective f) (ih : SameValues f fuel) (n : Node) :
    Same f (Decode.value (fuel + 1) (n.mapDocuments f)) (Decode.value (fuel + 1) n) := by
  refine .bind same_visit fun _ => ?_
  cases n with
  | aliasOf line column name target => exact same_throughAlias hf ih.value line column name target
  | scalar line tag text isPlain => exact fun _ => rfl
  | sequence line tag items =>
    simp only [Node.mapDocuments, mapItems_eq]
    exact .bind (ih.values items) fun _ _ => rfl
  | mapping line tag entries =>
    refine .read fun c => .bind (same_keysDiffer entries) fun b => ?_
    -- Whether keys are texts is seen from their tags, which are those of the targets for aliases.
    have hdict : (mapEntries f entries).all
          (fun e => ["!!str", "!!merge"].contains (tagOf (c.mapDocuments f).library e.1)) =
        entries.all fun e => ["!!str", "!!merge"].contains (tagOf c.library e.1) := by
      simp only [mapEntries_eq, List.all_map, Function.comp_def, Prod.map_fst,
        DecodeContext.mapDocuments, tagOf_mapDocuments hf]
    rw [hdict]
    cases b with
    | false => exact fun _ => rfl
    | true => exact .bind (ih.mappingInto entries _) fun _ _ => rfl

theorem values_succ (ih : SameValues f fuel) (ns : List Node) :
    Same f (Decode.values (fuel + 1) (ns.map (Node.mapDocuments f)))
      (Decode.values (fuel + 1) ns) := by
  cases ns with
  | nil => exact fun _ => rfl
  | cons n ns => exact .bind (ih.value n) fun _ => .bind (ih.values ns) fun _ _ => rfl

theorem mergeInto_succ (ih : SameValues f fuel) (ns : List Node) (acc : Entries) :
    Same f (Decode.mergeInto (fuel + 1) (ns.map (Node.mapDocuments f)) acc)
      (Decode.mergeInto (fuel + 1) ns acc) := by
  cases ns with
  | nil => exact fun _ => rfl
  | cons n ns => exact .bind (ih.mergeOne n acc) fun acc => ih.mergeInto ns acc

theorem mergeOne_succ (hf : Function.Injective f) (ih : SameValues f fuel) (n : Node)
    (acc : Entries) :
    Same f (Decode.mergeOne (fuel + 1) (n.mapDocuments f) acc)
      (Decode.mergeOne (fuel + 1) n acc) := by
  refine .bind same_visit fun _ => ?_
  cases n with
  | aliasOf line column name target =>
    exact same_throughAlias hf (fun n => ih.mergeOne n acc) line column name target
  | scalar line tag text isPlain | sequence line tag items => exact fun _ => rfl
  | mapping line tag entries =>
    refine .bind (same_keysDiffer entries) fun b => ?_
    cases b with
    | false => exact fun _ => rfl
    | true => exact ih.mappingInto entries acc

theorem entriesInto_succ (ih : SameValues f fuel) (hf : Function.Injective f)
    (es : List (Node × Node)) (acc : Entries) (taken : Option (List Value)) :
    Same f (Decode.entriesInto (fuel + 1) (mapEntries f es) acc taken)
      (Decode.entriesInto (fuel + 1) es acc taken) := by
  cases es with
  | nil => exact fun _ => rfl
  | cons e es =>
    obtain ⟨k, v⟩ := e
    simp only [mapEntries, Decode.entriesInto, isMerge_mapDocuments]
    split
    · exact ih.entriesInto es acc taken
    · refine .bind (fun _ => rfl) fun _ => .bind ?_ fun key? => ?_
      · cases acc with
        | dict d => exact .bind (same_keyText hf fuel k) fun _ _ => rfl
        | table t => exact .bind (ih.value k) fun _ _ => rfl
      · cases key? with
        | none => exact ih.entriesInto es acc taken
        | some key =>
          dsimp only
          cases claim key taken with
          | none => exact ih.entriesInto es acc taken
          | some taken =>
            -- What follows a key that can be one; the check in front of it only adds an error.
            have hitem : Same f
                (Decode.value fuel (v.mapDocuments f) >>= fun item =>
                  Decode.entriesInto fuel (mapEntries f es) (acc.insert key item) taken)
                (Decode.value fuel v >>= fun item =>
                  Decode.entriesInto fuel es (acc.insert key item) taken) :=
              .bind (ih.value v) fun item => ih.entriesInto es (acc.insert key item) taken
            dsimp only
            split
            · exact .bind (fun _ => rfl) fun _ => hitem
            · exact hitem

theorem mappingInto_succ (hf : Function.Injective f) (ih : SameValues f fuel)
    (es : List (Node × Node)) (acc : Entries) :
    Same f (Decode.mappingInto (fuel + 1) (mapEntries f es) acc)
      (Decode.mappingInto (fuel + 1) es acc) := by
  refine .bind (fun _ => rfl) fun s => .bind (ih.entriesInto es acc s.taken) fun (acc, taken) => ?_
  refine same_thenMerge hf ?_ fun ns => ih.mergeInto ns acc
  rw [map_fst_mapEntries]
  exact ih.values _

end SameValues

theorem sameValues (hf : Function.Injective f) (fuel : Nat) : SameValues f fuel := by
  induction fuel with
  | zero =>
    exact ⟨fun _ _ => rfl, fun _ _ => rfl, fun _ _ _ => rfl, fun _ _ _ _ => rfl, fun _ _ _ => rfl,
      fun _ _ _ => rfl⟩
  | succ fuel ih =>
    exact ⟨ih.value_succ hf, ih.values_succ, ih.mappingInto_succ hf, ih.entriesInto_succ hf,
      ih.mergeInto_succ, ih.mergeOne_succ hf⟩

/-! ## Records -/

/-- The readers of records with so much fuel are the same. -/
structure SameRecords (f : String → String) (fuel : Nat) : Prop where
  fillShape : ∀ shape old n, Same f (fillShape fuel shape old (n.mapDocuments f))
    (fillShape fuel shape old n)
  fillMapping : ∀ shape old n tag es,
    Same f (fillMapping fuel shape old (n.mapDocuments f) tag (mapEntries f es))
      (fillMapping fuel shape old n tag es)
  fillRecord : ∀ shape old es,
    Same f (fillRecord fuel shape old (mapEntries f es)) (fillRecord fuel shape old es)
  fillEntries : ∀ shape old done es taken,
    Same f (fillEntries fuel shape old done (mapEntries f es) taken)
      (fillEntries fuel shape old done es taken)
  fillMerged : ∀ shape old ns,
    Same f (fillMerged fuel shape old (ns.map (Node.mapDocuments f))) (fillMerged fuel shape old ns)

namespace SameRecords

variable {fuel : Nat}

theorem fillShape_succ (hf : Function.Injective f) (ih : SameRecords f fuel) (shape : Shape)
    (old : Filled) (n : Node) :
    Same f (Decode.fillShape (fuel + 1) shape old (n.mapDocuments f))
      (Decode.fillShape (fuel + 1) shape old n) := by
  refine .bind same_visit fun _ => ?_
  cases n with
  | aliasOf line column name target =>
    exact same_throughAlias hf (ih.fillShape shape old) line column name target
  | scalar line tag text isPlain =>
    exact .bind (fun _ => rfl) fun v => by cases shape <;> cases v <;> exact fun _ => rfl
  | sequence line tag items =>
    exact .bind (same_noteCollection (.sequence line tag items) tag _ _) fun _ _ => rfl
  | mapping line tag entries =>
    refine .bind (same_keysDiffer entries) fun b => ?_
    cases b with
    | false => exact fun _ => rfl
    | true => exact ih.fillMapping shape old (.mapping line tag entries) tag entries

theorem fillMapping_succ (ih : SameRecords f fuel) (shape : Shape) (old : Filled) (n : Node)
    (tag : Option String) (es : List (Node × Node)) :
    Same f (Decode.fillMapping (fuel + 1) shape old (n.mapDocuments f) tag (mapEntries f es))
      (Decode.fillMapping (fuel + 1) shape old n tag es) := by
  cases shape with
  | text => exact .bind (same_noteCollection n tag _ _) fun _ _ => rfl
  | record name fields => exact ih.fillRecord _ old es
  | texts => exact ih.fillRecord _ old es
  | optional content =>
    cases content with
    | record name fields =>
      rcases old with _ | _ | ⟨_ | content⟩ <;> exact .bind (ih.fillRecord _ _ es) fun _ _ => rfl
    | _ => exact .bind (same_noteCollection n tag _ _) fun _ _ => rfl

theorem fillRecord_succ (hf : Function.Injective f) (ih : SameRecords f fuel) (shape : Shape)
    (old : Filled) (es : List (Node × Node)) :
    Same f (Decode.fillRecord (fuel + 1) shape old (mapEntries f es))
      (Decode.fillRecord (fuel + 1) shape old es) := by
  refine .bind (fun _ => rfl) fun s =>
    .bind (ih.fillEntries shape old [] es s.taken) fun (new, taken) => ?_
  refine same_thenMerge hf ?_ fun ns => ih.fillMerged shape new ns
  rw [map_fst_mapEntries]
  exact (sameValues hf fuel).values _

theorem fillEntries_succ (hf : Function.Injective f) (ih : SameRecords f fuel) (shape : Shape)
    (old : Filled) (done : List String) (es : List (Node × Node)) (taken : Option (List Value)) :
    Same f (Decode.fillEntries (fuel + 1) shape old done (mapEntries f es) taken)
      (Decode.fillEntries (fuel + 1) shape old done es taken) := by
  cases es with
  | nil => exact fun _ => rfl
  | cons e es =>
    obtain ⟨k, v⟩ := e
    simp only [mapEntries, Decode.fillEntries, isMerge_mapDocuments, Node.line_mapDocuments]
    split
    · exact ih.fillEntries shape old done es taken
    · refine .bind (fun _ => rfl) fun _ => .bind (same_keyText hf fuel k) fun key? => ?_
      cases key? with
      | none => exact ih.fillEntries shape old done es taken
      | some key =>
        dsimp only
        cases claim (.text key) taken with
        | none => exact ih.fillEntries shape old done es taken
        | some taken =>
          dsimp only
          cases shape.under? key with
          | none => exact ih.fillEntries shape old done es taken
          | some inner =>
            dsimp only
            split
            · exact .bind (fun _ => rfl) fun _ => ih.fillEntries shape old done es taken
            · exact .bind (ih.fillShape inner _ v) fun new => ih.fillEntries shape _ _ es taken

theorem fillMerged_succ (ih : SameRecords f fuel) (shape : Shape) (old : Filled) (ns : List Node) :
    Same f (Decode.fillMerged (fuel + 1) shape old (ns.map (Node.mapDocuments f)))
      (Decode.fillMerged (fuel + 1) shape old ns) := by
  cases ns with
  | nil => exact fun _ => rfl
  | cons n ns => exact .bind (ih.fillShape shape old n) fun new => ih.fillMerged shape new ns

end SameRecords

theorem sameRecords (hf : Function.Injective f) (fuel : Nat) : SameRecords f fuel := by
  induction fuel with
  | zero =>
    exact ⟨fun _ _ _ _ => rfl, fun _ _ _ _ _ _ => rfl, fun _ _ _ _ => rfl, fun _ _ _ _ _ _ => rfl,
      fun _ _ _ _ => rfl⟩
  | succ fuel ih =>
    exact ⟨ih.fillShape_succ hf, ih.fillMapping_succ, ih.fillRecord_succ hf, ih.fillEntries_succ hf,
      ih.fillMerged_succ⟩

theorem Same.run_eq {α : Type} {x y : Decode α} (h : Same f x y) (l : Library) :
    x.run (l.mapDocuments f) = y.run l := by
  have hstart : x ⟨l.mapDocuments f, []⟩ = y ⟨l, []⟩ := h ⟨l, []⟩
  rw [Decode.run, ReaderT.run, hstart]
  rfl

end Decode

namespace Library

theorem value_mapDocuments (hf : Function.Injective f) (l : Library) (n : Node) :
    (l.mapDocuments f).value (n.mapDocuments f) = l.value n := by
  rw [value, reach_mapDocuments, Node.size_mapDocuments]
  exact ((Decode.sameValues hf _).value n).run_eq l

theorem fill_mapDocuments (hf : Function.Injective f) (l : Library) (shape : Shape) (n : Node) :
    (l.mapDocuments f).fill shape (n.mapDocuments f) = l.fill shape n := by
  rw [fill, reach_mapDocuments, Node.size_mapDocuments]
  exact ((Decode.sameRecords hf _).fillShape shape shape.blank n).run_eq l

end Library

end PayloadGen.Yaml
