import PayloadGen.Proofs.Except
import PayloadGen.Proofs.Yaml.Documents
import PayloadGen.Proofs.Yaml.Inlined
import PayloadGen.Yaml.Node.Reader

/-!
# Every alias has an anchor

A document that is read has a node for each of its aliases (`Document.read_anchors`): an alias gets
the number of an anchor that was met before, and the anchors of the document are all that were met.
What a reader of nodes does to the anchors is `NodeReader.Reads`: it keeps those that were met, and
the aliases in what it gives have numbers of anchors met by then. The readers call each other, so
their statements are proved together, by induction on the depth (`NodeReader.ReadsNodes`).
-/

namespace PayloadGen.Yaml

/-- The aliases of the list have numbers below a bound. -/
def Numbered (bound : Nat) (as : List Alias) : Prop :=
  ∀ a ∈ as, a.target.number < bound

theorem Numbered.mono {bound bound' : Nat} {as : List Alias} (h : Numbered bound as)
    (hle : bound ≤ bound') : Numbered bound' as :=
  fun a ha => Nat.lt_of_lt_of_le (h a ha) hle

theorem numbered_nil (bound : Nat) : Numbered bound [] := by
  intro a ha
  cases ha

theorem numbered_append {bound : Nat} {as bs : List Alias} :
    Numbered bound (as ++ bs) ↔ Numbered bound as ∧ Numbered bound bs := by
  simp [Numbered, or_imp, forall_and]

theorem numbered_items {bound : Nat} {items : List Node}
    (h : ∀ n ∈ items, Numbered bound n.aliases) : Numbered bound (itemsAliases items) := by
  induction items with
  | nil => exact numbered_nil bound
  | cons n items ih =>
    refine numbered_append.2 ⟨h n List.mem_cons_self, ih fun m hm => ?_⟩
    exact h m (List.mem_cons_of_mem _ hm)

mutual

/-- What aliases lead to keeps its number in another document. -/
theorem numbered_mapDocuments {bound : Nat} (f : String → String) :
    ∀ n : Node, Numbered bound n.aliases → Numbered bound (n.mapDocuments f).aliases
  | .scalar .., h => h
  | .aliasOf _ _ _ _, h => by simpa [Numbered, Node.mapDocuments, Node.aliases] using h
  | .sequence _ _ items, h => numbered_mapItems f items h
  | .mapping _ _ entries, h => numbered_mapEntries f entries h

theorem numbered_mapItems {bound : Nat} (f : String → String) :
    ∀ items : List Node, Numbered bound (itemsAliases items) →
      Numbered bound (itemsAliases (mapItems f items))
  | [], h => h
  | n :: items, h => by
    obtain ⟨hn, hitems⟩ := numbered_append.1 h
    exact numbered_append.2 ⟨numbered_mapDocuments f n hn, numbered_mapItems f items hitems⟩

theorem numbered_mapEntries {bound : Nat} (f : String → String) :
    ∀ entries : List (Node × Node), Numbered bound (entriesAliases entries) →
      Numbered bound (entriesAliases (mapEntries f entries))
  | [], h => h
  | (k, v) :: entries, h => by
    obtain ⟨hkv, hentries⟩ := numbered_append.1 h
    obtain ⟨hk, hv⟩ := numbered_append.1 hkv
    exact numbered_append.2
      ⟨numbered_append.2 ⟨numbered_mapDocuments f k hk, numbered_mapDocuments f v hv⟩,
        numbered_mapEntries f entries hentries⟩

end

/-- The anchors met so far are numbered below their count, and so are the aliases in nodes that are
complete. -/
structure TokenSource.Sound (s : TokenSource) : Prop where
  names : ∀ e ∈ s.names, e.2 < s.names.length
  anchored : ∀ e ∈ s.anchored, Numbered s.names.length e.2.aliases

namespace NodeReader

/-- A reader that starts when so many anchors have been met keeps the state sound and the anchors,
and what it gives is good for the number of anchors met at its end. -/
def Reads {α : Type} (start : Nat) (reader : NodeReader α) (good : Nat → α → Prop) : Prop :=
  ∀ s r s', s.Sound → start ≤ s.names.length → reader s = .ok (r, s') →
    s'.Sound ∧ s.names.length ≤ s'.names.length ∧ good s'.names.length r

/-- A reader of which only the anchors matter. -/
abbrev Passes {α : Type} (reader : NodeReader α) : Prop :=
  ∀ start, Reads start reader fun _ _ => True

variable {α β : Type} {start : Nat}

theorem Reads.bind {x : NodeReader α} {f : α → NodeReader β} {P : Nat → α → Prop}
    {Q : Nat → β → Prop} (hx : Reads start x P)
    (hf : ∀ a bound, start ≤ bound → P bound a → Reads bound (f a) Q) :
    Reads start (x >>= f) Q := by
  intro s r s' hs hstart h
  obtain ⟨⟨a, s₁⟩, hxs, hfs⟩ := Except.bind_eq_ok_iff.1 h
  obtain ⟨hs₁, hle, ha⟩ := hx s a s₁ hs hstart hxs
  obtain ⟨hs', hle', hr⟩ := hf a s₁.names.length (hstart.trans hle) ha s₁ r s' hs₁ Nat.le.refl hfs
  exact ⟨hs', hle.trans hle', hr⟩

theorem Reads.pure {a : α} {good : Nat → α → Prop} (h : ∀ bound, start ≤ bound → good bound a) :
    Reads start (Pure.pure a) good := by
  intro s r s' hs hstart hrun
  cases hrun
  exact ⟨hs, Nat.le.refl, h _ hstart⟩

theorem Reads.throw (e : Error) (good : Nat → α → Prop) :
    Reads start (MonadExcept.throw e) good := by
  intro s r s' _ _ hrun
  cases hrun

theorem Reads.get {f : TokenSource → NodeReader β} {Q : Nat → β → Prop}
    (h : ∀ s : TokenSource, s.Sound → Reads s.names.length (f s) Q) :
    Reads start (MonadState.get >>= f) Q :=
  fun s r s' hs _ hrun => h s hs s r s' hs Nat.le.refl hrun

/-! ## Tokens -/

theorem passes_peek : Passes peek := by
  intro start
  unfold peek
  refine .get fun s _ => ?_
  split
  · exact .pure fun _ _ => trivial
  · exact .throw _ _
  · exact .pure fun _ _ => trivial
  · exact .pure fun _ _ => trivial

theorem passes_skip : Passes skip := by
  intro start s r s' hs _ hrun
  cases hrun
  exact ⟨⟨hs.names, hs.anchored⟩, Nat.le.refl, trivial⟩

/-- The token at hand decides how a reader goes on. -/
theorem Reads.peek {f : Token → NodeReader β} {Q : Nat → β → Prop}
    (h : ∀ t bound, start ≤ bound → Reads bound (f t) Q) : Reads start (NodeReader.peek >>= f) Q :=
  (passes_peek start).bind fun t bound hbound _ => h t bound hbound

theorem Reads.skip {f : Unit → NodeReader β} {Q : Nat → β → Prop}
    (h : ∀ bound, start ≤ bound → Reads bound (f ()) Q) : Reads start (NodeReader.skip >>= f) Q :=
  (passes_skip start).bind fun _ bound hbound _ => h bound hbound

theorem passes_properties : Passes properties := by
  intro start
  unfold properties
  refine .peek fun t _ _ => ?_
  split
  · refine .skip fun _ _ => .peek fun t _ _ => ?_
    split
    · exact .skip fun _ _ => .pure fun _ _ => trivial
    · exact .pure fun _ _ => trivial
  · refine .skip fun _ _ => .peek fun t _ _ => ?_
    split
    · exact .skip fun _ _ => .pure fun _ _ => trivial
    · exact .pure fun _ _ => trivial
  · exact .pure fun _ _ => trivial

theorem passes_fullTag (first here : Nat) (handle suffix : String) :
    Passes (fullTag first here handle suffix) := by
  intro start
  unfold fullTag
  split
  · exact .pure fun _ _ => trivial
  · refine .get fun s _ => ?_
    split
    · exact .pure fun _ _ => trivial
    · exact .throw _ _

/-! ## Anchors -/

theorem passes_openAnchor (name : String) : Passes (openAnchor name) := by
  intro start s r s' hs _ hrun
  cases hrun
  refine ⟨⟨?_, fun e he => (hs.anchored e he).mono (by simp)⟩, by simp, trivial⟩
  intro e he
  rcases List.mem_cons.1 he with rfl | he
  · simp
  · have := hs.names e he
    simp only [List.length_cons]
    omega

theorem passes_openAnchors (name? : Option String) : Passes (name?.mapM openAnchor) := by
  intro start
  cases name? with
  | none => exact .pure fun _ _ => trivial
  | some name =>
    exact (passes_openAnchor name start).bind fun _ _ _ _ => .pure fun _ _ => trivial

/-- The aliases in a node have numbers below a bound. -/
def NodeNumbered (bound : Nat) (n : Node) : Prop :=
  Numbered bound n.aliases

theorem reads_closeAnchor {n : Node} (number : Option Nat) (h : Numbered start n.aliases) :
    Reads start (closeAnchor number n) NodeNumbered := by
  intro s r s' hs hstart hrun
  cases number with
  | none =>
    cases hrun
    exact ⟨hs, Nat.le.refl, h.mono hstart⟩
  | some number =>
    cases hrun
    refine ⟨⟨hs.names, fun e he => ?_⟩, Nat.le.refl, h.mono hstart⟩
    rcases List.mem_cons.1 he with rfl | he
    · exact h.mono hstart
    · exact hs.anchored e he

theorem reads_bare (number : Option Nat) (first here : Nat) (tag : Option String) (hasMark : Bool) :
    Reads start (bare number first here tag hasMark) NodeNumbered := by
  unfold bare
  split
  · exact reads_closeAnchor number (numbered_nil _)
  · exact .throw _ _

theorem reads_aliasNode (t : Token) (name : String) :
    Reads start (aliasNode t name) NodeNumbered := by
  unfold aliasNode
  refine .skip fun _ _ => .get fun s hs => ?_
  split
  · rename_i hfind
    refine .pure fun bound hbound a ha => ?_
    obtain rfl := List.mem_singleton.1 ha
    exact Nat.lt_of_lt_of_le (hs.names _ (List.mem_of_find?_eq_some hfind)) hbound
  · exact .throw _ _

/-! ## Nodes -/

/-- The aliases in the items of a sequence have numbers below a bound. -/
def ItemsNumbered (bound : Nat) (items : List Node) : Prop :=
  Numbered bound (itemsAliases items)

/-- The aliases in the entries of a mapping have numbers below a bound. -/
def EntriesNumbered (bound : Nat) (entries : List (Node × Node)) : Prop :=
  Numbered bound (entriesAliases entries)

/-- The aliases in a key and its value have numbers below a bound. -/
def PairNumbered (bound : Nat) (e : Node × Node) : Prop :=
  Numbered bound e.1.aliases ∧ Numbered bound e.2.aliases

theorem reads_missing (line : Nat) : Reads start (Pure.pure (missing line)) NodeNumbered :=
  .pure fun bound _ => numbered_nil bound

theorem reads_cons {n : Node} {items : NodeReader (List Node)} (hn : NodeNumbered start n)
    (h : Reads start items ItemsNumbered) :
    Reads start (items >>= fun r => Pure.pure (n :: r)) ItemsNumbered :=
  h.bind fun _ _ hstart hitems =>
    .pure fun _ hbound => numbered_append.2 ⟨hn.mono (hstart.trans hbound), hitems.mono hbound⟩

theorem reads_cons_entry {k v : Node} {entries : NodeReader (List (Node × Node))}
    (hk : NodeNumbered start k) (hv : NodeNumbered start v)
    (h : Reads start entries EntriesNumbered) :
    Reads start (entries >>= fun r => Pure.pure ((k, v) :: r)) EntriesNumbered :=
  h.bind fun _ _ hstart hentries => .pure fun _ hbound =>
    numbered_append.2
      ⟨numbered_append.2 ⟨hk.mono (hstart.trans hbound), hv.mono (hstart.trans hbound)⟩,
        hentries.mono hbound⟩

/-- The readers of nodes up to a depth give nodes whose aliases have anchors. -/
structure ReadsNodes (fuel : Nat) : Prop where
  node : ∀ start inBlock unindented, Reads start (node inBlock unindented fuel) NodeNumbered
  blockItems : ∀ start first, Reads start (blockItems first fuel) ItemsNumbered
  unindentedItems : ∀ start, Reads start (unindentedItems fuel) ItemsNumbered
  blockEntries : ∀ start first, Reads start (blockEntries first fuel) EntriesNumbered
  flowItems : ∀ start first isFirst, Reads start (flowItems first isFirst fuel) ItemsNumbered
  flowPair : ∀ start, Reads start (flowPair fuel) PairNumbered
  flowEntries : ∀ start first isFirst, Reads start (flowEntries first isFirst fuel) EntriesNumbered

namespace ReadsNodes

theorem zero : ReadsNodes 0 := by
  refine ⟨?_, ?_, ?_, ?_, ?_, ?_, ?_⟩
  all_goals intros
  · rw [NodeReader.node]
    exact .throw _ _
  · rw [NodeReader.blockItems]
    exact .throw _ _
  · rw [NodeReader.unindentedItems]
    exact .throw _ _
  · rw [NodeReader.blockEntries]
    exact .throw _ _
  · rw [NodeReader.flowItems]
    exact .throw _ _
  · rw [NodeReader.flowPair]
    exact .throw _ _
  · rw [NodeReader.flowEntries]
    exact .throw _ _

variable {fuel : Nat}

theorem node_succ (h : ReadsNodes fuel) (start : Nat) (inBlock unindented : Bool) :
    Reads start (NodeReader.node inBlock unindented (fuel + 1)) NodeNumbered := by
  rw [NodeReader.node]
  refine .peek fun first _ _ => ?_
  split
  · exact reads_aliasNode _ _
  refine (passes_properties _).bind fun properties _ _ _ => .peek fun t _ _ => ?_
  extract_lets line hasMark rest
  -- The rest is the same whether there is a tag or not.
  have hrest : ∀ tag bound, Reads bound (rest tag) NodeNumbered := by
    intro tag bound
    refine (passes_openAnchors _ _).bind fun number _ _ _ => ?_
    split
    · split
      · exact (h.unindentedItems _).bind fun _ _ _ hitems => reads_closeAnchor number hitems
      · exact reads_bare _ _ _ _ _
    · exact .skip fun _ _ => reads_closeAnchor number (numbered_nil _)
    · exact .skip fun _ _ => (h.flowItems _ _ _).bind fun _ _ _ hitems =>
        reads_closeAnchor number hitems
    · exact .skip fun _ _ => (h.flowEntries _ _ _).bind fun _ _ _ hentries =>
        reads_closeAnchor number hentries
    · exact .skip fun _ _ => (h.blockItems _ _).bind fun _ _ _ hitems =>
        reads_closeAnchor number hitems
    · exact .skip fun _ _ => (h.blockEntries _ _).bind fun _ _ _ hentries =>
        reads_closeAnchor number hentries
    · exact reads_bare _ _ _ _ _
  split
  · exact (passes_fullTag _ _ _ _ _).bind fun tag bound _ _ => hrest tag bound
  · exact Reads.bind (P := fun _ _ => True) (.pure fun _ _ => trivial) fun tag bound _ _ =>
      hrest tag bound

theorem blockItems_succ (h : ReadsNodes fuel) (start first : Nat) :
    Reads start (NodeReader.blockItems first (fuel + 1)) ItemsNumbered := by
  rw [NodeReader.blockItems]
  refine .peek fun t _ _ => ?_
  split
  · refine .skip fun _ _ => .peek fun _ from_ _ => ?_
    extract_lets rest
    have hrest : ∀ item bound, from_ ≤ bound → NodeNumbered bound item →
        Reads bound (rest item) ItemsNumbered :=
      fun item bound _ hitem => reads_cons hitem (h.blockItems _ _)
    split
    · exact (reads_missing _).bind hrest
    · exact (reads_missing _).bind hrest
    · exact (h.node _ _ _).bind hrest
  · exact .skip fun _ _ => .pure fun _ _ => numbered_nil _
  · exact .throw _ _

theorem unindentedItems_succ (h : ReadsNodes fuel) (start : Nat) :
    Reads start (NodeReader.unindentedItems (fuel + 1)) ItemsNumbered := by
  rw [NodeReader.unindentedItems]
  refine .peek fun t _ _ => ?_
  split
  · refine .skip fun _ _ => .peek fun _ from_ _ => ?_
    extract_lets rest
    have hrest : ∀ item bound, from_ ≤ bound → NodeNumbered bound item →
        Reads bound (rest item) ItemsNumbered :=
      fun item bound _ hitem => reads_cons hitem (h.unindentedItems _)
    split
    · exact (reads_missing _).bind hrest
    · exact (reads_missing _).bind hrest
    · exact (reads_missing _).bind hrest
    · exact (reads_missing _).bind hrest
    · exact (h.node _ _ _).bind hrest
  · exact .pure fun _ _ => numbered_nil _

theorem blockEntries_succ (h : ReadsNodes fuel) (start first : Nat) :
    Reads start (NodeReader.blockEntries first (fuel + 1)) EntriesNumbered := by
  rw [NodeReader.blockEntries]
  refine .peek fun t _ _ => ?_
  split
  · refine .skip fun _ _ => .peek fun _ from_ _ => ?_
    extract_lets rest
    have hrest : ∀ key bound, from_ ≤ bound → NodeNumbered bound key →
        Reads bound (rest key) EntriesNumbered := by
      intro key bound _ hkey
      refine .peek fun v from' hfrom => ?_
      extract_lets rest'
      have hrest' : ∀ value bound', from' ≤ bound' → NodeNumbered bound' value →
          Reads bound' (rest' value) EntriesNumbered :=
        fun value bound' hbound hvalue =>
          reads_cons_entry (hkey.mono (hfrom.trans hbound)) hvalue (h.blockEntries _ _)
      split
      · refine .skip fun _ hskip => .peek fun _ _ hpeek => ?_
        have hlater := fun value bound' hbound =>
          hrest' value bound' ((hskip.trans hpeek).trans hbound)
        split
        · exact (reads_missing _).bind hlater
        · exact (h.node _ _ _).bind hlater
      · exact (reads_missing _).bind hrest'
    split
    · exact (reads_missing _).bind hrest
    · exact (h.node _ _ _).bind hrest
  · exact .skip fun _ _ => .pure fun _ _ => numbered_nil _
  · exact .throw _ _

theorem flowItems_succ (h : ReadsNodes fuel) (start first : Nat) (isFirst : Bool) :
    Reads start (NodeReader.flowItems first isFirst (fuel + 1)) ItemsNumbered := by
  rw [NodeReader.flowItems]
  refine .peek fun t _ _ => ?_
  split
  · exact .skip fun _ _ => .pure fun _ _ => numbered_nil _
  extract_lets rest
  have hrest : ∀ mark bound, Reads bound (rest mark) ItemsNumbered := by
    intro mark bound
    refine .peek fun t _ _ => ?_
    split
    · refine .skip fun _ _ => (h.flowPair _).bind fun pair _ _ hpair => ?_
      refine reads_cons (numbered_append.2 ⟨numbered_append.2 hpair, numbered_nil _⟩)
        (h.flowItems _ _ _)
    · exact .skip fun _ _ => .pure fun _ _ => numbered_nil _
    · exact (h.node _ _ _).bind fun _ _ _ hitem => reads_cons hitem (h.flowItems _ _ _)
  split
  · split
    · exact (passes_skip _).bind fun mark bound _ _ => hrest mark bound
    · exact (Reads.throw _ fun _ _ => True).bind fun mark bound _ _ => hrest mark bound
  · exact hrest () _

theorem flowPair_succ (h : ReadsNodes fuel) (start : Nat) :
    Reads start (NodeReader.flowPair (fuel + 1)) PairNumbered := by
  rw [NodeReader.flowPair]
  refine .peek fun t from_ _ => ?_
  extract_lets rest
  have hrest : ∀ key bound, from_ ≤ bound → NodeNumbered bound key →
      Reads bound (rest key) PairNumbered := by
    intro key bound _ hkey
    refine .peek fun v _ hpeek => ?_
    split
    · refine .skip fun _ hskip => .peek fun t _ hpeek' => ?_
      have hkey' := hkey.mono ((hpeek.trans hskip).trans hpeek')
      split
      · exact .pure fun _ hbound => ⟨hkey'.mono hbound, numbered_nil _⟩
      · exact .pure fun _ hbound => ⟨hkey'.mono hbound, numbered_nil _⟩
      · exact (h.node _ _ _).bind fun value _ hnode hvalue =>
          .pure fun _ hbound => ⟨hkey'.mono (hnode.trans hbound), hvalue.mono hbound⟩
    · exact .pure fun _ hbound => ⟨hkey.mono (hpeek.trans hbound), numbered_nil _⟩
  have hmissing : Reads from_ (NodeReader.skip >>= fun _ => Pure.pure (missing t.line) >>= rest)
      PairNumbered :=
    .skip fun _ hskip => (reads_missing _).bind fun key bound hbound =>
      hrest key bound (hskip.trans hbound)
  split
  · exact hmissing
  · exact hmissing
  · exact hmissing
  · exact (h.node _ _ _).bind hrest

theorem flowEntries_succ (h : ReadsNodes fuel) (start first : Nat) (isFirst : Bool) :
    Reads start (NodeReader.flowEntries first isFirst (fuel + 1)) EntriesNumbered := by
  rw [NodeReader.flowEntries]
  refine .peek fun t _ _ => ?_
  split
  · exact .skip fun _ _ => .pure fun _ _ => numbered_nil _
  extract_lets afterKey rest
  have hafterKey : ∀ key bound, NodeNumbered bound key →
      Reads bound (afterKey key) EntriesNumbered := by
    intro key bound hkey
    refine .peek fun v from' hfrom => ?_
    extract_lets last
    have hlast : ∀ value bound', from' ≤ bound' → NodeNumbered bound' value →
        Reads bound' (last value) EntriesNumbered :=
      fun value bound' hbound hvalue =>
        reads_cons_entry (hkey.mono (hfrom.trans hbound)) hvalue (h.flowEntries _ _ _)
    split
    · refine .skip fun _ hskip => .peek fun _ _ hpeek => ?_
      have hlater := fun value bound' hbound =>
        hlast value bound' ((hskip.trans hpeek).trans hbound)
      split
      · exact (reads_missing _).bind hlater
      · exact (reads_missing _).bind hlater
      · exact (h.node _ _ _).bind hlater
    · exact (reads_missing _).bind hlast
  have hrest : ∀ mark bound, Reads bound (rest mark) EntriesNumbered := by
    intro mark bound
    refine .peek fun t _ _ => ?_
    split
    · refine .skip fun _ _ => .peek fun _ _ _ => ?_
      split
      · exact (reads_missing _).bind fun key bound _ => hafterKey key bound
      · exact (reads_missing _).bind fun key bound _ => hafterKey key bound
      · exact (reads_missing _).bind fun key bound _ => hafterKey key bound
      · exact (h.node _ _ _).bind fun key bound _ => hafterKey key bound
    · exact .skip fun _ _ => .pure fun _ _ => numbered_nil _
    · refine (h.node _ _ _).bind fun key _ _ hkey => .peek fun v _ hpeek => ?_
      exact reads_cons_entry (hkey.mono hpeek) (numbered_nil _) (h.flowEntries _ _ _)
  split
  · split
    · exact (passes_skip _).bind fun mark bound _ _ => hrest mark bound
    · exact (Reads.throw _ fun _ _ => True).bind fun mark bound _ _ => hrest mark bound
  · exact hrest () _

/-- Readers of any depth keep to the anchors. -/
theorem all (fuel : Nat) : ReadsNodes fuel := by
  induction fuel with
  | zero => exact zero
  | succ fuel ih =>
    exact ⟨ih.node_succ, ih.blockItems_succ, ih.unindentedItems_succ, ih.blockEntries_succ,
      ih.flowItems_succ, ih.flowPair_succ, ih.flowEntries_succ⟩

end ReadsNodes

/-! ## Documents -/

theorem passes_directives (fuel : Nat) (hasVersion : Bool) (handles : List (String × String)) :
    Passes (directives fuel hasVersion handles) := by
  induction fuel generalizing hasVersion handles with
  | zero =>
    intro start
    rw [directives]
    exact .pure fun _ _ => trivial
  | succ fuel ih =>
    intro start
    rw [directives]
    refine .peek fun t _ _ => ?_
    split
    · extract_lets last rest
      have hlast : ∀ mark bound, Reads bound (last mark) fun _ _ => True :=
        fun _ _ => .skip fun _ _ => ih _ _ _
      have hrest : ∀ mark bound, Reads bound (rest mark) fun _ _ => True := by
        intro mark bound
        unfold rest
        split
        · exact (Reads.throw _ fun _ _ => True).bind fun mark bound _ _ => hlast mark bound
        · exact hlast () _
      split
      · exact (Reads.throw _ fun _ _ => True).bind fun mark bound _ _ => hrest mark bound
      · exact hrest () _
    · extract_lets rest
      have hrest : ∀ mark bound, Reads bound (rest mark) fun _ _ => True :=
        fun _ _ => .skip fun _ _ => ih _ _ _
      split
      · exact (Reads.throw _ fun _ _ => True).bind fun mark bound _ _ => hrest mark bound
      · exact hrest () _
    · exact .pure fun _ _ => trivial

/-- The aliases in the root of a document have numbers below a bound. -/
def RootNumbered (bound : Nat) (root? : Option Node) : Prop :=
  ∀ root, root? = some root → Numbered bound root.aliases

theorem reads_rootNode (fuel : Nat) :
    Reads start (node true false fuel >>= fun n => peek >>= fun _ => Pure.pure (some n))
      RootNumbered := by
  refine ((ReadsNodes.all fuel).node _ _ _).bind fun n _ _ hn => .peek fun _ _ hpeek =>
    .pure fun _ hbound => ?_
  rintro _ ⟨⟩
  exact hn.mono (hpeek.trans hbound)

theorem reads_root (fuel : Nat) : Reads start (root fuel) RootNumbered := by
  unfold root
  refine .peek fun t from_ _ => ?_
  have hmissing : ∀ from_ line, Reads from_ (Pure.pure (some (missing line))) RootNumbered := by
    refine fun _ _ => .pure fun bound _ => ?_
    rintro _ ⟨⟩
    exact numbered_nil bound
  have hpasses : ∀ handles : List (String × String),
      Passes (modify fun s => { s with handles := handles ++ s.handles }) := by
    intro handles start s r s' hs _ hrun
    cases hrun
    exact ⟨⟨hs.names, hs.anchored⟩, Nat.le.refl, trivial⟩
  split
  case h_1 =>
    refine .pure fun _ _ => ?_
    rintro _ ⟨⟩
  case h_2 | h_3 | h_4 =>
    refine (passes_directives _ _ _ _).bind fun handles _ _ _ => (hpasses _ _).bind fun _ _ _ _ =>
      .peek fun t _ _ => ?_
    split
    · refine .skip fun _ _ => .peek fun t _ _ => ?_
      split
      case h_6 => exact reads_rootNode fuel
      all_goals exact hmissing _ _
    · exact .throw _ _
  case h_5 => exact reads_rootNode fuel

end NodeReader

/-- The aliases of a document that is read have the numbers of its anchors. -/
theorem Document.parse_anchors {text : String} {d : Document}
    (h : Document.parse text = .ok (some d)) : Numbered d.anchors.length d.aliases := by
  unfold Document.parse at h
  obtain ⟨⟨root?, s⟩, hrun, h⟩ := Except.bind_eq_ok_iff.1 h
  cases root? with
  | none => cases h
  | some root =>
    cases h
    have hstart : TokenSource.Sound ⟨(Token.scan text).1, (Token.scan text).2,
        [("!", "!"), ("!!", NodeReader.standardTag)], [], []⟩ := ⟨by simp, by simp⟩
    obtain ⟨hsound, -, hroot⟩ := NodeReader.reads_root _ _ _ _ hstart Nat.le.refl hrun
    have hroot := hroot root rfl
    simp only [List.length_map, List.length_range, aliases]
    refine numbered_append.2 ⟨hroot, numbered_items fun n hn => ?_⟩
    obtain ⟨number, -, rfl⟩ := List.mem_map.1 hn
    cases hfind : s.anchored.find? (·.1 == number) with
    | none => simpa [hfind] using hroot
    | some e => simpa [hfind] using hsound.anchored e (List.mem_of_find?_eq_some hfind)

/-- **Every alias of a document leads to an anchor in it**, if the document was read under its
name. -/
theorem Document.read_anchors {name text : String} {d : Document}
    (h : Document.read name text = .ok (some d)) :
    ∀ a ∈ d.aliases, a.target.document = name ∧ a.target.number < d.anchors.length := by
  obtain ⟨parsed?, hparse, hparsed⟩ := Except.map_eq_ok_iff.1 h
  obtain ⟨parsed, rfl, rfl⟩ := Option.map_eq_some_iff.1 hparsed
  obtain ⟨hroot, hanchors⟩ := numbered_append.1 (Document.parse_anchors hparse)
  have hnumbered : Numbered parsed.anchors.length (parsed.mapDocuments fun _ => name).aliases :=
    numbered_append.2 ⟨numbered_mapDocuments _ _ hroot, numbered_mapItems _ _ hanchors⟩
  intro a ha
  refine ⟨?_, by simpa [Document.mapDocuments, mapItems_eq] using hnumbered a ha⟩
  rcases List.mem_append.1 ha with ha | ha
  · exact document_of_mem_aliases_mapDocuments name parsed.root a ha
  · exact document_of_mem_itemsAliases_mapItems name parsed.anchors a ha

end PayloadGen.Yaml
