import Mathlib.Data.Fintype.Card
import PayloadGen.Proofs.Reference.Reach

/-!
# When replacing references ends

Replacing a node calls for the replacement of others: of the target of an alias or of a reference,
and of a child once all children before it have been replaced (`Calls`). No reference is followed
twice on one way, and from one reference to the next a way stays in the tree of a document or takes
an alias. So replacing does not end exactly if it comes to an alias from which the calls lead back
to that alias (`resolve_eq_none_iff`). In particular it ends if no alias that is reached leads to an
anchor that contains itself (`exists_resolve_eq_some`).
-/

namespace PayloadGen.References

open Yaml Relation

variable {files : Option FileSource} {l k : Library} {file : String}
  {stack : List String} {n : Node} {p q : Position}

/-! ## Calls -/

/-- The node at the position can be replaced after the references of the stack. -/
def Succeeds (files : Option FileSource) (l : Library) (stack : List String)
    (p : Position) : Prop :=
  ∃ m l', resolve files p.file stack p.node l = some (.ok m, l')

/-- The replacement of one node calls for that of another without a reference being followed. -/
inductive InnerCall (files : Option FileSource) (l : Library) (stack : List String) :
    Position → Position → Prop
  | target {file : String} {n t : Node} : target? files l n = some t →
    InnerCall files l stack ⟨file, n⟩ ⟨file, t⟩
  | child {file : String} {n c : Node} {before after : List Node} : refOf? n = none →
    n.children = before ++ c :: after → (∀ b ∈ before, Succeeds files l stack ⟨file, b⟩) →
    InnerCall files l stack ⟨file, n⟩ ⟨file, c⟩

/-- The replacement at a position, after the references of a stack, calls for another. -/
inductive Calls (files : Option FileSource) (l : Library) :
    Position × List String → Position × List String → Prop
  | inner {p q : Position} {stack : List String} : InnerCall files l stack p q →
    Calls files l (p, stack) (q, stack)
  | reference {p q : Position} {stack : List String} {key : String} :
    Leads files l p key q → key ∉ stack →
    Calls files l (p, stack) (q, stack ++ [key])

theorem InnerCall.inner (h : InnerCall files l stack p q) :
    p.file = q.file ∧ Inner files l p.node q.node := by
  cases h with
  | target ht => exact ⟨rfl, .target ht⟩
  | child href hc _ => exact ⟨rfl, .child href (by simp [hc])⟩

theorem InnerCall.refOf?_eq_none (h : InnerCall files l stack p q) : refOf? p.node = none := by
  cases h with
  | target ht => exact refOf?_eq_none_of_target? ht
  | child href _ _ => exact href

theorem reaches_of_calls {c c' : Position × List String} (h : ReflTransGen (Calls files l) c c') :
    Reaches files l c.1 c'.1 := by
  induction h with
  | refl => exact .refl
  | tail _ hcall ih =>
    cases hcall with
    | @inner p q _ h =>
      obtain ⟨hfile, hinner⟩ := h.inner
      obtain ⟨file, n⟩ := p
      obtain ⟨file', m⟩ := q
      cases hfile
      exact ih.tail (.inner hinner)
    | reference h _ => exact ih.tail (.reference h)

theorem exists_lookup_eq {ref : String} {r : Except LookupError Node}
    (h : (lookup files file ref l).1 = r) : ∃ l', lookup files file ref l = (r, l') :=
  ⟨_, Prod.ext h rfl⟩

theorem resolve_eq_none_of_agree (h : Agree files l k) (hl : resolve files file stack n l = none) :
    resolve files file stack n k = none := by
  simpa [hl, eq_comm] using resolve_agree h file stack n

theorem Succeeds.of_agree (hp : Succeeds files l stack p) (h : Agree files l k) :
    Succeeds files k stack p := by
  obtain ⟨m, l', hrun⟩ := hp
  have hk := resolve_agree h p.file stack p.node
  rw [hrun] at hk
  obtain ⟨⟨r, k'⟩, hrun', hr⟩ := Option.map_eq_some_iff.1 hk.symm
  cases hr
  exact ⟨m, k', hrun'⟩

/-! ## Loops do not end -/

theorem resolveAll_eq_none {before after : List Node} {c : Node}
    (hbefore : ∀ b ∈ before, Succeeds files l stack ⟨file, b⟩)
    (hc : resolve files file stack c l = none) (hk : Agree files l k) :
    resolveAll files file stack (before ++ c :: after) k = none := by
  induction before generalizing k with
  | nil => exact resolveAll_cons_none (resolve_eq_none_of_agree hk hc)
  | cons b before ih =>
    obtain ⟨m, k', hb⟩ := (hbefore b (by simp)).of_agree hk
    rw [List.cons_append, resolveAll_cons_ok hb,
      ih (fun b hb => hbefore b (by simp [hb])) (hk.trans (Agree.of_resolve hb))]
    rfl

/-- A replacement does not end if one that it calls for does not. -/
theorem resolve_eq_none_of_calls {c c' : Position × List String} (h : Calls files l c c')
    (hnone : resolve files c'.1.file c'.2 c'.1.node l = none) :
    resolve files c.1.file c.2 c.1.node l = none := by
  cases h with
  | inner h =>
    cases h with
    | target ht => exact (resolve_follow ht).trans hnone
    | @child file n c before after href hchildren hbefore =>
      have htarget : target? files l n = none :=
        target?_eq_none_of_mem_children
          (hchildren ▸ List.mem_append_right before List.mem_cons_self)
      rw [resolve_parts htarget href, hchildren, resolveAll_eq_none hbefore hnone (Agree.refl l)]
      rfl
  | reference h hkey =>
    cases h with
    | intro href hlookup =>
      obtain ⟨l', hlookup⟩ := exists_lookup_eq hlookup
      rw [resolve_reference href hlookup hkey]
      exact resolve_eq_none_of_agree (Agree.of_lookup_eq hlookup) hnone

theorem resolve_eq_none_of_reflTransGen {c c' : Position × List String}
    (h : ReflTransGen (Calls files l) c c')
    (hnone : resolve files c'.1.file c'.2 c'.1.node l = none) :
    resolve files c.1.file c.2 c.1.node l = none := by
  induction h using ReflTransGen.head_induction_on with
  | refl => exact hnone
  | head hcall _ ih => exact resolve_eq_none_of_calls hcall ih

/-- Calls without a reference lead back to the position. -/
def Loops (files : Option FileSource) (l : Library) (stack : List String) (p : Position) : Prop :=
  TransGen (InnerCall files l stack) p p

theorem Loops.refOf?_eq_none (h : Loops files l stack p) : refOf? p.node = none := by
  obtain ⟨q, hcall, -⟩ := TransGen.head'_iff.1 h
  exact hcall.refOf?_eq_none

/-- What loops calls for something that loops. -/
theorem Loops.exists_call (h : Loops files l stack p) :
    ∃ q, InnerCall files l stack p q ∧ Loops files l stack q := by
  obtain ⟨q, hcall, hback⟩ := TransGen.head'_iff.1 h
  exact ⟨q, hcall, TransGen.tail' hback hcall⟩

/-- A run that ends makes no call that leads back to it. -/
theorem runInduction_not_loops (files : Option FileSource) (l : Library) :
    RunInduction files
      (fun file stack n k _ => Agree files l k → ¬ Loops files l stack ⟨file, n⟩)
      (fun file stack ns k _ => Agree files l k → ∀ before c after, ns = before ++ c :: after →
        (∀ b ∈ before, Succeeds files l stack ⟨file, b⟩) → ¬ Loops files l stack ⟨file, c⟩) where
  follow {file stack n t k o} htarget _ ih hk hloops := by
    obtain ⟨q, hcall, hloops⟩ := hloops.exists_call
    cases hcall with
    | target ht =>
      rw [hk.target? n, htarget] at ht
      cases ht
      exact ih hk hloops
    | child _ hchildren _ =>
      obtain ⟨_, _, _, _, rfl, -⟩ := target?_eq_some htarget
      simp [Node.children] at hchildren
  lost href _ _ hloops := by simp [hloops.refOf?_eq_none] at href
  circular href _ _ _ hloops := by simp [hloops.refOf?_eq_none] at href
  reference href _ _ _ _ _ hloops := by simp [hloops.refOf?_eq_none] at href
  parts {file stack n k r k'} htarget _ _ ih hk hloops := by
    obtain ⟨q, hcall, hloops⟩ := hloops.exists_call
    cases hcall with
    | target ht => simp [hk.target? n, htarget] at ht
    | child _ hchildren hbefore => exact ih hk _ _ _ hchildren hbefore hloops
  nil _ before c after h := by simp at h
  fail {file stack n ns k e k'} hrun ih hk before c after hns hbefore := by
    cases before with
    | nil =>
      cases hns
      exact ih hk
    | cons b before =>
      -- A child that fails is the last one to be called for.
      cases hns
      obtain ⟨m, l', hok⟩ := (hbefore n (by simp)).of_agree hk
      cases hrun.symm.trans hok
  cons {file stack n m ns k k₁ r k'} hrun ihNode _ ihNodes hk before c after hns hbefore := by
    cases before with
    | nil =>
      cases hns
      exact ihNode hk
    | cons b before =>
      cases hns
      exact ihNodes (hk.trans (Agree.of_resolve hrun)) before c after rfl fun b hb =>
        hbefore b (by simp [hb])

/-- What loops does not end. -/
theorem Loops.resolve_eq_none (h : Loops files l stack p) :
    resolve files p.file stack p.node l = none := by
  cases hrun : resolve files p.file stack p.node l with
  | none => rfl
  | some o => exact absurd h ((runInduction_not_loops files l).resolve hrun (Agree.refl l))

/-! ## What does not loop ends -/

/-- The keys of the references that a position reaches. -/
def keysFrom (files : Option FileSource) (l : Library) (p : Position) : Set String :=
  {k | ∃ q, Reaches files l p q ∧ q.key? = some k}

theorem finite_keysFrom (files : Option FileSource) (l : Library) (p : Position) :
    (keysFrom files l p).Finite := by
  refine ((finite_reaches files l p).image fun q => (q.key?).getD "").subset ?_
  rintro k ⟨q, hq, hk⟩
  exact ⟨q, hq, by simp [hk]⟩

/-- Following a reference leaves fewer to follow. -/
theorem card_filter_append_lt {keys : Finset String} {key : String} (hkey : key ∈ keys)
    (hstack : key ∉ stack) :
    (keys.filter (· ∉ stack ++ [key])).card < (keys.filter (· ∉ stack)).card := by
  refine Finset.card_lt_card (Finset.ssubset_iff_subset_ne.2 ⟨fun x hx => ?_, fun heq => ?_⟩)
  · simp only [Finset.mem_filter, List.mem_append, not_or] at hx ⊢
    exact ⟨hx.1, hx.2.1⟩
  · have hmem : key ∈ keys.filter (· ∉ stack) := Finset.mem_filter.2 ⟨hkey, hstack⟩
    rw [← heq] at hmem
    simp at hmem

/-- The positions whose replacement is called for after the references of a stack. -/
abbrev Called (files : Option FileSource) (l : Library) (p : Position)
    (stack : List String) : Type :=
  {q // ReflTransGen (Calls files l) (p, []) (q, stack)}

/-- Where nothing loops, calls without a reference cannot go on for ever. -/
theorem wellFounded_innerCall (h : ∀ q : Called files l p stack, ¬ Loops files l stack q) :
    WellFounded fun q q' : Called files l p stack => TransGen (InnerCall files l stack) q' q := by
  have : Finite (Called files l p stack) :=
    ((finite_reaches files l p).subset
      fun q (hq : ReflTransGen (Calls files l) (p, []) (q, stack)) =>
        reaches_of_calls hq).to_subtype
  have : IsTrans (Called files l p stack) fun q q' => TransGen (InnerCall files l stack) q' q :=
    ⟨fun _ _ _ h h' => h'.trans h⟩
  have : Std.Irrefl fun q q' : Called files l p stack => TransGen (InnerCall files l stack) q' q :=
    ⟨h⟩
  exact Finite.wellFounded_of_trans_of_irrefl _

/-- Nodes have results one after the other if each has one once those before it have succeeded. -/
theorem exists_resolveAll_eq_some {ns : List Node} (hk : Agree files l k)
    (h : ∀ before c after, ns = before ++ c :: after →
      (∀ b ∈ before, Succeeds files l stack ⟨file, b⟩) →
      ∀ k, Agree files l k → ∃ o, resolve files file stack c k = some o) :
    ∃ o, resolveAll files file stack ns k = some o := by
  induction ns generalizing k with
  | nil => exact ⟨_, resolveAll_nil⟩
  | cons n ns ih =>
    obtain ⟨⟨r, k'⟩, hn⟩ := h [] n ns rfl (by simp) k hk
    cases r with
    | error e => exact ⟨_, resolveAll_cons_error hn⟩
    | ok m =>
      have hsucceeds : Succeeds files l stack ⟨file, n⟩ := Succeeds.of_agree ⟨m, k', hn⟩ hk.symm
      obtain ⟨o, ho⟩ := ih (hk.trans (Agree.of_resolve hn)) fun before c after hns hbefore =>
        h (n :: before) c after (by rw [hns]; rfl) (by simpa [hsucceeds] using hbefore)
      exact ⟨_, by rw [resolveAll_cons_ok hn, ho]; rfl⟩

/-- Replacing ends if nothing that it calls for loops. -/
theorem exists_resolve_eq_some_of_not_loops (p : Position)
    (h : ∀ q stack, ReflTransGen (Calls files l) (p, []) (q, stack) → ¬ Loops files l stack q) :
    ∃ o, resolve files p.file [] p.node l = some o := by
  classical
  have hfinite := finite_keysFrom files l p
  -- The references that are left to follow become fewer with each that is followed; between two of
  -- them the calls go down in the order of `wellFounded_innerCall`.
  suffices hall : ∀ left stack, (hfinite.toFinset.filter (· ∉ stack)).card = left →
      ∀ (q : Called files l p stack) k, Agree files l k →
        ∃ o, resolve files q.1.file stack q.1.node k = some o from
    hall _ [] rfl ⟨p, .refl⟩ l (Agree.refl l)
  intro left
  induction left using Nat.strong_induction_on with
  | _ left ihLeft =>
    intro stack hleft q
    induction q using (wellFounded_innerCall fun q => h q.1 stack q.2).induction with
    | _ q ihInner =>
      obtain ⟨⟨file, n⟩, hq⟩ := q
      intro k hk
      have hinner : ∀ m, InnerCall files l stack ⟨file, n⟩ ⟨file, m⟩ → ∀ k, Agree files l k →
          ∃ o, resolve files file stack m k = some o :=
        fun m hm => ihInner ⟨⟨file, m⟩, hq.tail (.inner hm)⟩ (.single hm)
      cases htarget : target? files l n with
      | some t =>
        rw [resolve_follow ((hk.target? n).symm.trans htarget)]
        exact hinner t (.target htarget) k hk
      | none =>
        cases href : refOf? n with
        | none =>
          obtain ⟨o, ho⟩ := exists_resolveAll_eq_some hk fun before c after hchildren hbefore =>
            hinner c (.child href hchildren hbefore)
          rw [resolve_parts ((hk.target? n).symm.trans htarget) href, ho]
          exact ⟨_, rfl⟩
        | some ref =>
          rcases hlookup : lookup files file ref k with ⟨r, k'⟩
          cases r with
          | error e => exact ⟨_, resolve_lost href hlookup⟩
          | ok t =>
            by_cases hkey : key file ref ∈ stack
            · exact ⟨_, resolve_circular href hlookup hkey⟩
            · rw [resolve_reference href hlookup hkey]
              obtain ⟨l', hlookup', -⟩ := hk.symm.lookup hlookup
              have hleads : Leads files l ⟨file, n⟩ (key file ref) ⟨targetFile file ref, t⟩ :=
                .intro href (by rw [hlookup'])
              have hmem : key file ref ∈ hfinite.toFinset :=
                hfinite.mem_toFinset.2 ⟨_, reaches_of_calls hq, by simp [Position.key?, href]⟩
              exact ihLeft _ (hleft ▸ card_filter_append_lt hmem hkey) _ rfl
                ⟨_, hq.tail (.reference hleads hkey)⟩ k' (hk.trans (Agree.of_lookup_eq hlookup))

/-! ## Loops and aliases -/

/-- Calls without a reference lead to a smaller node, or else through an alias. -/
theorem size_lt_or_target (h : TransGen (InnerCall files l stack) p q) :
    q.node.size < p.node.size ∨ ∃ x t, ReflTransGen (InnerCall files l stack) p x ∧
      target? files l x.node = some t ∧ TransGen (InnerCall files l stack) x q := by
  induction h with
  | single h =>
    cases h with
    | target ht => exact .inr ⟨_, _, .refl, ht, .single (.target ht)⟩
    | child href hchildren hbefore => exact .inl (size_lt_of_mem_children (by simp [hchildren]))
  | tail hway h ih =>
    cases h with
    | target ht => exact .inr ⟨_, _, hway.to_reflTransGen, ht, .single (.target ht)⟩
    | child href hchildren hbefore =>
      rcases ih with hlt | ⟨x, t, hx, ht, hq⟩
      · exact .inl (lt_trans (size_lt_of_mem_children (by simp [hchildren])) hlt)
      · exact .inr ⟨x, t, hx, ht, hq.tail (.child href hchildren hbefore)⟩

/-- A loop goes through an alias. -/
theorem Loops.exists_alias (h : Loops files l stack p) :
    ∃ file line column name a, ReflTransGen (InnerCall files l stack) p
      ⟨file, .aliasOf line column name a⟩ ∧
      Loops files l stack ⟨file, .aliasOf line column name a⟩ := by
  rcases size_lt_or_target h with hlt | ⟨⟨file, x⟩, t, hx, ht, hp⟩
  · exact absurd hlt (lt_irrefl _)
  · obtain ⟨line, column, name, a, rfl, -⟩ := target?_eq_some ht
    exact ⟨file, line, column, name, a, hx, hp.trans_left hx⟩

/-- An alias that loops leads to an anchor that contains itself. -/
theorem Loops.containsItself {line column : Nat} {name : String} {a : Anchor}
    (h : Loops files l stack ⟨file, .aliasOf line column name a⟩) : ContainsItself files l a := by
  obtain ⟨q, hcall, hback⟩ := TransGen.head'_iff.1 h
  cases hcall with
  | target ht =>
    refine ⟨_, line, column, name, ht, ?_⟩
    exact hback.lift Position.node fun _ _ hcall => hcall.inner.2
  | child _ hchildren _ => simp [Node.children] at hchildren

/-- **Replacing does not end exactly if it comes to an alias that loops**: from the target of the
alias the calls lead back to the alias, and no reference is followed in between. -/
theorem resolve_eq_none_iff (files : Option FileSource) (l : Library) (file : String) (n : Node) :
    resolve files file [] n l = none ↔
      ∃ file' line column name a stack,
        ReflTransGen (Calls files l) (⟨file, n⟩, []) (⟨file', .aliasOf line column name a⟩, stack) ∧
          Loops files l stack ⟨file', .aliasOf line column name a⟩ := by
  constructor
  · intro hnone
    by_contra hno
    have hends : ∃ o, resolve files file [] n l = some o := by
      refine exists_resolve_eq_some_of_not_loops ⟨file, n⟩ fun q stack hq hloops => hno ?_
      obtain ⟨file', line, column, name, a, hway, hloops⟩ := hloops.exists_alias
      exact ⟨file', line, column, name, a, stack,
        hq.trans (hway.lift (·, stack) fun _ _ => Calls.inner), hloops⟩
    obtain ⟨o, ho⟩ := hends
    cases hnone.symm.trans ho
  · rintro ⟨file', line, column, name, a, stack, hcalls, hloops⟩
    exact resolve_eq_none_of_reflTransGen hcalls hloops.resolve_eq_none

/-- A specification with one message, whose anchor contains an alias to itself. -/
def loopText : String :=
  "asyncapi: 2.6.0\ninfo: \x7btitle: t, version: v\x7d\n" ++
    "components:\n  messages:\n    A: &a\n      payload: *a\n"

/-- The message of `loopText`. -/
def loopMessage : Node :=
  .mapping 5 none [(.scalar 6 none "payload" true, .aliasOf 6 15 "a" ⟨"", 0⟩)]

/-- The document of `loopText`. -/
def loopDocument : Document :=
  let plain (line : Nat) (text : String) : Node := .scalar line none text true
  let info : Node :=
    .mapping 2 none [(plain 2 "title", plain 2 "t"), (plain 2 "version", plain 2 "v")]
  let components : Node :=
    .mapping 4 none [(plain 4 "messages", .mapping 5 none [(plain 5 "A", loopMessage)])]
  ⟨.mapping 1 none [(plain 1 "asyncapi", plain 1 "2.6.0"), (plain 2 "info", info),
    (plain 3 "components", components)], [loopMessage]⟩

/-- The message can be read, and replacing its references does not end. -/
theorem resolve_loopText_eq_none :
    ∃ d n, Document.read "" loopText = .ok (some d) ∧
      ((d.root.entryAt? "components").bind (Node.entryAt? "messages")).bind (Node.entryAt? "A") =
        some n ∧
      resolve none "" [] n [("", d)] = none := by
  refine ⟨loopDocument, loopMessage, ?_, by decide, ?_⟩
  · rw [← Except.toOption_eq_some_iff]
    decide +kernel
  · have hchild : InnerCall none [("", loopDocument)] [] ⟨"", loopMessage⟩
        ⟨"", .aliasOf 6 15 "a" ⟨"", 0⟩⟩ :=
      .child rfl (show loopMessage.children = [] ++ _ :: [] from rfl) (by simp)
    have htarget : InnerCall none [("", loopDocument)] [] ⟨"", .aliasOf 6 15 "a" ⟨"", 0⟩⟩
        ⟨"", loopMessage⟩ :=
      .target rfl
    exact Loops.resolve_eq_none (p := ⟨"", loopMessage⟩) (.tail (.single hchild) htarget)

/-- Replacing ends if no alias that is reached leads to an anchor that contains itself. -/
theorem exists_resolve_eq_some
    (h : ∀ file' line column name a,
      Reaches files l ⟨file, n⟩ ⟨file', .aliasOf line column name a⟩ →
      ¬ ContainsItself files l a) : ∃ o, resolve files file [] n l = some o := by
  refine exists_resolve_eq_some_of_not_loops ⟨file, n⟩ fun q stack hq hloops => ?_
  obtain ⟨file', line, column, name, a, hway, hloops⟩ := hloops.exists_alias
  have hcalls := hq.trans (hway.lift (·, stack) fun _ _ => Calls.inner)
  exact h file' line column name a (reaches_of_calls hcalls) hloops.containsItself

end PayloadGen.References
