import PayloadGen.Proofs.Reference.Ending

/-!
# Circular references

Replacing the references of a node succeeds exactly if every reference that is reached can be looked
up and the target of none of them reaches a reference with the same key
(`resolve_ok_iff_not_circular`). The same target may well be reached twice on different ways.

From a success one goes down: what is reached has been replaced as well, after all references on the
way to it (`Succeeds.reaches`). A failure names its cause: the induction over runs gives, for each
error, a reference that is lost or one that comes back to itself (`Explained`).
-/

namespace PayloadGen.References

open Yaml Relation

variable {files : Option FileSource} {l k : Library} {file ref : String} {stack : List String}
  {n t : Node} {p q : Position}

/-! ## What a success consists of -/

theorem succeeds_of_mem {ns ms : List Node} {k' : Library} (hk : Agree files l k)
    (h : resolveAll files file stack ns k = some (.ok ms, k')) (hn : n ∈ ns) :
    Succeeds files l stack ⟨file, n⟩ := by
  induction ns generalizing k ms with
  | nil => cases hn
  | cons c ns ih =>
    obtain ⟨m, k₁, ms', hc, hns⟩ := resolveAll_cons_eq_ok h
    rcases List.mem_cons.1 hn with rfl | hn
    · exact Succeeds.of_agree ⟨m, k₁, hc⟩ hk.symm
    · exact ih (hk.trans (Agree.of_resolve hc)) hns hn

theorem Succeeds.inner {m : Node} (h : Succeeds files l stack ⟨file, n⟩)
    (hstep : Inner files l n m) : Succeeds files l stack ⟨file, m⟩ := by
  obtain ⟨result, l', hrun⟩ := h
  cases hstep with
  | target ht => exact ⟨result, l', (resolve_follow ht).symm.trans hrun⟩
  | child href hm =>
    rw [resolve_parts (target?_eq_none_of_mem_children hm) href] at hrun
    obtain ⟨⟨r, l₁⟩, hall, hr⟩ := Option.map_eq_some_iff.1 hrun
    obtain ⟨ms, hms, -⟩ := Except.map_eq_ok_iff.1 (congrArg Prod.fst hr)
    exact succeeds_of_mem (Agree.refl l) (by rw [hall, ← hms]) hm

theorem Succeeds.reference (h : Succeeds files l stack ⟨file, n⟩) (href : refOf? n = some ref) :
    key file ref ∉ stack ∧ ∃ t, (lookup files file ref l).1 = .ok t ∧
      Succeeds files l (stack ++ [key file ref]) ⟨targetFile file ref, t⟩ := by
  obtain ⟨result, l', hrun⟩ := h
  rcases hlookup : lookup files file ref l with ⟨r, l₁⟩
  cases r with
  | error e => simp [resolve_lost href hlookup] at hrun
  | ok t =>
    by_cases hkey : key file ref ∈ stack
    · simp [resolve_circular href hlookup hkey] at hrun
    · rw [resolve_reference href hlookup hkey] at hrun
      exact ⟨hkey, t, rfl, Succeeds.of_agree ⟨result, l', hrun⟩ (Agree.of_lookup_eq hlookup).symm⟩

/-- What a success reaches has been replaced as well, after all the references on a way to it. -/
theorem Succeeds.reaches (h : Succeeds files l stack p) (hq : Reaches files l p q) :
    ∃ stack', stack ⊆ stack' ∧ Succeeds files l stack' q := by
  induction hq with
  | refl => exact ⟨stack, List.Subset.refl _, h⟩
  | tail _ hstep ih =>
    obtain ⟨stack', hsub, hsucceeds⟩ := ih
    cases hstep with
    | inner hinner => exact ⟨stack', hsub, hsucceeds.inner hinner⟩
    | reference hleads =>
      cases hleads with
      | intro href hlookup =>
        obtain ⟨-, t, hlookup', ht⟩ := hsucceeds.reference href
        cases hlookup.symm.trans hlookup'
        exact ⟨_, List.subset_append_of_subset_left _ hsub, ht⟩

/-! ## What a failure means -/

/-- The cause of an error after the references of a stack: a reference that is reached and cannot be
looked up, or one whose key is on the stack or that of a reference on the way to it. -/
def Explained (files : Option FileSource) (l : Library) (stack : List String) (p : Position) :
    ReferenceError → Prop
  | .lookup ref e => ∃ q, Reaches files l p q ∧ refOf? q.node = some ref ∧
      (lookup files q.file ref l).1 = .error e
  | .circular chain => ∃ q k, Reaches files l p q ∧ q.key? = some k ∧
      chain.getLast? = some k ∧ k ∈ chain.dropLast ∧
      (k ∈ stack ∨ ∃ r t, Reaches files l p r ∧ Leads files l r k t ∧ Reaches files l t q)
  | .unending => False

/-- The cause of an error is also one after a step that follows no reference. -/
theorem Explained.of_inner {e : ReferenceError} {m : Node} (hstep : Inner files l n m)
    (h : Explained files l stack ⟨file, m⟩ e) : Explained files l stack ⟨file, n⟩ e := by
  have hhead : Step files l ⟨file, n⟩ ⟨file, m⟩ := .inner hstep
  cases e with
  | lookup ref e =>
    obtain ⟨q, hq, h⟩ := h
    exact ⟨q, hq.head hhead, h⟩
  | circular chain =>
    obtain ⟨q, k, hq, hk, hlast, hmem, hrepeat⟩ := h
    refine ⟨q, k, hq.head hhead, hk, hlast, hmem, hrepeat.imp_right ?_⟩
    rintro ⟨r, t, hr, h⟩
    exact ⟨r, t, hr.head hhead, h⟩
  | unending => exact h

theorem Explained.of_leads {e : ReferenceError} {key : String} (hleads : Leads files l p key q)
    (h : Explained files l (stack ++ [key]) q e) : Explained files l stack p e := by
  have hhead : Step files l p q := .reference hleads
  cases e with
  | lookup ref e =>
    obtain ⟨r, hr, h⟩ := h
    exact ⟨r, hr.head hhead, h⟩
  | circular chain =>
    obtain ⟨r, k, hr, hk, hlast, hmem, hrepeat⟩ := h
    refine ⟨r, k, hr.head hhead, hk, hlast, hmem, ?_⟩
    rcases hrepeat with hstack | ⟨s, t, hs, ht, htr⟩
    · rcases List.mem_append.1 hstack with hstack | hkey
      · exact .inl hstack
      · -- The key is that of the reference followed here.
        rw [List.mem_singleton.1 hkey]
        exact .inr ⟨p, q, .refl, hleads, hr⟩
    · exact .inr ⟨s, t, hs.head hhead, ht, htr⟩
  | unending => exact h

theorem runInduction_explained (files : Option FileSource) (l : Library) :
    RunInduction files
      (fun file stack n k o => Agree files l k → ∀ e, o.1 = .error e →
        Explained files l stack ⟨file, n⟩ e)
      (fun file stack ns k o => Agree files l k → ∀ e, o.1 = .error e →
        ∃ n ∈ ns, Explained files l stack ⟨file, n⟩ e) where
  follow {file stack n t k o} htarget _ ih hk e he :=
    (ih hk e he).of_inner (.target ((hk.target? n).trans htarget))
  lost {file stack n ref k e k'} href hlookup hk e' he := by
    cases he
    obtain ⟨l', hlookup', -⟩ := hk.symm.lookup hlookup
    exact ⟨_, .refl, href, by rw [hlookup']⟩
  circular {file stack n ref k t k'} href hlookup hkey hk e he := by
    cases he
    exact ⟨⟨file, n⟩, key file ref, .refl, by simp [Position.key?, href], by simp,
      by simpa using hkey, .inl hkey⟩
  reference {file stack n ref k t k' o} href hlookup hkey _ ih hk e he := by
    obtain ⟨l', hlookup', -⟩ := hk.symm.lookup hlookup
    exact (ih (hk.trans (Agree.of_lookup_eq hlookup)) e he).of_leads
      (.intro href (by rw [hlookup']))
  parts {file stack n k r k'} htarget href _ ih hk e he := by
    obtain ⟨c, hc, hexplained⟩ := ih hk e (Except.map_eq_error_iff.1 he)
    exact hexplained.of_inner (.child href hc)
  nil _ e he := by cases he
  fail _ ih hk e he := by
    cases he
    exact ⟨_, List.mem_cons_self, ih hk _ rfl⟩
  cons hrun _ _ ih hk e he := by
    obtain ⟨c, hc, hexplained⟩ :=
      ih (hk.trans (Agree.of_resolve hrun)) e (Except.map_eq_error_iff.1 he)
    exact ⟨c, List.mem_cons_of_mem _ hc, hexplained⟩

/-- A failure has a cause. -/
theorem explained_of_resolve {e : ReferenceError} {l' : Library}
    (h : resolve files file stack n l = some (.error e, l')) :
    Explained files l stack ⟨file, n⟩ e :=
  (runInduction_explained files l).resolve h (Agree.refl l) e rfl

/-! ## Exactness -/

/-- The key of a reference does not occur again on the ways from its target. -/
theorem Succeeds.key?_ne {key : String} {r t : Position} (h : Succeeds files l stack p)
    (hr : Reaches files l p r) (hleads : Leads files l r key t) (hq : Reaches files l t q) :
    q.key? ≠ some key := by
  obtain ⟨stack₁, -, hr⟩ := h.reaches hr
  cases hleads with
  | intro href hlookup =>
    obtain ⟨-, t, hlookup', ht⟩ := hr.reference href
    cases hlookup.symm.trans hlookup'
    obtain ⟨stack₂, hsub, hq⟩ := ht.reaches hq
    intro hkey
    obtain ⟨ref, href', hkey⟩ := Option.map_eq_some_iff.1 hkey
    exact (hq.reference href').1 (hkey ▸ hsub (by simp))

/-- **Circular references are detected exactly.** Where no anchor contains an alias to itself,
replacing gives a node if and only if every reference that is reached can be looked up and the
target of none reaches a reference with its key; and a chain that is reported as circular ends with
a key that occurs in it before and whose target reaches a reference with that key. -/
theorem resolve_ok_iff_not_circular {files : Option FileSource} {l : Library}
    (hself : ∀ a, ¬ ContainsItself files l a) (file : String) (n : Node) :
    ((∃ m l', resolve files file [] n l = some (.ok m, l')) ↔
      (∀ p ref, Reaches files l ⟨file, n⟩ p → refOf? p.node = some ref →
        ∃ t, (lookup files p.file ref l).1 = .ok t) ∧
      ∀ p k t q, Reaches files l ⟨file, n⟩ p → Leads files l p k t → Reaches files l t q →
      q.key? ≠ some k) ∧
    ∀ chain l', resolve files file [] n l = some (.error (.circular chain), l') →
      ∃ p k t q, Reaches files l ⟨file, n⟩ p ∧ Leads files l p k t ∧ Reaches files l t q ∧
      q.key? = some k ∧
        chain.getLast? = some k ∧ k ∈ chain.dropLast := by
  have hcircular : ∀ chain l', resolve files file [] n l = some (.error (.circular chain), l') →
      ∃ p k t q, Reaches files l ⟨file, n⟩ p ∧ Leads files l p k t ∧ Reaches files l t q ∧
      q.key? = some k ∧
        chain.getLast? = some k ∧ k ∈ chain.dropLast := by
    intro chain l' hrun
    obtain ⟨q, k, -, hk, hlast, hmem, hstack | ⟨p, t, hp, hleads, hq⟩⟩ := explained_of_resolve hrun
    · cases hstack
    · exact ⟨p, k, t, q, hp, hleads, hq, hk, hlast, hmem⟩
  refine ⟨⟨fun hsucceeds => ⟨fun p ref hp href => ?_, fun p k t q => Succeeds.key?_ne hsucceeds⟩,
    ?_⟩, hcircular⟩
  · have hsucceeds : Succeeds files l [] ⟨file, n⟩ := hsucceeds
    obtain ⟨stack, -, hp⟩ := hsucceeds.reaches hp
    obtain ⟨-, t, hlookup, -⟩ := hp.reference href
    exact ⟨t, hlookup⟩
  · rintro ⟨hlookup, hrepeat⟩
    obtain ⟨⟨r, l'⟩, hrun⟩ := exists_resolve_eq_some fun file' line column name a _ => hself a
    cases r with
    | ok m => exact ⟨m, l', hrun⟩
    | error e =>
      exfalso
      cases e with
      | lookup ref e =>
        obtain ⟨p, hp, href, herror⟩ := explained_of_resolve hrun
        obtain ⟨t, hok⟩ := hlookup p ref hp href
        cases herror.symm.trans hok
      | circular chain =>
        obtain ⟨p, k, t, q, hp, hleads, hq, hk, -⟩ := hcircular chain l' hrun
        exact hrepeat p k t q hp hleads hq hk
      | unending => exact explained_of_resolve hrun

/-! ## An example -/

/-- Two references to one target, of which one is an alias to the other. -/
def pairNode : Node :=
  .sequence 1 none [refNode 1 "#/shared", .aliasOf 1 31 "p" ⟨"a.yml", 0⟩]

/-- A document in which a target is used twice, while `ping` and `pong` refer to each other. -/
def crossDocument : Document :=
  ⟨.mapping 1 none [
    (.scalar 1 none "pair" true, pairNode),
    (.scalar 2 none "shared" true, .scalar 2 none "1" true),
    (.scalar 3 none "ping" true, refNode 3 "#/pong"),
    (.scalar 4 none "pong" true, refNode 4 "a.yml#/ping")],
  [refNode 1 "#/shared"]⟩

/-- The library of that document alone. -/
def crossLibrary : Library := [("a.yml", crossDocument)]

theorem lookup_shared :
    lookup none "a.yml" "#/shared" crossLibrary = (.ok (.scalar 2 none "1" true), crossLibrary) :=
  lookup_eq_of_toOption (by decide +kernel)

theorem resolve_shared (stack : List String) (hstack : "a.yml#/shared" ∉ stack) :
    resolve none "a.yml" stack (refNode 1 "#/shared") crossLibrary =
      some (.ok (.scalar 2 none "1" true), crossLibrary) := by
  rw [resolve_reference rfl lookup_shared hstack, resolve_parts rfl rfl, Node.children,
    resolveAll_nil]
  rfl

theorem resolve_pair :
    resolve none "a.yml" [] pairNode crossLibrary =
      some (.ok (.sequence 1 none [.scalar 2 none "1" true, .scalar 2 none "1" true]),
        crossLibrary) := by
  have hshared := resolve_shared [] (by simp)
  have halias : resolve none "a.yml" [] (.aliasOf 1 31 "p" ⟨"a.yml", 0⟩) crossLibrary =
      some (.ok (.scalar 2 none "1" true), crossLibrary) := by
    rw [resolve_follow (show target? none crossLibrary _ = some (refNode 1 "#/shared") by
      decide +kernel), hshared]
  rw [resolve_parts rfl rfl, show pairNode.children = [_, _] from rfl, resolveAll_cons_ok hshared,
    resolveAll_cons_ok halias, resolveAll_nil]
  rfl

theorem resolve_ping :
    resolve none "a.yml" [] (refNode 3 "#/pong") crossLibrary =
      some (.error (.circular ["a.yml#/pong", "a.yml#/ping", "a.yml#/pong"]), crossLibrary) := by
  have hpong : lookup none "a.yml" "#/pong" crossLibrary =
      (.ok (refNode 4 "a.yml#/ping"), crossLibrary) :=
    lookup_eq_of_toOption (by decide +kernel)
  have hping : lookup none "a.yml" "a.yml#/ping" crossLibrary =
      (.ok (refNode 3 "#/pong"), crossLibrary) :=
    lookup_eq_of_toOption (by decide +kernel)
  have hkey : key "a.yml" "a.yml#/ping" = "a.yml#/ping" := by decide +kernel
  have hfile : targetFile "a.yml" "a.yml#/ping" = "a.yml" := by decide +kernel
  have hkey' : key "a.yml" "#/pong" = "a.yml#/pong" := by decide +kernel
  rw [resolve_reference rfl hpong (by simp), show targetFile "a.yml" "#/pong" = "a.yml" from rfl,
    hkey', resolve_reference rfl hping (by rw [hkey]; decide), hfile, hkey,
    resolve_circular rfl hpong (by rw [hkey']; decide), hkey']
  rfl

theorem not_containsItself_crossLibrary (a : Anchor) : ¬ ContainsItself none crossLibrary a := by
  rintro ⟨t, line, column, name, ha, hway⟩
  have ht : t = refNode 1 "#/shared" := by
    rw [anchored?_eq] at ha
    obtain ⟨d, hd, ht⟩ := Option.bind_eq_some_iff.1 ha
    have hd : d = crossDocument := by
      rw [Except.toOption_eq_some_iff, documentOf_eq] at hd
      split at hd
      · rename_i hfind
        cases hd
        have hagree : Agree none crossLibrary crossLibrary := rfl
        rcases hagree.entry hfind with ⟨-, rfl⟩ | ⟨-, hload⟩
        · rfl
        · simp [load_eq_ok] at hload
      · simp [load_eq_ok] at hd
    subst hd
    simpa [crossDocument] using List.mem_of_getElem? ht
  -- The anchor is that of a reference, and no inner step starts there.
  rcases ReflTransGen.cases_head hway with h | ⟨m, hstep, -⟩
  · rw [ht] at h
    cases h
  · rw [ht] at hstep
    cases hstep with
    | child href _ => cases href
    | target h => cases h

/-- The target that is used twice is accepted, and `ping` is reported with good reason. -/
theorem resolve_ok_iff_not_circular_crossDocument :
    (∀ a, ¬ ContainsItself none crossLibrary a) ∧
      (∃ m l', resolve none "a.yml" [] pairNode crossLibrary = some (.ok m, l')) ∧
      (∀ p k t q, Reaches none crossLibrary ⟨"a.yml", pairNode⟩ p → Leads none crossLibrary p k t →
        Reaches none crossLibrary t q → q.key? ≠ some k) ∧
      ∃ p k t q, Reaches none crossLibrary ⟨"a.yml", refNode 3 "#/pong"⟩ p ∧
      Leads none crossLibrary p k t ∧
        Reaches none crossLibrary t q ∧ q.key? = some k := by
  have hself := not_containsItself_crossLibrary
  have hpair : ∃ m l', resolve none "a.yml" [] pairNode crossLibrary = some (.ok m, l') :=
    ⟨_, _, resolve_pair⟩
  obtain ⟨p, k, t, q, hp, hleads, hq, hk, -⟩ :=
    (resolve_ok_iff_not_circular hself "a.yml" (refNode 3 "#/pong")).2 _ _ resolve_ping
  exact ⟨hself, hpair, ((resolve_ok_iff_not_circular hself "a.yml" pairNode).1.1 hpair).2,
    p, k, t, q, hp, hleads, hq, hk⟩

end PayloadGen.References
