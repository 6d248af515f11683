import PayloadGen.Proofs.Dict
import PayloadGen.Proofs.Json.Quoted
import PayloadGen.Schema.JsonSchema

/-!
# What a schema document says about properties and items

`JsonSchema.update` goes through the members of an object. Of what the members say, payload schemas
are built from the properties and the items. Each of the two is said by one keyword: a member of
that name sets it, and all others leave it alone (`Says`). So in an object whose names are distinct,
what is said in the end is what the one member of the name says (`items_of_update`,
`properties_of_update`).
-/

namespace PayloadGen.JsonSchema

/-- A member name of an object is a keyword only in its proper spelling. -/
def SpeltProperly (name : String) : Prop :=
  ∀ k ∈ vocabulary, sameName k.1 name → k.1 = name

instance (name : String) : Decidable (SpeltProperly name) :=
  inferInstanceAs (Decidable (∀ k ∈ vocabulary, sameName k.1 name → k.1 = name))

theorem SpeltProperly.eq_of_keyword? {name k : String} {form : Form} (h : SpeltProperly name)
    (hk : keyword? name = some (k, form)) : k = name :=
  h (k, form) (List.mem_of_find?_eq_some hk) (by simpa using List.find?_some hk)

/-- The name of a member. -/
abbrev memberName (m : List Char × List Char × Json) : String :=
  Json.unquote m.1

theorem unlessNull_eq_some_some {v : Json} {x : Option JsonSchema} {s : JsonSchema}
    (h : unlessNull v x = some (some s)) : x = some s := by
  unfold unlessNull at h
  split at h
  · cases h
  · simpa using h

/-! ## One member -/

/-- What a member may do: set the items or the properties, if it has that name, or else leave both
alone. -/
inductive Says (s : JsonSchema) (m : List Char × List Char × Json) : JsonSchema → Prop
  | items {i : Option JsonSchema} (hname : keyword? (memberName m) = some ("items", .schema))
      (hi : unlessNull m.2.2 (update (s.items.getD empty) m.2.2) = some i) :
        Says s m { s with items := i }
  | properties {members : List (List Char × List Char × Json)}
      {ps : List (String × Option JsonSchema)}
      (hname : keyword? (memberName m) = some ("properties", .schemaMap))
        (hm : m.2.2 = .object members)
      (hps : updateMap members = some ps) : Says s m (ps.foldl (fun s p => s.setProperty p.1 p.2) s)
  | noProperties (hname : keyword? (memberName m) = some ("properties", .schemaMap))
      (hm : m.2.2.isNull) :
      Says s m { s with properties := [] }
  | other {t : JsonSchema} (hitems : memberName m ≠ "items")
      (hproperties : memberName m ≠ "properties") (hi : t.items = s.items)
      (hp : t.properties = s.properties) : Says s m t

theorem setPlain_eq_some {s s' : JsonSchema} {name : String} {form : Form}
    {raw : List Char} {v : Json} (h : s.setPlain name form raw v = some s') :
    s'.items = s.items ∧ s'.properties = s.properties := by
  have hmark (name : String) (isThere : Bool) :
      (s.mark name isThere).items = s.items ∧ (s.mark name isThere).properties = s.properties :=
        ⟨rfl, rfl⟩
  unfold setPlain at h
  cases form with
  | text =>
    obtain ⟨t, -, h⟩ := Option.bind_eq_some_iff.1 h
    split at h
    · cases h; exact ⟨rfl, rfl⟩
    · split at h <;> cases h <;> exact ⟨rfl, rfl⟩
  | flag =>
    dsimp only at h
    split at h
    · cases h; exact ⟨rfl, rfl⟩
    · obtain ⟨b, -, rfl⟩ := Option.map_eq_some_iff.1 h
      exact hmark name b
  | number =>
    dsimp only at h
    split at h
    · split at h <;> cases h <;> exact ⟨rfl, rfl⟩
    · obtain ⟨x, -, rfl⟩ := Option.map_eq_some_iff.1 h
      split <;> exact ⟨rfl, rfl⟩
  | count =>
    dsimp only at h
    split at h
    · cases h; exact ⟨rfl, rfl⟩
    · obtain ⟨n, -, rfl⟩ := Option.map_eq_some_iff.1 h
      split <;> exact ⟨rfl, rfl⟩
  | values =>
    dsimp only at h
    split at h
    · cases h
      split <;> exact ⟨rfl, rfl⟩
    · split at h
      · cases h
        split <;> exact ⟨rfl, rfl⟩
      · cases h
  | texts =>
    obtain ⟨ts, -, rfl⟩ := Option.map_eq_some_iff.1 h
    exact ⟨rfl, rfl⟩
  | flagMap | textsMap =>
    dsimp only at h
    split at h
    · split at h <;> cases h
      exact hmark name _
    · split at h <;> cases h
      exact hmark name false
  | anything =>
    cases h
    split
    · exact ⟨rfl, rfl⟩
    · split <;> exact ⟨rfl, rfl⟩
  | schema | schemas | schemaMap =>
    cases h
    exact ⟨rfl, rfl⟩

theorem form_of_keyword? {name : String} {form : Form} :
    (keyword? name = some ("items", form) → form = .schema) ∧
      (keyword? name = some ("properties", form) → form = .schemaMap) := by
  refine ⟨fun h => ?_, fun h => ?_⟩
  · simpa [vocabulary] using List.mem_of_find?_eq_some h
  · simpa [vocabulary] using List.mem_of_find?_eq_some h

theorem keyword?_items : keyword? "items" = some ("items", .schema) := by rfl

theorem keyword?_properties : keyword? "properties" = some ("properties", .schemaMap) := by rfl

/-- A member with a keyword other than the two. -/
theorem Says.of_ne {s t : JsonSchema} {m : List Char × List Char × Json} {k : String} {form : Form}
    (hk : keyword? (memberName m) = some (k, form)) (hitems : k ≠ "items")
    (hproperties : k ≠ "properties") (hi : t.items = s.items) (hp : t.properties = s.properties) :
    Says s m t := by
  refine .other (fun h => ?_) (fun h => ?_) hi hp
  · rw [h, keyword?_items] at hk
    cases hk
    exact hitems rfl
  · rw [h, keyword?_properties] at hk
    cases hk
    exact hproperties rfl

/-- What is said after one member more. -/
theorem says_of_updateMembers {s s' : JsonSchema} {m : List Char × List Char × Json}
    {rest : List (List Char × List Char × Json)} (h : updateMembers s (m :: rest) = some s') :
    ∃ t, Says s m t ∧ updateMembers t rest = some s' := by
  obtain ⟨name, raw, v⟩ := m
  rw [updateMembers] at h
  split at h
  · rename_i hk
    refine ⟨s, .other (fun hname => ?_) (fun hname => ?_) rfl rfl, h⟩
    · cases keyword?_items.symm.trans ((congrArg keyword? hname).symm.trans hk)
    · cases keyword?_properties.symm.trans ((congrArg keyword? hname).symm.trans hk)
  · rename_i k hk
    have hproperties : k ≠ "properties" := by
      rintro rfl
      cases form_of_keyword?.2 hk
    split at h
    · obtain ⟨i, hi, h⟩ := Option.bind_eq_some_iff.1 h
      exact ⟨_, .items hk hi, h⟩
    · obtain ⟨a, -, h⟩ := Option.bind_eq_some_iff.1 h
      refine ⟨_, ?_, h⟩
      exact .of_ne hk (by decide) hproperties rfl rfl
    · obtain ⟨a, -, h⟩ := Option.bind_eq_some_iff.1 h
      refine ⟨_, ?_, h⟩
      exact .of_ne hk (by decide) hproperties rfl rfl
    · rename_i hitems _ _
      obtain ⟨one, -, h⟩ := Option.bind_eq_some_iff.1 h
      refine ⟨_, ?_, h⟩
      exact .of_ne hk hitems hproperties rfl rfl
  · rename_i k hk
    have hitems : k ≠ "items" := by
      rintro rfl
      cases form_of_keyword?.1 hk
    have hproperties : k ≠ "properties" := by
      rintro rfl
      cases form_of_keyword?.2 hk
    split at h
    · obtain ⟨_, -, h⟩ := Option.bind_eq_some_iff.1 h
      refine ⟨_, ?_, h⟩
      exact .of_ne hk hitems hproperties rfl rfl
    · split at h
      · refine ⟨_, ?_, h⟩
        exact .of_ne hk hitems hproperties rfl rfl
      · cases h
  · rename_i k hk
    have hitems : k ≠ "items" := by
      rintro rfl
      cases form_of_keyword?.1 hk
    split at h
    · obtain ⟨ps, hps, hrest⟩ := Option.bind_eq_some_iff.1 h
      split at hrest
      · rename_i hname
        cases eq_of_beq hname
        exact ⟨_, .properties hk rfl hps, hrest⟩
      · rename_i hname
        refine ⟨_, ?_, hrest⟩
        exact .of_ne hk hitems (by simpa using hname) rfl rfl
    · split at h
      · rename_i hnull
        by_cases hname : k = "properties"
        · subst hname
          exact ⟨_, .noProperties hk hnull, h⟩
        · rw [if_neg (by simpa using hname)] at h
          refine ⟨_, ?_, h⟩
          exact .of_ne hk hitems hname rfl rfl
      · cases h
  · rename_i k form hschema hschemas hmap hk
    obtain ⟨t, ht, h⟩ := Option.bind_eq_some_iff.1 h
    obtain ⟨hi, hp⟩ := setPlain_eq_some ht
    refine ⟨t, .of_ne hk ?_ ?_ hi hp, h⟩
    · rintro rfl
      exact hschema (form_of_keyword?.1 hk)
    · rintro rfl
      exact hmap (form_of_keyword?.2 hk)

/-! ## All members -/

/-- What a keyword has said after all members, if each member either sets it, under that name, or
leaves it alone. -/
theorem said_of_updateMembers {β : Type} (said : JsonSchema → β) (key : String)
    (sets : β → Json → β → Prop) (hstep : ∀ {s t m}, SpeltProperly (memberName m) → Says s m t →
      (memberName m = key ∧ sets (said s) m.2.2 (said t)) ∨ (memberName m ≠ key ∧ said t = said s))
    {s s' : JsonSchema} {members : List (List Char × List Char × Json)}
    (h : updateMembers s members = some s') (hspelt : ∀ m ∈ members, SpeltProperly (memberName m))
    (hnames : (members.map memberName).Nodup) :
    (∃ m ∈ members, memberName m = key ∧ sets (said s) m.2.2 (said s')) ∨
      (key ∉ members.map memberName ∧ said s' = said s) := by
  induction members generalizing s with
  | nil =>
    rw [updateMembers] at h
    cases h
    exact .inr ⟨by simp, rfl⟩
  | cons m rest ih =>
    obtain ⟨t, hsays, hrest⟩ := says_of_updateMembers h
    obtain ⟨hfresh, hnames⟩ := List.nodup_cons.1 hnames
    have hlater := ih hrest (fun m hm => hspelt m (List.mem_cons_of_mem _ hm)) hnames
    rcases hstep (hspelt m List.mem_cons_self) hsays with ⟨hkey, hset⟩ | ⟨hkey, hsame⟩
    · rcases hlater with ⟨m', hm', hkey', -⟩ | ⟨-, hlater⟩
      · exact absurd (List.mem_map.2 ⟨m', hm', hkey'.trans hkey.symm⟩) hfresh
      · exact .inl ⟨m, List.mem_cons_self, hkey, hlater ▸ hset⟩
    · rw [hsame] at hlater
      rcases hlater with ⟨m', hm', hkey', hset⟩ | ⟨hnone, hlater⟩
      · exact .inl ⟨m', List.mem_cons_of_mem _ hm', hkey', hset⟩
      · refine .inr ⟨?_, hlater⟩
        rw [List.map_cons, List.mem_cons, not_or]
        exact ⟨Ne.symm hkey, hnone⟩

theorem setProperties_items (ps : List (String × Option JsonSchema)) (s : JsonSchema) :
    (ps.foldl (fun s p => s.setProperty p.1 p.2) s).items = s.items := by
  induction ps generalizing s with
  | nil => rfl
  | cons p ps ih => exact ih _

theorem setProperties_properties (ps : List (String × Option JsonSchema)) (s : JsonSchema) :
    (ps.foldl (fun s p => s.setProperty p.1 p.2) s).properties =
      ps.foldl (fun d p => Pairs.insert p.1 p.2 d) s.properties := by
  induction ps generalizing s with
  | nil => rfl
  | cons p ps ih => exact ih _

theorem setType_eq_some {s s' : JsonSchema} {members : List (List Char × List Char × Json)}
    (h : s.setType members = some s') : s'.items = s.items ∧ s'.properties = s.properties := by
  unfold setType at h
  split at h
  · cases h; exact ⟨rfl, rfl⟩
  · obtain ⟨ts, -, rfl⟩ := Option.map_eq_some_iff.1 h
    exact ⟨rfl, rfl⟩
  · obtain ⟨t, -, rfl⟩ := Option.map_eq_some_iff.1 h
    exact ⟨rfl, rfl⟩

theorem update_object {old s : JsonSchema} {members : List (List Char × List Char × Json)}
    (h : update old (.object members) = some s) :
    ∃ t, updateMembers old members = some t ∧ s.items = t.items ∧ s.properties = t.properties := by
  rw [update] at h
  obtain ⟨t, ht, h⟩ := Option.bind_eq_some_iff.1 h
  obtain ⟨u, hu, h⟩ := Option.bind_eq_some_iff.1 h
  obtain ⟨hi, hp⟩ := setType_eq_some hu
  refine ⟨t, ht, ?_⟩
  dsimp only at h
  split at h <;> cases h <;> exact ⟨hi, hp⟩

/-- What an object says about items: what its member of that name says. -/
theorem items_of_update {s i : JsonSchema} {members : List (List Char × List Char × Json)}
    (h : update empty (.object members) = some s)
    (hspelt : ∀ m ∈ members, SpeltProperly (memberName m)) (hnames : (members.map memberName).Nodup)
    (hi : s.items = some i) :
    ∃ m ∈ members, memberName m = "items" ∧ update empty m.2.2 = some i := by
  obtain ⟨t, ht, hitems, -⟩ := update_object h
  rw [hitems] at hi
  have hsaid := said_of_updateMembers (·.items) "items"
    (fun old v new => unlessNull v (update (old.getD empty) v) = some new) ?_ ht hspelt hnames
  · rcases hsaid with ⟨m, hm, hkey, hset⟩ | ⟨-, hsame⟩
    · rw [hi] at hset
      exact ⟨m, hm, hkey, unlessNull_eq_some_some hset⟩
    · rw [hi] at hsame
      cases hsame
  · intro s t m hm hsays
    cases hsays with
    | items hname hi => exact .inl ⟨(hm.eq_of_keyword? hname).symm, hi⟩
    | properties hname _ _ =>
      exact .inr ⟨hm.eq_of_keyword? hname ▸ by decide, setProperties_items _ _⟩
    | noProperties hname _ => exact .inr ⟨hm.eq_of_keyword? hname ▸ by decide, rfl⟩
    | other hitems _ hi _ => exact .inr ⟨hitems, hi⟩

/-- What an object says about properties: what its member of that name says, if it has one and it is
not `null`. -/
theorem properties_of_update {s : JsonSchema} {members : List (List Char × List Char × Json)}
    (h : update empty (.object members) = some s)
    (hspelt : ∀ m ∈ members, SpeltProperly (memberName m))
    (hnames : (members.map memberName).Nodup) : (∃ m ∈ members, memberName m = "properties" ∧
      ((m.2.2.isNull ∧ s.properties = []) ∨
        ∃ inner ps, m.2.2 = .object inner ∧ updateMap inner = some ps ∧
        s.properties = Pairs.ofList ps)) ∨
      ("properties" ∉ members.map memberName ∧ s.properties = []) := by
  obtain ⟨t, ht, -, hproperties⟩ := update_object h
  rw [hproperties]
  refine said_of_updateMembers (·.properties) "properties"
    (fun old v new => (v.isNull ∧ new = []) ∨
      ∃ inner ps, v = .object inner ∧ updateMap inner = some ps ∧
        new = ps.foldl (fun d p => Pairs.insert p.1 p.2 d) old) ?_ ht hspelt hnames
  intro s t m hm hsays
  cases hsays with
  | items hname _ => exact .inr ⟨hm.eq_of_keyword? hname ▸ by decide, rfl⟩
  | properties hname hobject hps =>
    exact .inl ⟨(hm.eq_of_keyword? hname).symm,
      .inr ⟨_, _, hobject, hps, setProperties_properties _ _⟩⟩
  | noProperties hname hnull => exact .inl ⟨(hm.eq_of_keyword? hname).symm, .inl ⟨hnull, rfl⟩⟩
  | other _ hother _ hp => exact .inr ⟨hother, hp⟩

theorem updateMap_eq_some {members : List (List Char × List Char × Json)}
    {ps : List (String × Option JsonSchema)} (h : updateMap members = some ps) :
    List.Forall₂ (fun m p => p.1 = memberName m ∧ unlessNull m.2.2 (update empty m.2.2) = some p.2)
      members ps := by
  induction members generalizing ps with
  | nil =>
    rw [updateMap] at h
    cases h
    exact .nil
  | cons m members ih =>
    obtain ⟨name, raw, v⟩ := m
    rw [updateMap] at h
    obtain ⟨p, hp, h⟩ := Option.bind_eq_some_iff.1 h
    obtain ⟨ps, hps, h⟩ := Option.bind_eq_some_iff.1 h
    cases h
    exact .cons ⟨rfl, hp⟩ (ih hps)

end PayloadGen.JsonSchema
