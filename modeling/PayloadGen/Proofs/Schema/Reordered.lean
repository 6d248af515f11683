import PayloadGen.Proofs.Schema.PropertyOrder

/-!
# Recorded order is only an order

The order of properties comes to a schema document from outside, in a table that may have nothing to
do with it: paths can be missing, and keys can be repeated or unknown.
`JsonSchema.toSchema_reordered` says that such a table decides nothing but the order: whether a
document is a payload schema does not depend on it, and the schemas that two tables lead to are the
same up to the order of properties at every level.

What the schema of a document is without an order is the relation `JsonSchema.Decodes`. Every schema
that is read stands in it (`decodes_of_toSchemaAt`), and two schemas that do are equal up to order
(`reordered_of_decodes`). A schema is read exactly from the documents in which nothing is missing
(`Complete`): these have one (`exists_toSchemaAt`), and no others do (`complete_of_decodes`).
-/

namespace PayloadGen

/-! ## Schemas up to the order of properties -/

/-- The schemas differ in nothing but the order of properties, at any depth: objects have the same
properties, each of them once. -/
inductive Schema.Reordered : Schema → Schema → Prop
  | refl (s : Schema) : Reordered s s
  | object {description : String} {properties properties' : List (String × Schema)}
      {required : List String} {closed : Bool} (hnodup : (properties.map (·.1)).Nodup)
      (hperm : (properties.map (·.1)).Perm (properties'.map (·.1)))
      (hschemas : ∀ name s s', (name, s) ∈ properties → (name, s') ∈ properties' → Reordered s s') :
      Reordered (.object description properties required closed)
        (.object description properties' required closed)
  | array {description : String} {items items' : Schema} {least greatest : Option Int}
      (hitems : Reordered items items') :
      Reordered (.array description items least greatest) (.array description items' least greatest)

/-! ## Arranged keys -/

namespace KeyOrder

variable {order : KeyOrder} {path : String} {keys : List String}

/-- All keys are arranged, and no others, whatever is recorded. -/
theorem mem_arrange {key : String} : key ∈ order.arrange path keys ↔ key ∈ keys := by
  simp only [arrange, List.mem_append, List.mem_eraseDups, mem_sortTexts, List.mem_filter,
    List.contains_iff_mem, Bool.not_eq_true', ← Bool.not_eq_true]
  tauto

/-- No key is arranged twice. -/
theorem nodup_arrange : (order.arrange path keys).Nodup := by
  simp only [arrange]
  set recorded := distinct (((order.find? path).getD []).filter keys.contains)
  refine List.nodup_append.2 ⟨nodup_distinct _, ?_, ?_⟩
  · exact (sortTexts_perm _).nodup_iff.2 ((nodup_distinct keys).filter _)
  · rintro a ha _ hb rfl
    have hrest := (List.mem_filter.1 (mem_sortTexts.1 hb)).2
    simp [ha] at hrest

end KeyOrder

namespace JsonSchema

/-! ## Documents in which nothing is missing -/

/-- The type that counts. -/
def kind (s : JsonSchema) : String :=
  typeName s.type s.types

/-- What is reached from a place of a document through the properties of objects and the items of
arrays. A place may be empty. -/
inductive Reaches : Option JsonSchema → Option JsonSchema → Prop
  | refl (place : Option JsonSchema) : Reaches place place
  | property {s : JsonSchema} {name : String} {p place : Option JsonSchema}
      (hkind : s.kind = "object") (hp : Pairs.find? name s.properties = some p)
      (h : Reaches p place) : Reaches (some s) place
  | items {s i : JsonSchema} {place : Option JsonSchema} (hkind : s.kind = "array")
      (hi : s.items = some i) (h : Reaches (some i) place) : Reaches (some s) place

/-- No place that is reached is empty, and no array that is reached is without items. -/
def Complete (place : Option JsonSchema) : Prop :=
  ∀ place', Reaches place place' → ∃ s, place' = some s ∧ (s.kind = "array" → s.items.isSome)

theorem Complete.property {s : JsonSchema} (h : Complete (some s)) (hkind : s.kind = "object")
    {name : String} {p : Option JsonSchema} (hp : Pairs.find? name s.properties = some p) :
    ∃ q, p = some q ∧ Complete (some q) := by
  obtain ⟨q, rfl, -⟩ := h p (.property hkind hp (.refl p))
  exact ⟨q, rfl, fun place hplace => h place (.property hkind hp hplace)⟩

theorem Complete.items {s : JsonSchema} (h : Complete (some s)) (hkind : s.kind = "array") :
    ∃ i, s.items = some i ∧ Complete (some i) := by
  obtain ⟨_, heq, hitems⟩ := h (some s) (.refl _)
  obtain rfl := Option.some.inj heq
  obtain ⟨i, hi⟩ := Option.isSome_iff_exists.1 (hitems hkind)
  exact ⟨i, hi, fun place hplace => h place (.items hkind hi hplace)⟩

/-- The schema of a document that is neither an object nor an array. -/
def leaf? (s : JsonSchema) : Option Schema :=
  if s.kind = "object" ∨ s.kind = "array" then none
  else if s.kind = "string" then some (.string s.description s.literals)
  else if s.kind = "number" then
    some (.number s.description ⟨false, s.default?, s.minimum, s.maximum⟩)
  else if s.kind = "integer" then
    some (.number s.description ⟨true, s.default?, s.minimum, s.maximum⟩)
  else if s.kind = "boolean" then some (.boolean s.description)
  else some (.unknown s.description s.kind)

/-- The schema is that of the document, with the properties of objects in some order and each of
them once. -/
inductive Decodes : JsonSchema → Schema → Prop
  | leaf {s : JsonSchema} {t : Schema} (h : s.leaf? = some t) : Decodes s t
  | object {s : JsonSchema} {listed : List (String × Schema)} (hkind : s.kind = "object")
      (hnodup : (listed.map (·.1)).Nodup)
      (hnames : ∀ name, name ∈ listed.map (·.1) ↔ name ∈ s.properties.map (·.1))
      (hfound : ∀ name ∈ listed.map (·.1), ∃ p, Pairs.find? name s.properties = some (some p))
      (hlisted : ∀ name t p, (name, t) ∈ listed → Pairs.find? name s.properties = some (some p) →
        Decodes p t) :
      Decodes s (.object s.description listed s.required (s.additional.any isNever))
  | array {s i : JsonSchema} {t : Schema} (hkind : s.kind = "array") (hi : s.items = some i)
      (h : Decodes i t) :
      Decodes s (.array s.description t s.minItems s.maxItems)

theorem leaf?_eq_none {s : JsonSchema} (h : s.kind = "object" ∨ s.kind = "array") :
    s.leaf? = none := by
  rw [leaf?, if_pos h]

/-- Nothing is missing in a document that has a schema. -/
theorem complete_of_decodes {s : JsonSchema} {t : Schema} (h : Decodes s t) :
    Complete (some s) := by
  induction h with
  | @leaf s t hleaf =>
    intro place hplace
    have hkind (hs : s.kind = "object" ∨ s.kind = "array") : False := by
      rw [leaf?_eq_none hs] at hleaf
      cases hleaf
    cases hplace with
    | refl => exact ⟨s, rfl, fun harray => (hkind (.inr harray)).elim⟩
    | property hobject => exact (hkind (.inl hobject)).elim
    | items harray => exact (hkind (.inr harray)).elim
  | @object s listed hobject hnodup hnames hfound hlisted ih =>
    intro place hplace
    cases hplace with
    | refl => exact ⟨s, rfl, fun harray => absurd (hobject.symm.trans harray) (by decide)⟩
    | @property _ name p _ _ hp hreaches =>
      obtain ⟨⟨_, t⟩, ht, rfl⟩ := List.mem_map.1 ((hnames name).2 (Pairs.mem_keys_of_find? hp))
      obtain ⟨q, hq⟩ := hfound _ (List.mem_map_of_mem ht)
      obtain rfl := Option.some.inj (hp.symm.trans hq)
      exact ih _ t q ht hq place hreaches
    | items harray => exact absurd (hobject.symm.trans harray) (by decide)
  | @array s i t harray hi hitem ih =>
    intro place hplace
    cases hplace with
    | refl => exact ⟨s, rfl, fun _ => by simp [hi]⟩
    | property hobject => exact absurd (harray.symm.trans hobject) (by decide)
    | @items _ j _ _ hj hreaches =>
      obtain rfl := Option.some.inj (hi.symm.trans hj)
      exact ih place hreaches

/-- A document has one schema, up to the order of properties. -/
theorem reordered_of_decodes {s : JsonSchema} {t t' : Schema} (h : Decodes s t)
    (h' : Decodes s t') : t.Reordered t' := by
  induction h generalizing t' with
  | @leaf s t hleaf =>
    cases h' with
    | leaf hleaf' =>
      obtain rfl := Option.some.inj (hleaf.symm.trans hleaf')
      exact .refl t
    | object hobject =>
      rw [leaf?_eq_none (.inl hobject)] at hleaf
      cases hleaf
    | array harray =>
      rw [leaf?_eq_none (.inr harray)] at hleaf
      cases hleaf
  | @object s listed hobject hnodup hnames hfound hlisted ih =>
    cases h' with
    | leaf hleaf =>
      rw [leaf?_eq_none (.inl hobject)] at hleaf
      cases hleaf
    | object _ hnodup' hnames' hfound' hlisted' =>
      refine .object hnodup ?_ fun name r r' hr hr' => ?_
      · exact (List.perm_ext_iff_of_nodup hnodup hnodup').2 fun name =>
          (hnames name).trans (hnames' name).symm
      · obtain ⟨p, hp⟩ := hfound name (List.mem_map_of_mem hr)
        exact ih name r p hr hp (hlisted' name r' p hr' hp)
    | array harray => exact absurd (hobject.symm.trans harray) (by decide)
  | @array s i t harray hi hitem ih =>
    cases h' with
    | leaf hleaf =>
      rw [leaf?_eq_none (.inr harray)] at hleaf
      cases hleaf
    | object hobject => exact absurd (harray.symm.trans hobject) (by decide)
    | array _ hi' hitem' =>
      obtain rfl := Option.some.inj (hi.symm.trans hi')
      exact .array (ih hitem')

/-! ## Reading -/

section Reading

variable {order : KeyOrder} {path : String} {s : JsonSchema}

theorem toSchemaAt_of_leaf? {t : Schema} (h : s.leaf? = some t) :
    s.toSchemaAt order path = .ok t := by
  rw [leaf?] at h
  generalize hkind : s.kind = k at h
  obtain ⟨type, types, description, literals, default?, minimum, maximum, minItems, maxItems,
    required, properties, items, additional, negated, others⟩ := s
  have hkind : typeName type types = k := hkind
  rw [toSchemaAt, hkind]
  split <;> simp_all

/-- The schemas of the properties of a document, in the order that is recorded. -/
def listProperties (order : KeyOrder) (path : String) (s : JsonSchema) :
    Except SchemaError (List (String × Schema)) :=
  let here := KeyOrder.join [path, KeyOrder.propertiesKey]
  (order.arrange here (s.properties.map (·.1))).mapM (pick (toProperties order here s.properties))

theorem toSchemaAt_of_object (h : s.kind = "object") :
    s.toSchemaAt order path = (listProperties order path s).map
      fun listed => .object s.description listed s.required (s.additional.any isNever) := by
  obtain ⟨type, types, description, literals, default?, minimum, maximum, minItems, maxItems,
    required, properties, items, additional, negated, others⟩ := s
  simp only [kind] at h
  rw [toSchemaAt, h]
  rfl

theorem toSchemaAt_of_array {i : JsonSchema} (h : s.kind = "array") (hi : s.items = some i) :
    s.toSchemaAt order path =
      ((i.toSchemaAt order (KeyOrder.join [path, "items"])).mapError .inItems).map
      fun t => .array s.description t s.minItems s.maxItems := by
  obtain ⟨type, types, description, literals, default?, minimum, maximum, minItems, maxItems,
    required, properties, items, additional, negated, others⟩ := s
  obtain rfl : items = some i := hi
  simp only [kind] at h
  rw [toSchemaAt, h]
  simp only [toItems]
  cases i.toSchemaAt order (KeyOrder.join [path, "items"]) <;> rfl

theorem toSchemaAt_of_no_items (h : s.kind = "array") (hi : s.items = none) :
    s.toSchemaAt order path = .error .noItems := by
  obtain ⟨type, types, description, literals, default?, minimum, maximum, minItems, maxItems,
    required, properties, items, additional, negated, others⟩ := s
  obtain rfl : items = none := hi
  simp only [kind] at h
  rw [toSchemaAt, h]
  rfl

theorem kind_cases (s : JsonSchema) :
    s.kind = "object" ∨ s.kind = "array" ∨ ∃ t, s.leaf? = some t := by
  by_cases hobject : s.kind = "object"
  · exact .inl hobject
  by_cases harray : s.kind = "array"
  · exact .inr (.inl harray)
  · refine .inr (.inr (Option.ne_none_iff_exists'.1 ?_))
    rw [leaf?, if_neg (by simp [hobject, harray])]
    split_ifs <;> simp

theorem pick_eq_ok_iff {results : List (String × Except SchemaError Schema)} {name : String}
    {e : String × Schema} :
    pick results name = .ok e ↔ e.1 = name ∧ Pairs.find? name results = some (.ok e.2) := by
  obtain ⟨key, t⟩ := e
  unfold pick Pairs.find?
  cases hfind : results.find? (·.1 == name) with
  | none => simp
  | some r =>
    obtain ⟨_, x⟩ := r
    cases x with
    | error cause => simp
    | ok u => simp [eq_comm]

theorem find?_toProperties (ps : List (String × Option JsonSchema)) (name : String) :
    Pairs.find? name (toProperties order path ps) =
      (Pairs.find? name ps).map fun p =>
        (toItems order (KeyOrder.join [path, name]) p).getD (.error .missing) := by
  induction ps with
  | nil => rw [toProperties]; rfl
  | cons e ps ih =>
    obtain ⟨key, p⟩ := e
    rw [toProperties, Pairs.find?_cons, Pairs.find?_cons, ih]
    by_cases hkey : key = name
    · subst hkey
      simp
    · simp [hkey]

/-- A property is listed with the schema of its document. -/
theorem pick_toProperties_eq_ok_iff {ps : List (String × Option JsonSchema)} {name : String}
    {e : String × Schema} :
    pick (toProperties order path ps) name = .ok e ↔
      e.1 = name ∧ ∃ p, Pairs.find? name ps = some (some p) ∧
        p.toSchemaAt order (KeyOrder.join [path, name]) = .ok e.2 := by
  rw [pick_eq_ok_iff, find?_toProperties]
  refine and_congr_right fun _ => ?_
  cases Pairs.find? name ps with
  | none => simp
  | some p =>
    cases p with
    | none => simp [toItems]
    | some p => simp [toItems]

theorem listProperties_eq_ok_iff {listed : List (String × Schema)} :
    listProperties order path s = .ok listed ↔
      listed.map (·.1) = order.arrange (KeyOrder.join [path, KeyOrder.propertiesKey])
        (s.properties.map (·.1)) ∧
      ∀ e ∈ listed, ∃ p, Pairs.find? e.1 s.properties = some (some p) ∧
        p.toSchemaAt order (KeyOrder.join [KeyOrder.join [path, KeyOrder.propertiesKey], e.1]) =
          .ok e.2 := by
  rw [listProperties, mapM_eq_ok_iff]
  generalize order.arrange (KeyOrder.join [path, KeyOrder.propertiesKey]) (s.properties.map (·.1)) =
    names
  simp only [pick_toProperties_eq_ok_iff]
  constructor
  · intro h
    induction h with
    | nil => simp
    | cons he _ ih =>
      obtain ⟨rfl, he⟩ := he
      exact ⟨congrArg _ ih.1, List.forall_mem_cons.2 ⟨he, ih.2⟩⟩
  · rintro ⟨rfl, h⟩
    exact List.forall₂_map_left_iff.2 (List.forall₂_same.2 fun e he => ⟨rfl, h e he⟩)

end Reading

/-- What holds of a document if it holds of its parts holds of every document. -/
theorem part_induction {motive : JsonSchema → Prop}
    (step : ∀ s, (∀ name p, (name, some p) ∈ s.properties → motive p) →
      (∀ i, s.items = some i → motive i) → motive s)
    (s : JsonSchema) : motive s :=
  step s (fun _ p _ => part_induction step p) (fun i _ => part_induction step i)
termination_by sizeOf s
decreasing_by
  · obtain ⟨_, _, _, _, _, _, _, _, _, _, properties, _, _, _, _⟩ := s
    have hmem : (_, some p) ∈ properties := ‹_›
    have hsize := List.sizeOf_lt_of_mem hmem
    simp only [Prod.mk.sizeOf_spec, Option.some.sizeOf_spec] at hsize
    simp only [mk.sizeOf_spec]
    omega
  · obtain ⟨_, _, _, _, _, _, _, _, _, _, _, items, _, _, _⟩ := s
    obtain rfl : items = some i := ‹_›
    simp only [mk.sizeOf_spec, Option.some.sizeOf_spec]
    omega

/-- A schema that is read from a document is its schema, in some order. -/
theorem decodes_of_toSchemaAt (order : KeyOrder) (s : JsonSchema) :
    ∀ {path : String} {t : Schema}, s.toSchemaAt order path = .ok t → Decodes s t := by
  induction s using part_induction with
  | step s ihproperties ihitems =>
    intro path t h
    rcases kind_cases s with hobject | harray | ⟨t', hleaf⟩
    · rw [toSchemaAt_of_object hobject] at h
      obtain ⟨listed, hlisted, rfl⟩ := Except.map_eq_ok_iff.1 h
      obtain ⟨hnames, hschemas⟩ := listProperties_eq_ok_iff.1 hlisted
      refine .object hobject (hnames ▸ KeyOrder.nodup_arrange) (fun name =>
        hnames ▸ KeyOrder.mem_arrange) ?_ ?_
      · rintro name hname
        obtain ⟨e, he, rfl⟩ := List.mem_map.1 hname
        obtain ⟨p, hp, -⟩ := hschemas e he
        exact ⟨p, hp⟩
      · intro name t p ht hp
        obtain ⟨q, hq, hschema⟩ := hschemas _ ht
        obtain rfl : p = q := by simpa using hp.symm.trans hq
        exact ihproperties name p (Pairs.mem_of_find? hp) hschema
    · cases hi : s.items with
      | none =>
        rw [toSchemaAt_of_no_items harray hi] at h
        cases h
      | some i =>
        rw [toSchemaAt_of_array harray hi] at h
        obtain ⟨t, ht, rfl⟩ := Except.map_eq_ok_iff.1 h
        exact .array harray hi (ihitems i hi (Except.mapError_eq_ok_iff.1 ht))
    · rw [toSchemaAt_of_leaf? hleaf] at h
      obtain rfl := Except.ok.inj h
      exact .leaf hleaf

/-- A document in which nothing is missing has a schema, whatever order is recorded. -/
theorem exists_toSchemaAt (order : KeyOrder) (s : JsonSchema) :
    ∀ (path : String), Complete (some s) → ∃ t, s.toSchemaAt order path = .ok t := by
  induction s using part_induction with
  | step s ihproperties ihitems =>
    intro path hs
    rcases kind_cases s with hobject | harray | ⟨t, hleaf⟩
    · have hpick :
          ∀ name ∈ order.arrange (KeyOrder.join [path, KeyOrder.propertiesKey])
              (s.properties.map (·.1)),
            ∃ e, pick (toProperties order (KeyOrder.join [path, KeyOrder.propertiesKey])
              s.properties) name = .ok e := by
        intro name hname
        obtain ⟨p, hp, hmem⟩ := Pairs.exists_find?_of_mem_keys (KeyOrder.mem_arrange.1 hname)
        obtain ⟨q, rfl, hq⟩ := hs.property hobject hp
        obtain ⟨t, ht⟩ := ihproperties name q hmem _ hq
        exact ⟨(name, t), pick_toProperties_eq_ok_iff.2 ⟨rfl, q, hp, ht⟩⟩
      obtain ⟨listed, hlisted, -⟩ := exists_mapM_eq_ok fun name hname =>
        (hpick name hname).imp fun e he => ⟨he, he⟩
      exact ⟨_, (toSchemaAt_of_object hobject).trans (congrArg _ hlisted)⟩
    · obtain ⟨i, hi, hitem⟩ := hs.items harray
      obtain ⟨t, ht⟩ := ihitems i hi (KeyOrder.join [path, "items"]) hitem
      exact ⟨_, by rw [toSchemaAt_of_array harray hi, ht]; rfl⟩
    · exact ⟨t, toSchemaAt_of_leaf? hleaf⟩

/-- A place has a schema exactly if nothing is missing there. -/
theorem exists_toSchema_iff (order : KeyOrder) (place : Option JsonSchema) :
    (∃ t, toSchema order place = .ok t) ↔ Complete place := by
  cases place with
  | none =>
    refine ⟨fun ⟨t, ht⟩ => (by cases ht), fun h => ?_⟩
    obtain ⟨_, hnone, -⟩ := h none (.refl none)
    cases hnone
  | some s =>
    exact ⟨fun ⟨_, ht⟩ => complete_of_decodes (decodes_of_toSchemaAt order s ht),
      exists_toSchemaAt order s ""⟩

/-- **Recorded order is only an order.** Whatever two tables record, a document is a payload schema
with the one exactly if it is with the other, and that is so exactly if nothing is missing in it.
The two schemas are then the same up to the order of properties at every level, and each has every
property of every object of the document exactly once. -/
theorem toSchema_reordered (place : Option JsonSchema) (order order' : KeyOrder) :
    ((∃ t, toSchema order place = .ok t) ↔ Complete place) ∧
      ((∃ t, toSchema order' place = .ok t) ↔ Complete place) ∧
      ∀ t t', toSchema order place = .ok t → toSchema order' place = .ok t' →
        t.Reordered t' ∧ ∃ s, place = some s ∧ Decodes s t ∧ Decodes s t' := by
  refine ⟨exists_toSchema_iff order place, exists_toSchema_iff order' place, fun t t' h h' => ?_⟩
  cases place with
  | none => cases h
  | some s =>
    have ht := decodes_of_toSchemaAt order s h
    have ht' := decodes_of_toSchemaAt order' s h'
    exact ⟨reordered_of_decodes ht ht', s, rfl, ht, ht'⟩

/-- An object in an object. -/
def crateDocument : JsonSchema :=
  { empty with
    type := "object"
    properties := [
      ("lid", some { empty with
        type := "object", properties := [("open", some { empty with type := "boolean" })] }),
      ("weight", some { empty with type := "number" })] }

/-- A table that repeats keys and has unknown ones. -/
def crateOrder : KeyOrder :=
  [("properties", ["weight", "wheel", "weight", "lid"]),
    ("properties.lid.properties", ["x", "open"])]

/-- A table that has no record of what is inside. -/
def crateOrder' : KeyOrder :=
  [("properties", ["lid", "weight"])]

theorem toSchema_reordered_crateDocument :
    ∃ t t', toSchema crateOrder (some crateDocument) = .ok t ∧
      toSchema crateOrder' (some crateDocument) = .ok t' ∧
      t.propertyNames = ["weight", "lid"] ∧ t'.propertyNames = ["lid", "weight"] ∧
      t.Reordered t' := by
  have hnames : (toSchema crateOrder (some crateDocument)).toOption.map Schema.propertyNames =
      some ["weight", "lid"] := by
    decide +kernel
  have hnames' : (toSchema crateOrder' (some crateDocument)).toOption.map Schema.propertyNames =
      some ["lid", "weight"] := by
    decide +kernel
  obtain ⟨t, ht, hnames⟩ := Option.map_eq_some_iff.1 hnames
  obtain ⟨t', ht', hnames'⟩ := Option.map_eq_some_iff.1 hnames'
  have hok := Except.toOption_eq_some_iff.1 ht
  have hok' := Except.toOption_eq_some_iff.1 ht'
  have hsame := (toSchema_reordered (some crateDocument) crateOrder crateOrder').2.2 t t' hok hok'
  exact ⟨t, t', hok, hok', hnames, hnames', hsame.1⟩

end JsonSchema

end PayloadGen
