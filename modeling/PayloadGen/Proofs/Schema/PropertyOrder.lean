import PayloadGen.Proofs.Schema.JsonSchema
import PayloadGen.Proofs.Schema.KeyOrder
import PayloadGen.Spec.Reader

/-!
# Properties stay in document order

The properties of a payload are read into a dictionary, which loses their order, and listed again in
the order that was recorded for the mapping. `Spec.readPayload_inOrderOf` says that this is the
order of the document, for every object in the payload, as long as the paths under which the order
is recorded can be told apart.

The proof follows a node through its reading. A schema document describes a node (`Describes`) if it
has the items and the properties of the node, the properties in any order; that is what the readers
of values and of keywords keep. The payload schema of a document that describes a node is in the
order of that node (`InOrderOf`), since the order of each mapping is found under the path that leads
to it.
-/

namespace PayloadGen

open Yaml

/-! ## Properties of nodes -/

namespace Yaml.Node

/-- The names of the properties of a schema node, in document order. -/
def propertyNames (n : Node) : List String :=
  ((n.entryAt? "properties").map keys).getD []

/-- The schema node of a property. -/
def property? (n : Node) (name : String) : Option Node :=
  (n.entryAt? "properties").bind (Node.entryAt? name)

end Yaml.Node

/-- In every object of the schema the properties are listed as in the node. -/
inductive Schema.InOrderOf : Schema → Node → Prop
  | object {description : String} {properties : List (String × Schema)} {required : List String}
      {closed : Bool} {n : Node} (hnames : properties.map (·.1) = n.propertyNames)
      (hproperties : ∀ name s v, (name, s) ∈ properties → n.property? name = some v →
        InOrderOf s v) :
      InOrderOf (.object description properties required closed) n
  | array {description : String} {items : Schema} {least greatest : Option Int} {n v : Node}
      (hv : n.entryAt? "items" = some v) (hitems : InOrderOf items v) :
      InOrderOf (.array description items least greatest) n
  | string {description : String} {literals : List String} {n : Node} :
      InOrderOf (.string description literals) n
  | number {description : String} {rule : NumberRule} {n : Node} :
      InOrderOf (.number description rule) n
  | boolean {description : String} {n : Node} : InOrderOf (.boolean description) n
  | unknown {description tag : String} {n : Node} : InOrderOf (.unknown description tag) n

namespace Schema

/-- The names of the properties of an object, in order. -/
def propertyNames : Schema → List String
  | object _ properties _ _ => properties.map (·.1)
  | _ => []

/-- The schema of a property. -/
def property? (name : String) : Schema → Option Schema
  | object _ properties _ _ => (properties.find? (·.1 == name)).map (·.2)
  | _ => none

namespace InOrderOf

variable {s t : Schema} {n v : Node}

theorem names (h : s.InOrderOf n) (hne : s.propertyNames ≠ []) :
    s.propertyNames = n.propertyNames := by
  cases h with
  | object hnames _ => exact hnames
  | _ => exact absurd rfl hne

theorem property {name : String} (h : s.InOrderOf n) (ht : s.property? name = some t)
    (hv : n.property? name = some v) : t.InOrderOf v := by
  cases h with
  | object _ hproperties =>
    obtain ⟨⟨key, _⟩, hfind, rfl⟩ := Option.map_eq_some_iff.1 ht
    have hkey : key = name := by simpa using List.find?_some hfind
    exact hproperties name _ v (hkey ▸ List.mem_of_find?_eq_some hfind) hv
  | _ => cases ht

end InOrderOf

end Schema

/-! ## Values as JSON -/

theorem entriesToJson?_eq_some {d : List (String × Value)}
    {members : List (List Char × List Char × Json)} (h : Value.entriesToJson? d = some members) :
    List.Forall₂ (fun e m => ∃ j, e.2.toJson? = some j ∧ m = Json.member e.1 j) d members := by
  induction d generalizing members with
  | nil =>
    rw [Value.entriesToJson?] at h
    cases h
    exact .nil
  | cons e d ih =>
    obtain ⟨k, v⟩ := e
    rw [Value.entriesToJson?] at h
    obtain ⟨j, hj, h⟩ := Option.bind_eq_some_iff.1 h
    obtain ⟨rest, hrest, h⟩ := Option.bind_eq_some_iff.1 h
    cases h
    exact .cons ⟨j, hj, rfl⟩ (ih hrest)

theorem exists_atom_of_toJson? {v : Value} (hv : v.isCollection = false) {j : Json}
    (h : v.toJson? = some j) : ∃ literal, j = .atom literal := by
  cases v with
  | list | dict | table => cases hv
  | float x =>
    rw [Value.toJson?.eq_def] at h
    dsimp only at h
    split at h <;> cases h
    exact ⟨_, rfl⟩
  | time t =>
    rw [Value.toJson?] at h
    split at h <;> cases h
    exact ⟨_, rfl⟩
  | _ =>
    rw [Value.toJson?] at h
    cases h
    exact ⟨_, rfl⟩

/-! ## Documents of nodes -/

namespace JsonSchema

/-- The document has the items and the properties of the node. -/
inductive Describes : JsonSchema → Node → Prop
  | intro {s : JsonSchema} {n : Node} (hitems : s.items.isSome → (n.entryAt? "items").isSome)
      (hitem : ∀ i v, s.items = some i → n.entryAt? "items" = some v → Describes i v)
      (hnames : ∀ name, name ∈ s.properties.map (·.1) ↔ name ∈ n.propertyNames)
      (hproperty : ∀ name p v, (name, some p) ∈ s.properties → n.property? name = some v →
        Describes p v) :
      Describes s n

theorem Describes.of_nothing {s : JsonSchema} {n : Node} (hitems : s.items = none)
    (hproperties : s.properties = []) (hnames : n.propertyNames = []) : Describes s n := by
  refine .intro ?_ ?_ ?_ ?_
  · simp [hitems]
  · simp [hitems]
  · simp [hproperties, hnames]
  · simp [hproperties]

theorem update_of_ne_object {old s : JsonSchema} {j : Json} (hj : ∀ members, j ≠ .object members)
    (h : update old j = some s) : s.items = none ∧ s.properties = [] := by
  unfold update at h
  split at h
  · exact absurd rfl (hj _)
  · cases h
    exact ⟨rfl, rfl⟩
  · cases h
    exact ⟨rfl, rfl⟩
  · cases h
    exact ⟨rfl, rfl⟩
  · cases h

/-- The names of all keys in the node are keywords only in their proper spelling. -/
def SpellsKeywords (n : Node) : Prop :=
  ∀ above m, n.At above m → ∀ key ∈ m.keys, SpeltProperly key

/-- What holds of a document, and of a map of documents, that are read from a node with the given
JSON. -/
structure Faithful (n : Node) (j : Json) : Prop where
  document : ∀ s, update empty j = some s → Describes s n
  names : ∀ members ps, j = .object members → updateMap members = some ps →
    ∀ name, name ∈ ps.map (·.1) ↔ name ∈ n.keys
  documents : ∀ members ps, j = .object members → updateMap members = some ps →
    ∀ name p w, (name, some p) ∈ ps → n.entryAt? name = some w → Describes p w

theorem Faithful.of_ne_object {n : Node} {j : Json} (hj : ∀ members, j ≠ .object members)
    (hn : n.propertyNames = []) : Faithful n j where
  document s hs := by
    obtain ⟨hitems, hproperties⟩ := update_of_ne_object hj hs
    exact .of_nothing hitems hproperties hn
  names members _ hmembers := absurd hmembers (hj members)
  documents members _ hmembers := absurd hmembers (hj members)

theorem keys_eq_nil_of_isNull {n : Node} {v : Value} (h : Reads n v) {j : Json}
    (hj : v.toJson? = some j) (hnull : j.isNull) : n.keys = [] := by
  cases h with
  | scalar | sequence => rfl
  | mapping =>
    rw [Value.toJson?] at hj
    obtain ⟨members, -, rfl⟩ := Option.map_eq_some_iff.1 hj
    cases hnull

section Members

variable {n : Node} {members : List (List Char × List Char × Json)}

/-- A map of documents is faithful if the documents are. -/
theorem describes_of_updateMap
    (hinner : ∀ m ∈ members, ∀ w, n.entryAt? (memberName m) = some w → Faithful w m.2.2)
    {ps : List (String × Option JsonSchema)} (h : updateMap members = some ps) {name : String}
    {p : JsonSchema} {w : Node} (hp : (name, some p) ∈ ps) (hw : n.entryAt? name = some w) :
    Describes p w := by
  obtain ⟨m, hm, rfl, hupdate⟩ := exists_left_of_forall₂ (updateMap_eq_some h) hp
  exact (hinner m hm w hw).document p (unlessNull_eq_some_some hupdate)

theorem map_fst_of_updateMap {ps : List (String × Option JsonSchema)}
    (h : updateMap members = some ps) : ps.map (·.1) = members.map memberName := by
  have hps := updateMap_eq_some h
  clear h
  induction hps with
  | nil => rfl
  | cons hp _ ih => rw [List.map_cons, List.map_cons, hp.1, ih]

/-- A document is faithful if its parts are. -/
theorem describes_of_members (hspelt : ∀ m ∈ members, SpeltProperly (memberName m))
    (hnodup : (members.map memberName).Nodup)
    (hnames : ∀ name, name ∈ members.map memberName ↔ name ∈ n.keys)
    (hinner : ∀ m ∈ members, ∀ w, n.entryAt? (memberName m) = some w → Faithful w m.2.2)
    (hnull : ∀ m ∈ members, ∀ w, n.entryAt? (memberName m) = some w → m.2.2.isNull → w.keys = [])
    {s : JsonSchema} (h : update empty (.object members) = some s) : Describes s n := by
  have hentry {key : String} {m : List Char × List Char × Json} (hm : m ∈ members)
      (hkey : memberName m = key) :
      ∃ w, n.entryAt? key = some w := by
    rw [← Option.isSome_iff_exists, Node.isSome_entryAt?_iff, ← hnames]
    exact List.mem_map.2 ⟨m, hm, hkey⟩
  have hitem {i : JsonSchema} (hi : s.items = some i) := items_of_update h hspelt hnodup hi
  have hproperties := properties_of_update h hspelt hnodup
  refine .intro (fun hsome => ?_) (fun i v hi hv => ?_) (fun name => ?_) (fun name p v hp hv => ?_)
  · obtain ⟨i, hi⟩ := Option.isSome_iff_exists.1 hsome
    obtain ⟨m, hm, hkey, -⟩ := hitem hi
    exact Option.isSome_iff_exists.2 (hentry hm hkey)
  · obtain ⟨m, hm, hkey, hupdate⟩ := hitem hi
    exact (hinner m hm v (hkey ▸ hv)).document i hupdate
  · rcases hproperties with ⟨m, hm, hkey, hcase⟩ | ⟨habsent, hnone⟩
    · obtain ⟨w, hw⟩ := hentry hm hkey
      rw [Node.propertyNames, hw, Option.map_some, Option.getD_some]
      rcases hcase with ⟨hisNull, hnone⟩ | ⟨inner, ps, hobject, hps, heq⟩
      · rw [hnone, hnull m hm w (hkey ▸ hw) hisNull, List.map_nil]
      · rw [heq, ← (hinner m hm w (hkey ▸ hw)).names inner ps hobject hps]
        exact Pairs.mem_keys_ofList
    · have habsent : n.entryAt? "properties" = none := by
        rwa [hnames, ← Node.isSome_entryAt?_iff, Bool.not_eq_true, Option.isSome_eq_false_iff,
          Option.isNone_iff_eq_none] at habsent
      rw [hnone, Node.propertyNames, habsent]
      rfl
  · obtain ⟨w, hw, hv⟩ := Option.bind_eq_some_iff.1 hv
    rcases hproperties with ⟨m, hm, hkey, ⟨-, hnone⟩ | ⟨inner, ps, hobject, hps, heq⟩⟩ | ⟨-, hnone⟩
    · rw [hnone] at hp
      cases hp
    · rw [heq] at hp
      exact (hinner m hm w (hkey ▸ hw)).documents inner ps hobject hps name p v
        (Pairs.mem_of_mem_ofList hp) hv
    · rw [hnone] at hp
      cases hp

end Members

theorem SpellsKeywords.entry {line : Nat} {tag : Option String} {entries : List (Node × Node)}
    (h : SpellsKeywords (.mapping line tag entries)) {e : Node × Node} (he : e ∈ entries) :
    SpellsKeywords e.2 :=
  fun above m hm => h (e.1.label :: above) m (.entry he hm)

theorem map_memberName_of_forall₂ {d : List (String × Value)}
    {members : List (List Char × List Char × Json)}
    (h : List.Forall₂ (fun e m => ∃ j, e.2.toJson? = some j ∧ m = Json.member e.1 j) d members) :
    members.map memberName = d.map (·.1) := by
  induction h with
  | nil => rfl
  | cons hm _ ih =>
    obtain ⟨j, -, rfl⟩ := hm
    rw [List.map_cons, ih]
    exact congrArg (· :: _) (Json.unquote_quoted _)

/-- What is read from the value of a node describes the node. -/
theorem faithful_of_reads {n : Node} {v : Value} (h : Reads n v)
    (hspelt : SpellsKeywords n) {j : Json} (hj : v.toJson? = some j) : Faithful n j := by
  induction h generalizing j with
  | scalar hv =>
    obtain ⟨literal, rfl⟩ := exists_atom_of_toJson? hv hj
    exact .of_ne_object (by simp) rfl
  | sequence =>
    rw [Value.toJson?] at hj
    obtain ⟨items, -, rfl⟩ := Option.map_eq_some_iff.1 hj
    exact .of_ne_object (by simp) rfl
  | @mapping line tag entries d hasc hkeys hentries ih =>
    rw [Value.toJson?] at hj
    obtain ⟨members, hmembers, rfl⟩ := Option.map_eq_some_iff.1 hj
    have hforall := entriesToJson?_eq_some hmembers
    have hmap : members.map memberName = d.keys := map_memberName_of_forall₂ hforall
    have hnames (name : String) : name ∈ members.map memberName ↔
        name ∈ (Node.mapping line tag entries).keys := by
      rw [hmap]
      exact hkeys name
    have hnodup : (members.map memberName).Nodup := by
      rw [hmap]
      exact (List.pairwise_map.2 hasc).imp ne_of_lt
    -- The value of a member is that of the entry which is found under its name.
    have hpart (m) (hm : m ∈ members) (w)
        (hw : Node.entryAt? (memberName m) (.mapping line tag entries) = some w) :
        ∃ e ∈ entries, e.2 = w ∧ ∃ v, (e.1.label, v) ∈ d ∧ v.toJson? = some m.2.2 := by
      obtain ⟨⟨key, v⟩, he, j, hj, rfl⟩ := exists_left_of_forall₂ hforall hm
      obtain ⟨_, _, _, k, hn, hk, hlabel⟩ := Node.entryAt?_eq_some hw
      cases hn
      have hkey : k.label = key := hlabel.trans (Json.unquote_quoted key)
      exact ⟨(k, w), hk, rfl, v, hkey ▸ he, hj⟩
    have hinner (m) (hm : m ∈ members) (w)
        (hw : Node.entryAt? (memberName m) (.mapping line tag entries) = some w) :
        Faithful w m.2.2 := by
      obtain ⟨e, he, rfl, v, hv, hj⟩ := hpart m hm w hw
      exact ih e he v hv (hspelt.entry he) hj
    refine ⟨fun s hs => ?_, fun _ ps hobject hps name => ?_,
      fun _ ps hobject hps name p w hp hw => ?_⟩
    · refine describes_of_members (fun m hm => ?_) hnodup hnames
        hinner (fun m hm w hw hnull => ?_) hs
      · exact hspelt [] _ (.here _) _ ((hnames _).1 (List.mem_map_of_mem hm))
      · obtain ⟨e, he, rfl, v, hv, hj⟩ := hpart m hm w hw
        exact keys_eq_nil_of_isNull (hentries e he v hv) hj hnull
    · cases hobject
      rw [map_fst_of_updateMap hps, hnames]
    · cases hobject
      exact describes_of_updateMap hinner hps hp hw

/-! ## Payload schemas of documents -/

theorem pick_eq_ok {results : List (String × Except SchemaError Schema)} {name : String}
    {p : String × Schema} (h : pick results name = .ok p) :
    p.1 = name ∧ (name, .ok p.2) ∈ results := by
  unfold pick at h
  split at h
  · rename_i key s hfind
    cases h
    have hkey : key = name := by simpa using List.find?_some hfind
    exact ⟨rfl, hkey ▸ List.mem_of_find?_eq_some hfind⟩
  · cases h
  · cases h

theorem map_fst_of_forall₂_pick {results : List (String × Except SchemaError Schema)}
    {names : List String} {listed : List (String × Schema)}
    (h : List.Forall₂ (fun name p => pick results name = .ok p) names listed) :
    listed.map (·.1) = names := by
  induction h with
  | nil => rfl
  | cons hp _ ih => rw [List.map_cons, (pick_eq_ok hp).1, ih]

theorem exists_of_mem_toProperties {order : KeyOrder} {path name : String}
    {ps : List (String × Option JsonSchema)} {s : Schema}
    (h : (name, .ok s) ∈ toProperties order path ps) :
    ∃ p, (name, some p) ∈ ps ∧ p.toSchemaAt order (KeyOrder.join [path, name]) = .ok s := by
  induction ps with
  | nil =>
    rw [toProperties] at h
    cases h
  | cons e ps ih =>
    obtain ⟨key, p⟩ := e
    rw [toProperties] at h
    rcases List.mem_cons.1 h with heq | h
    · obtain ⟨rfl, hs⟩ := Prod.mk.inj heq
      cases p with
      | none =>
        rw [toItems] at hs
        cases hs
      | some p =>
        rw [toItems] at hs
        exact ⟨p, List.mem_cons_self, hs.symm⟩
    · obtain ⟨p, hp, hs⟩ := ih h
      exact ⟨p, List.mem_cons_of_mem _ hp, hs⟩

/-- What the payload schema of a document may be, and what it consists of. -/
inductive Gives (order : KeyOrder) (path : String) (s : JsonSchema) : Schema → Prop
  | object {description : String} {listed : List (String × Schema)} {required : List String}
      {closed : Bool}
      (hlisted : (order.arrange (KeyOrder.join [path, KeyOrder.propertiesKey])
        (s.properties.map (·.1))).mapM
        (pick (toProperties order (KeyOrder.join [path, KeyOrder.propertiesKey]) s.properties)) =
          .ok listed) :
      Gives order path s (.object description listed required closed)
  | array {description : String} {i : JsonSchema} {item : Schema} {least greatest : Option Int}
      (hi : s.items = some i)
      (hitem : i.toSchemaAt order (KeyOrder.join [path, "items"]) = .ok item) :
      Gives order path s (.array description item least greatest)
  | string {description : String} {literals : List String} :
      Gives order path s (.string description literals)
  | number {description : String} {rule : NumberRule} :
      Gives order path s (.number description rule)
  | boolean {description : String} : Gives order path s (.boolean description)
  | unknown {description tag : String} : Gives order path s (.unknown description tag)

theorem gives_of_toSchemaAt {order : KeyOrder} {path : String} {s : JsonSchema} {r : Schema}
    (h : s.toSchemaAt order path = .ok r) : Gives order path s r := by
  obtain ⟨type, types, description, literals, default?, minimum, maximum, minItems, maxItems,
    required, properties, items, additional, negated, others⟩ := s
  rw [toSchemaAt] at h
  split at h
  · cases h
    exact .string
  · cases h
    exact .number
  · cases h
    exact .number
  · cases h
    exact .boolean
  · obtain ⟨listed, hlisted, h⟩ := Except.bind_eq_ok_iff.1 h
    cases h
    exact .object hlisted
  · cases items with
    | none =>
      rw [toItems] at h
      cases h
    | some i =>
      rw [toItems] at h
      split at h
      · rename_i heq
        cases heq
      · cases h
      · rename_i item heq
        cases h
        exact .array rfl (Option.some.inj heq)
  · cases h
    exact .unknown

/-- The names of properties are arranged as in the node. -/
theorem arrange_propertyNames {root n : Node} (hplain : root.Plain) (hpaths : root.PathsDiffer)
    {keys : List String} (hwalk : root.walk? keys = some n) {names : List String}
    (hnames : ∀ name, name ∈ names ↔ name ∈ n.propertyNames) :
    (KeyOrder.ofNode "" root).arrange (KeyOrder.path (keys ++ [KeyOrder.propertiesKey])) names =
      n.propertyNames := by
  have hnone (h : n.propertyNames = []) : (KeyOrder.ofNode "" root).arrange
      (KeyOrder.path (keys ++ [KeyOrder.propertiesKey])) names = n.propertyNames := by
    have hnil : names = [] := List.eq_nil_iff_forall_not_mem.2 fun name hname => by
      simpa [h] using (hnames name).1 hname
    rw [hnil, h, KeyOrder.arrange_nil]
  cases hentry : n.entryAt? "properties" with
  | none => exact hnone (by rw [Node.propertyNames, hentry]; rfl)
  | some p =>
    cases p with
    | mapping line tag entries =>
      have hwalk' : root.walk? (keys ++ [KeyOrder.propertiesKey]) =
        some (.mapping line tag entries) := by
        rw [Node.walk?_concat, hwalk]
        exact hentry
      have heq : n.propertyNames = entries.map (·.1.label) := by
        rw [Node.propertyNames, hentry]
        rfl
      rw [heq] at hnames ⊢
      exact KeyOrder.arrange_eq (hplain _ _ (Node.at_of_walk? hwalk')).2
        (KeyOrder.find?_ofNode hplain hpaths hwalk') hnames
    | _ => exact hnone (by rw [Node.propertyNames, hentry]; rfl)

/-- A document that describes a node is listed in the order of the node, if the order is recorded
that the node has in its payload. -/
theorem inOrderOf_of_toSchemaAt {root : Node} (hplain : root.Plain) (hpaths : root.PathsDiffer)
    (hempty : ∀ above m, root.At above m → "" ∉ m.keys) {s : JsonSchema} {n : Node}
    (hs : Describes s n) :
    ∀ {keys : List String} {r : Schema}, root.walk? keys = some n →
      s.toSchemaAt (KeyOrder.ofNode "" root) (KeyOrder.path keys) = .ok r → r.InOrderOf n := by
  induction hs with
  | @intro s n hitems hitem hnames hproperty ihitem ihproperty =>
    intro keys r hwalk h
    cases gives_of_toSchemaAt h with
    | string => exact .string
    | number => exact .number
    | boolean => exact .boolean
    | unknown => exact .unknown
    | array hi hinner =>
      obtain ⟨v, hv⟩ := Option.isSome_iff_exists.1 (hitems (by rw [hi]; rfl))
      have hwalk' : root.walk? (keys ++ ["items"]) = some v := by
        rw [Node.walk?_concat, hwalk]
        exact hv
      rw [KeyOrder.join_pair (by decide), ← KeyOrder.path_concat] at hinner
      exact .array hv (ihitem _ v hi hv hwalk' hinner)
    | @object _ listed _ _ hlisted =>
      rw [KeyOrder.join_pair (by decide), ← KeyOrder.path_concat] at hlisted
      rw [arrange_propertyNames hplain hpaths hwalk hnames, mapM_eq_ok_iff] at hlisted
      refine .object (map_fst_of_forall₂_pick hlisted) fun name sub v hsub hv => ?_
      obtain ⟨_, -, hpick⟩ := exists_left_of_forall₂ hlisted hsub
      obtain ⟨rfl, hresult⟩ := pick_eq_ok hpick
      obtain ⟨p, hp, hschema⟩ := exists_of_mem_toProperties hresult
      obtain ⟨w, hw, hentry⟩ := Option.bind_eq_some_iff.1 hv
      have hwalk' : root.walk? (keys ++ [KeyOrder.propertiesKey]) = some w := by
        rw [Node.walk?_concat, hwalk]
        exact hw
      have hname : name ≠ "" := by
        rintro rfl
        refine hempty _ w (Node.at_of_walk? hwalk') (Node.isSome_entryAt?_iff.1 ?_)
        rw [hentry]
        rfl
      rw [KeyOrder.join_pair hname, ← KeyOrder.path_concat] at hschema
      refine ihproperty name p v hp hv ?_ hschema
      rw [Node.walk?_concat, hwalk']
      exact hentry

end JsonSchema

/-! ## Payloads -/

namespace Spec

/-- **Properties stay in document order**, at every depth: in a payload of plain nodes whose keys
are not empty and spell keywords properly, and in which no two mappings have one path. -/
theorem readPayload_inOrderOf {l : Library} {n : Node} {s : Schema} (hplain : n.Plain)
    (hspelt : JsonSchema.SpellsKeywords n) (hempty : ∀ above m, n.At above m → "" ∉ m.keys)
    (hpaths : n.PathsDiffer) (h : readPayload l n = .ok s) : s.InOrderOf n := by
  obtain ⟨v, hv, h⟩ := Except.bind_eq_ok_iff.1 h
  have hreads : Reads n v := reads_of_value hplain (Except.mapError_eq_ok_iff.1 hv)
  cases hj : v.toJson? with
  | none =>
    rw [hj] at h
    cases h
  | some j =>
    rw [hj] at h
    dsimp only at h
    cases hs : JsonSchema.ofJson? j with
    | none =>
      rw [hs] at h
      cases h
    | some document =>
      rw [hs] at h
      have hdescribes : document.Describes n := by
        unfold JsonSchema.ofJson? at hs
        split at hs
        · exact (JsonSchema.faithful_of_reads hreads hspelt hj).document document hs
        · cases hs
      have hwalk : n.walk? [] = some n := rfl
      exact JsonSchema.inOrderOf_of_toSchemaAt hplain hpaths hempty hdescribes hwalk
        (Except.mapError_eq_ok_iff.1 h)

/-- A scalar with a text that is plainly written. -/
def plainText (text : String) : Node :=
  .scalar 1 none text true

/-- A mapping with such keys. -/
def plainMapping (entries : List (String × Node)) : Node :=
  .mapping 1 none (entries.map fun e => (plainText e.1, e.2))

/-- The schema of an object with the given properties. -/
def plainObject (properties : List (String × Node)) : Node :=
  plainMapping [("type", plainText "object"), ("properties", plainMapping properties)]

/-- The schema of a text. -/
def plainString : Node :=
  plainMapping [("type", plainText "string")]

/-- A payload with an object in an object, and one in the items of an array. -/
def tripPayload : Node :=
  plainObject
    [("stops", plainMapping
      [("type", plainText "array"),
        ("items", plainObject [("town", plainString), ("arrival", plainString)])]),
      ("driver", plainObject
        [("name", plainString),
          ("licence", plainObject [("since", plainString), ("id", plainString)])])]

/-- Is the node plain, with keys that are not empty and spell keywords properly? -/
def isOrdinary (m : Node) : Bool :=
  decide m.IsPlain && m.keys.all fun key =>
    decide (JsonSchema.SpeltProperly key) && decide (key ≠ "")

theorem of_every_isOrdinary {n : Node} (h : n.every isOrdinary) :
    n.Plain ∧ JsonSchema.SpellsKeywords n ∧ ∀ above m, n.At above m → "" ∉ m.keys := by
  have hkeys (above : List String) (m : Node) (hm : n.At above m) (key : String)
      (hkey : key ∈ m.keys) :
      JsonSchema.SpeltProperly key ∧ key ≠ "" := by
    simpa using List.all_eq_true.1 (Bool.and_eq_true_iff.1 (hm.of_every h)).2 key hkey
  refine ⟨fun above m hm => ?_, fun above m hm key hkey => ?_, fun above m hm hkey => ?_⟩
  · exact of_decide_eq_true (Bool.and_eq_true_iff.1 (hm.of_every h)).1
  · exact (hkeys above m hm key hkey).1
  · exact (hkeys above m hm "" hkey).2 rfl

theorem readPayload_inOrderOf_tripPayload :
    ∃ s, readPayload [] tripPayload = .ok s ∧ s.InOrderOf tripPayload ∧
    s.propertyNames = ["stops", "driver"] ∧
    ((s.property? "driver").bind (Schema.property? "licence")).map Schema.propertyNames =
      some ["since", "id"] := by
  have hvalue : ((readPayload [] tripPayload).toOption.map fun s => (s.propertyNames,
      ((s.property? "driver").bind (Schema.property? "licence")).map Schema.propertyNames)) =
      some (["stops", "driver"], some ["since", "id"]) := by decide +kernel
  obtain ⟨s, hs, hnames⟩ := Option.map_eq_some_iff.1 hvalue
  obtain ⟨hnames, hinner⟩ := Prod.mk.inj hnames
  have hok := Except.toOption_eq_some_iff.1 hs
  obtain ⟨hplain, hspelt, hempty⟩ := of_every_isOrdinary (n := tripPayload) (by decide +kernel)
  have hdotless : tripPayload.every (fun m => m.keys.all fun key => decide ('.' ∉ key.toList)) =
      true := by
    decide +kernel
  have hpaths : tripPayload.PathsDiffer := by
    refine Node.pathsDiffer_of_dotless fun above m hm key hkey => ⟨fun hkey' => ?_, ?_⟩
    · exact hempty above m hm (hkey' ▸ hkey)
    · exact of_decide_eq_true (List.all_eq_true.1 (hm.of_every hdotless) key hkey)
  exact ⟨s, hok, readPayload_inOrderOf hplain hspelt hempty hpaths hok, hnames, hinner⟩

/-- A payload in which two mappings have one path, since a property has dots in its name. -/
def dottedPayload : Node :=
  plainObject
    [("x", plainObject [("y", plainObject [("b", plainString), ("a", plainString)])]),
      ("x.properties.y", plainObject [("a", plainString), ("b", plainString)])]

/-- **A name with dots may take away the order of other properties**: the order that is recorded for
one mapping counts for the other as well. -/
theorem readPayload_dottedPayload_not_inOrderOf :
    (dottedPayload.Plain ∧ JsonSchema.SpellsKeywords dottedPayload ∧
      ∀ above m, dottedPayload.At above m → "" ∉ m.keys) ∧
    ∃ s, readPayload [] dottedPayload = .ok s ∧ ¬ s.InOrderOf dottedPayload := by
  refine ⟨of_every_isOrdinary (by decide +kernel), ?_⟩
  have hvalue : ((readPayload [] dottedPayload).toOption.bind fun s =>
      ((s.property? "x").bind (Schema.property? "y")).map Schema.propertyNames) =
        some ["a", "b"] := by decide +kernel
  obtain ⟨s, hs, hinner⟩ := Option.bind_eq_some_iff.1 hvalue
  obtain ⟨y, hy, hnames⟩ := Option.map_eq_some_iff.1 hinner
  obtain ⟨x, hx, hy⟩ := Option.bind_eq_some_iff.1 hy
  refine ⟨s, Except.toOption_eq_some_iff.1 hs, fun hordered => ?_⟩
  have hinside := ((hordered.property hx rfl).property hy rfl).names (by rw [hnames]; decide)
  rw [hnames] at hinside
  exact absurd hinside (by decide)

end Spec

end PayloadGen
