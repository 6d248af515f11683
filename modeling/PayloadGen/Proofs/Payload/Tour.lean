import Mathlib.Data.List.Forall2
import PayloadGen.Proofs.Payload.Resolve

/-!
# The classes of a payload, object by object

The objects in a payload are found by their positions: the numbers of the properties on the way from
the root, where arrays on the way do not count (`Schema.objectAt?`). The classes of a payload are
those of its objects, one for each position, in the order of a tour that takes later properties
first and every object after those inside it (`Schema.classes_tour`).
-/

namespace PayloadGen

/-! ## Positions -/

/-- An object in a payload: the names of the properties on the way to it, and its own properties. -/
structure FoundObject where
  way : List String
  properties : List (String × Schema)

/-- The object as it is found from further up. -/
def FoundObject.below (property : String) (o : FoundObject) : FoundObject :=
  { o with way := property :: o.way }

namespace Schema

/-- The schema inside all layers of arrays. -/
def core : Schema → Schema
  | .array _ items _ _ => items.core
  | s => s

/-- The object at a position. -/
def objectAt? : List Nat → Schema → Option FoundObject
  | [], s =>
    match s.core with
    | .object _ properties _ _ => some ⟨[], properties⟩
    | _ => none
  | i :: r, s =>
    match s.core with
    | .object _ properties _ _ => (properties[i]?).bind fun p => (objectAt? r p.2).map (.below p.1)
    | _ => none

/-- The object at a position that begins with one of the properties. -/
def propertyObject? (properties : List (String × Schema)) : List Nat → Option FoundObject
  | [] => none
  | i :: r => (properties[i]?).bind fun p => (objectAt? r p.2).map (.below p.1)

end Schema

/-- One position comes before the other on a tour: it is inside the other, or where they part it
takes the later property. -/
def TourBefore : List Nat → List Nat → Prop
  | [], _ => False
  | _ :: _, [] => True
  | i :: r, j :: t => j < i ∨ i = j ∧ TourBefore r t

theorem TourBefore.irrefl : ∀ p : List Nat, ¬ TourBefore p p
  | [], h => h
  | i :: r, h => by
    rcases h with h | ⟨-, h⟩
    · exact Nat.lt_irrefl i h
    · exact irrefl r h

/-- The class is that of an object in a payload whose own class has the given name. -/
structure FoundObject.HasClass (root : String) (o : FoundObject) (c : ClassDef) : Prop where
  name : c.name = o.way.foldl Name.nestedClass root
  fields : c.fields.map (fun f => (f.name, f.doc)) = o.properties.map fun p =>
    (p.1, p.2.description)

theorem FoundObject.HasClass.below {parent property : String} {o : FoundObject} {c : ClassDef}
    (h : o.HasClass (Name.nestedClass parent property) c) : (o.below property).HasClass parent c :=
  ⟨h.name, h.fields⟩

/-! ## Tours -/

/-- The positions are those at which there is an object, in the order of a tour, and the classes are
those of the objects there. -/
structure IsTour (at? : List Nat → Option FoundObject) (root : String) (positions : List (List Nat))
    (defs : List ClassDef) : Prop where
  mem : ∀ p, p ∈ positions ↔ (at? p).isSome
  ordered : positions.Pairwise TourBefore
  classes : List.Forall₂ (fun p c => ∃ o, at? p = some o ∧ o.HasClass root c) positions defs

namespace IsTour

variable {root : String} {positions : List (List Nat)} {defs : List ClassDef}

theorem nodup {at? : List Nat → Option FoundObject} (h : IsTour at? root positions defs) :
    positions.Nodup := by
  refine h.ordered.imp fun {p q} hpq => ?_
  rintro rfl
  exact TourBefore.irrefl p hpq

theorem of_none {at? : List Nat → Option FoundObject} (h : ∀ p, at? p = none) :
    IsTour at? root [] [] :=
  ⟨by simp [h], .nil, .nil⟩

/-- The position as seen when one more property stands in front of the others. -/
def shifted : List Nat → List Nat
  | [] => []
  | i :: r => (i + 1) :: r

theorem propertyObject?_shifted (first : String × Schema) (rest : List (String × Schema))
    (p : List Nat) :
    Schema.propertyObject? (first :: rest) (shifted p) = Schema.propertyObject? rest p := by
  cases p with
  | nil => rfl
  | cons i r => rfl

/-- The positions inside the properties of an object: those of the first property begin with zero
and come last. -/
theorem properties {parent property : String} {s : Schema} {rest : List (String × Schema)}
    {positions' : List (List Nat)} {defs' : List ClassDef}
    (hfirst : IsTour (Schema.objectAt? · s) (Name.nestedClass parent property) positions defs)
    (hrest : IsTour (Schema.propertyObject? rest) parent positions' defs') :
    IsTour (Schema.propertyObject? ((property, s) :: rest)) parent
      (positions'.map shifted ++ positions.map (0 :: ·)) (defs' ++ defs) where
  mem p := by
    rw [List.mem_append, List.mem_map, List.mem_map]
    constructor
    · rintro (⟨q, hq, rfl⟩ | ⟨q, hq, rfl⟩)
      · rw [propertyObject?_shifted]
        exact (hrest.mem q).1 hq
      · simpa [Schema.propertyObject?] using (hfirst.mem q).1 hq
    · intro hp
      obtain _ | ⟨_ | i, r⟩ := p
      · cases hp
      · refine .inr ⟨r, (hfirst.mem r).2 ?_, rfl⟩
        simpa [Schema.propertyObject?] using hp
      · exact .inl ⟨i :: r, (hrest.mem (i :: r)).2 hp, rfl⟩
  ordered := by
    rw [List.pairwise_append, List.pairwise_map, List.pairwise_map]
    refine ⟨hrest.ordered.imp fun {p q} h => ?_, hfirst.ordered.imp fun h => .inr ⟨rfl, h⟩, ?_⟩
    · cases p with
      | nil => cases h
      | cons i r =>
        cases q with
        | nil => trivial
        | cons j t =>
          rcases h with h | ⟨rfl, h⟩
          · exact .inl (Nat.succ_lt_succ h)
          · exact .inr ⟨rfl, h⟩
    · intro p hp q hq
      obtain ⟨p, hmem, rfl⟩ := List.mem_map.1 hp
      obtain ⟨q, -, rfl⟩ := List.mem_map.1 hq
      -- There is no object at the empty position among properties.
      cases p with
      | nil => cases (hrest.mem []).1 hmem
      | cons i r => exact .inl (Nat.succ_pos i)
  classes := by
    refine List.rel_append ?_ ?_
    · rw [List.forall₂_map_left_iff]
      exact hrest.classes.imp fun p c ⟨o, ho, hc⟩ =>
        ⟨o, (propertyObject?_shifted _ _ p).trans ho, hc⟩
    · rw [List.forall₂_map_left_iff]
      refine hfirst.classes.imp fun p c ⟨o, ho, hc⟩ => ⟨o.below property, ?_, hc.below⟩
      simp [Schema.propertyObject?, ho]

/-- The object itself comes after those inside it. -/
theorem object {name description : String} {properties : List (String × Schema)}
    {required : List String} {closed : Bool} {fields : List Field}
    (h : IsTour (Schema.propertyObject? properties) name positions defs)
    (hfields : fields.map (fun f => (f.name, f.doc)) = properties.map fun p =>
      (p.1, p.2.description)) :
    IsTour (Schema.objectAt? · (.object description properties required closed)) name
      (positions ++ [[]]) (defs ++ [⟨name, fields⟩]) where
  mem p := by
    cases p with
    | nil => simp [Schema.objectAt?, Schema.core]
    | cons i r =>
      rw [List.mem_append, h.mem (i :: r)]
      exact or_iff_left (by simp)
  ordered := by
    rw [List.pairwise_append]
    refine ⟨h.ordered, List.pairwise_singleton _ _, fun p hp q hq => ?_⟩
    obtain rfl := List.mem_singleton.1 hq
    cases p with
    | nil => cases (h.mem []).1 hp
    | cons i r => trivial
  classes := by
    refine List.rel_append ?_ (.cons ⟨⟨[], properties⟩, rfl, rfl, hfields⟩ .nil)
    refine h.classes.imp fun p c ⟨o, ho, hc⟩ => ⟨o, ?_, hc⟩
    cases p with
    | nil => cases ho
    | cons i r => exact ho

end IsTour

namespace Schema

theorem objectAt?_of_scalarType {s : Schema} {nested : Bool} {type : FieldType}
    (h : s.scalarType? nested = some type) : ∀ p, s.objectAt? p = none := by
  intro p
  cases s with
  | string | number | boolean => cases p <;> rfl
  | _ => cases h

theorem objectAt?_array (p : List Nat) (description : String) (items : Schema)
    (least greatest : Option Int) :
    objectAt? p (.array description items least greatest) = objectAt? p items := by
  cases p <;> rw [objectAt?, objectAt?, core]

/-- The classes that a schema gives are those of a tour of the objects inside it. -/
theorem isTour_induction : ResolveInduction
    (fun property parent _ s _ defs =>
      ∃ positions, IsTour (objectAt? · s) (Name.nestedClass parent property) positions defs)
    (fun parent _ properties fields hoisted =>
      fields.map (fun f => (f.name, f.doc)) = properties.map (fun p => (p.1, p.2.description)) ∧
        ∃ positions, IsTour (propertyObject? properties) parent positions hoisted) where
  scalar h := ⟨[], .of_none (objectAt?_of_scalarType h)⟩
  object := by
    rintro _ _ _ _ _ _ _ _ ⟨hfields, positions, h⟩
    exact ⟨_, h.object hfields⟩
  array := by
    rintro _ _ _ _ _ _ _ _ _ - ⟨positions, h⟩
    exact ⟨positions, by simpa only [objectAt?_array] using h⟩
  nil := by
    refine ⟨rfl, [], .of_none fun p => ?_⟩
    cases p <;> rfl
  cons := by
    rintro _ _ _ _ _ _ _ _ _ ⟨positions, hfirst⟩ ⟨hfields, positions', hrest⟩
    exact ⟨by simp [hfields], _, hfirst.properties hrest⟩

/-- **A payload has one class for each of its objects.** If a payload gives classes, then they are
those of the objects in it, each at its own position: a class is named along the properties that
lead to its object, and its fields are the properties of the object with their names and
descriptions, in declared order. The classes come in the order of a tour: later properties before
earlier ones, every object after those inside it, and the payload itself last. -/
theorem classes_tour {name : String} {s : Schema} {defs : List ClassDef}
    (h : s.classes name = .ok defs) :
    ∃ positions : List (List Nat),
      (∀ p, p ∈ positions ↔ (s.objectAt? p).isSome) ∧ positions.Nodup ∧
      positions.Pairwise TourBefore ∧
      positions.getLast? = some [] ∧
      List.Forall₂ (fun p c => ∃ o, s.objectAt? p = some o ∧ o.HasClass name c) positions defs := by
  obtain ⟨description, properties, required, fields, hoisted, rfl, hparts, rfl⟩ := classes_eq_ok.1 h
  obtain ⟨hfields, positions, hinner⟩ := isTour_induction.resolveProperties properties hparts
  have htour : IsTour (objectAt? · (.object description properties required true)) name _ _ :=
    hinner.object hfields
  exact ⟨_, htour.mem, htour.nodup, htour.ordered, by simp, htour.classes⟩

/-- An arm with two objects and an array of arrays of objects; the first object holds another. -/
def armSchema : Schema :=
  .object ""
    [("base_plate", .object "" [("inner", .object "" [("x", .boolean "set")] [] true)] [] true),
      ("beta", .object "" [("y", .boolean "")] [] true),
      ("points",
        .array "" (.array "" (.object "" [("z", .string "" [])] [] true) none none) (some 1) none)]
    [] true

theorem classes_tour_armSchema : ∃ defs, armSchema.classes "Arm" = .ok defs ∧
    defs.map (·.name) = ["ArmPoints", "ArmBeta", "ArmBasePlateInner", "ArmBasePlate", "Arm"] ∧
    ∃ positions : List (List Nat), [0, 0] ∈ positions ∧ positions.Pairwise TourBefore ∧
      List.Forall₂ (fun p c => ∃ o, armSchema.objectAt? p = some o ∧ o.HasClass "Arm" c)
        positions defs := by
  have hnames : ((armSchema.classes "Arm").toOption.map fun defs => defs.map (·.name)) =
      some ["ArmPoints", "ArmBeta", "ArmBasePlateInner", "ArmBasePlate", "Arm"] := by decide +kernel
  obtain ⟨defs, hdefs, hnames⟩ := Option.map_eq_some_iff.1 hnames
  have hok := Except.toOption_eq_some_iff.1 hdefs
  obtain ⟨positions, hmem, -, hordered, -, hclasses⟩ := classes_tour hok
  exact ⟨defs, hok, hnames, positions, (hmem [0, 0]).2 rfl, hordered, hclasses⟩

end Schema

end PayloadGen
