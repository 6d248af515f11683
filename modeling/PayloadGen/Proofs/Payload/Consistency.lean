import PayloadGen.Proofs.Dict
import PayloadGen.Proofs.Payload.Resolve

/-!
# Compiled units are consistent

The classes of a compiled unit have distinct names and stand in an order in which every class comes
after the classes it mentions; every topic is bound to a message of the specification, whose class
is in the unit; and the handler signatures are those of the bound classes, in ascending order.

The order of declaration is an invariant of every stage of the compilation: a stage returns a group
of classes that is closed under mention (`DeclaredBeforeUse`), and closed groups can be put one
after the other in any order (`DeclaredBeforeUse.append`). That is why the classes of a property may
go in front of those of the properties above it.
-/

namespace PayloadGen

/-! ## Declaration before use -/

/-- Every class stands after the classes that its fields mention. -/
def DeclaredBeforeUse (defs : List ClassDef) : Prop :=
  ∀ (i : Nat) (c : ClassDef), defs[i]? = some c → ∀ f ∈ c.fields, ∀ r ∈ f.type.classRefs,
    ∃ j < i, ∃ d, defs[j]? = some d ∧ d.name = r

namespace DeclaredBeforeUse

theorem nil : DeclaredBeforeUse [] := by
  intro i c hc
  simp at hc

/-- Groups that mention no class outside themselves can stand one after the other. -/
theorem append {defs defs' : List ClassDef} (h : DeclaredBeforeUse defs)
    (h' : DeclaredBeforeUse defs') : DeclaredBeforeUse (defs ++ defs') := by
  intro i c hc f hf r hr
  by_cases hi : i < defs.length
  · rw [List.getElem?_append_left hi] at hc
    obtain ⟨j, hj, d, hd, rfl⟩ := h i c hc f hf r hr
    exact ⟨j, hj, d, by rw [List.getElem?_append_left (hj.trans hi), hd], rfl⟩
  · rw [List.getElem?_append_right (not_lt.1 hi)] at hc
    obtain ⟨j, hj, d, hd, rfl⟩ := h' _ c hc f hf r hr
    refine ⟨defs.length + j, by omega, d, ?_, rfl⟩
    rw [List.getElem?_append_right (by omega), Nat.add_sub_cancel_left, hd]

/-- A class may follow a group that declares all it mentions. -/
theorem concat {defs : List ClassDef} {c : ClassDef} (h : DeclaredBeforeUse defs)
    (hc : ∀ f ∈ c.fields, ∀ r ∈ f.type.classRefs, r ∈ defs.map (·.name)) :
    DeclaredBeforeUse (defs ++ [c]) := by
  intro i d hd f hf r hr
  by_cases hi : i < defs.length
  · rw [List.getElem?_append_left hi] at hd
    obtain ⟨j, hj, d', hd', rfl⟩ := h i d hd f hf r hr
    exact ⟨j, hj, d', by rw [List.getElem?_append_left (hj.trans hi), hd'], rfl⟩
  · rw [List.getElem?_append_right (not_lt.1 hi)] at hd
    obtain rfl : c = d := by simpa using List.mem_of_getElem? hd |> List.mem_singleton.1 |>.symm
    obtain ⟨d', hd', rfl⟩ := List.mem_map.1 (hc f hf r hr)
    obtain ⟨j, hj⟩ := List.getElem?_of_mem hd'
    have hlt : j < defs.length := (List.getElem?_eq_some_iff.1 hj).1
    exact ⟨j, by omega, d', by rw [List.getElem?_append_left hlt, hj], rfl⟩

theorem flatten {groups : List (List ClassDef)} (h : ∀ g ∈ groups, DeclaredBeforeUse g) :
    DeclaredBeforeUse groups.flatten := by
  induction groups with
  | nil => exact nil
  | cons g groups ih =>
    exact (h g List.mem_cons_self).append (ih fun g' hg' => h g' (List.mem_cons_of_mem _ hg'))

end DeclaredBeforeUse

@[simp] theorem FieldType.classRefs_asOptional (t : FieldType) :
    t.asOptional.classRefs = t.classRefs := by
  cases t
  rfl

@[simp] theorem Schema.classRefs_propertyType (required : List String) (property : String)
    (t : FieldType) : (propertyType required property t).classRefs = t.classRefs := by
  unfold propertyType
  split <;> simp

@[simp] theorem Schema.classRefs_array (elem : FieldType) (least greatest : Option Int)
    (constraint : Option Constraint) :
    (FieldType.mk (arrayShape elem least greatest) [] false constraint).classRefs =
      elem.classRefs := by
  unfold arrayShape
  cases fixedLength? least greatest <;> rfl

namespace Schema

theorem classRefs_of_scalarType {s : Schema} {nested : Bool} {type : FieldType}
    (h : s.scalarType? nested = some type) : type.classRefs = [] := by
  unfold scalarType? at h
  split at h <;> cases h <;> simp [FieldType.plain, FieldType.classRefs, FieldType.shapeRefs]

/-- A type mentions only classes of its own group, and the group is closed under mention. The second
statement is the first for all properties of a class together: their groups stand in reverse. -/
theorem declaredBeforeUse_induction : ResolveInduction
    (fun _ _ _ _ type defs => DeclaredBeforeUse defs ∧ ∀ r ∈ type.classRefs, r ∈ defs.map (·.name))
    (fun _ _ _ fields hoisted => DeclaredBeforeUse hoisted ∧
      ∀ f ∈ fields, ∀ r ∈ f.type.classRefs, r ∈ hoisted.map (·.name)) where
  scalar h := ⟨.nil, by simp [classRefs_of_scalarType h]⟩
  object h := by
    refine ⟨h.1.concat h.2, fun r hr => ?_⟩
    simp only [FieldType.plain, FieldType.classRefs, FieldType.shapeRefs, List.mem_singleton] at hr
    simp [hr]
  array _ h := ⟨h.1, by simpa using h.2⟩
  nil := ⟨.nil, by simp⟩
  cons := by
    rintro _ _ _ _ _ _ _ _ _ ⟨hnested, hrefs⟩ ⟨hhoisted, hfields⟩
    refine ⟨hhoisted.append hnested, fun f hf r hr => ?_⟩
    rw [List.map_append, List.mem_append]
    rcases List.mem_cons.1 hf with rfl | hf
    · exact .inr (hrefs r (by simpa using hr))
    · exact .inl (hfields f hf r hr)

theorem classes_declaredBeforeUse {s : Schema} {name : String} {defs : List ClassDef}
    (h : s.classes name = .ok defs) :
    DeclaredBeforeUse defs ∧ ∃ c ∈ defs, c.name = name := by
  obtain ⟨_, properties, _, fields, hoisted, rfl, hparts, rfl⟩ := classes_eq_ok.1 h
  obtain ⟨hhoisted, hfields⟩ := declaredBeforeUse_induction.resolveProperties properties hparts
  exact ⟨hhoisted.concat hfields, ⟨name, fields⟩, by simp, rfl⟩

end Schema

/-! ## The classes of a specification -/

theorem compileMessages_declaredBeforeUse {options : CompileOptions} {messages : List Message}
    {defs : List ClassDef} (h : (compileMessages options messages).2 = .ok defs) :
    DeclaredBeforeUse defs := by
  obtain ⟨-, -, groups, hgroups, rfl⟩ := compileMessages_eq_ok.1 h
  refine DeclaredBeforeUse.flatten fun g hg => ?_
  obtain ⟨m, -, hm⟩ := exists_left_of_forall₂ hgroups hg
  exact (Schema.classes_declaredBeforeUse hm).1

/-- The classes of a message are among those of all messages. -/
theorem exists_group_of_mem_messages {options : CompileOptions} {messages : List Message}
    {defs : List ClassDef} (h : (compileMessages options messages).2 = .ok defs) {m : Message}
    (hm : m ∈ messages) : ∃ group ⊆ defs, m.payload.classes m.name = .ok group := by
  obtain ⟨-, -, groups, hgroups, rfl⟩ := compileMessages_eq_ok.1 h
  obtain ⟨group, hgroup, hclasses⟩ := exists_right_of_forall₂ hgroups hm
  exact ⟨group, fun c hc => List.mem_flatten.2 ⟨group, hgroup, hc⟩, hclasses⟩

/-! ## Topics and callbacks -/

theorem mem_payloadClasses {topics : Pairs String} {c : String} :
    c ∈ payloadClasses topics ↔ c ∈ topics.map (·.2) := by
  rw [payloadClasses, mem_sortTexts, List.mem_eraseDups]

theorem payload_callbacks (names : List String) :
    (callbacks names).map (·.payload) = sortTexts (distinct names) := by
  simp [callbacks, Function.comp_def]

/-! ## Units -/

theorem nodup_names_of_compile {options : CompileOptions} {spec : Spec} {unit : CompiledUnit}
    (h : (compile options spec).2 = .ok unit) : (unit.classes.map (·.name)).Nodup := by
  obtain ⟨topics, defs, -, hdefs, -, rfl⟩ := compile_eq_ok.1 h
  exact (compileMessages_eq_ok.1 hdefs).2.1

theorem declaredBeforeUse_of_compile {options : CompileOptions} {spec : Spec} {unit : CompiledUnit}
    (h : (compile options spec).2 = .ok unit) : DeclaredBeforeUse unit.classes := by
  obtain ⟨topics, defs, -, hdefs, -, rfl⟩ := compile_eq_ok.1 h
  exact compileMessages_declaredBeforeUse hdefs

theorem nodup_payloads_of_compile {options : CompileOptions} {spec : Spec} {unit : CompiledUnit}
    (h : (compile options spec).2 = .ok unit) : (unit.callbacks.map (·.payload)).Nodup := by
  obtain ⟨topics, defs, -, -, -, rfl⟩ := compile_eq_ok.1 h
  rw [payload_callbacks]
  exact (sortTexts_perm _).nodup_iff.2 (nodup_distinct _)

/-- Every callback takes a class of the unit. -/
theorem payload_mem_names_of_compile {options : CompileOptions} {spec : Spec} {unit : CompiledUnit}
    (h : (compile options spec).2 = .ok unit) {p : String}
    (hp : p ∈ unit.callbacks.map (·.payload)) : p ∈ unit.classes.map (·.name) := by
  obtain ⟨topics, defs, -, hdefs, hbound, rfl⟩ := compile_eq_ok.1 h
  rw [payload_callbacks, mem_sortTexts, List.mem_eraseDups, mem_payloadClasses] at hp
  obtain ⟨e, he, rfl⟩ := List.mem_map.1 hp
  obtain ⟨m, hm, hname⟩ := checkBound_eq_ok.1 hbound e he
  obtain ⟨group, hgroup, hclasses⟩ := exists_group_of_mem_messages hdefs hm
  obtain ⟨c, hc, hcname⟩ := (Schema.classes_declaredBeforeUse hclasses).2
  exact List.mem_map.2 ⟨c, hgroup hc, hcname.trans hname⟩

/-- **Every compiled unit is consistent**: class names are distinct, classes are declared before
use, topics carry messages of the specification that have a class, and the handler signatures are
those of the classes bound to topics. -/
theorem compile_consistent {options : CompileOptions} {spec : Spec} {unit : CompiledUnit}
    (h : (compile options spec).2 = .ok unit) :
    (unit.classes.map (·.name)).Nodup ∧
      DeclaredBeforeUse unit.classes ∧
      (∀ e ∈ unit.topics.entries, (∃ m ∈ spec.messages, m.name = e.2) ∧
        ∃ c ∈ unit.classes, c.name = e.2) ∧
      unit.callbacks.Pairwise (fun a b => a.payload < b.payload) ∧
      (∀ p, p ∈ unit.callbacks.map (·.payload) ↔ p ∈ unit.topics.entries.map (·.2)) ∧
      ∀ c ∈ unit.callbacks, c.name = Name.callback c.payload := by
  obtain ⟨topics, defs, -, hdefs, hbound, rfl⟩ := compile_eq_ok.1 h
  refine ⟨(compileMessages_eq_ok.1 hdefs).2.1, compileMessages_declaredBeforeUse hdefs,
    ?_, ?_, ?_, ?_⟩
  · intro e he
    obtain ⟨m, hm, hname⟩ := checkBound_eq_ok.1 hbound e he
    obtain ⟨group, hgroup, hclasses⟩ := exists_group_of_mem_messages hdefs hm
    obtain ⟨c, hc, hcname⟩ := (Schema.classes_declaredBeforeUse hclasses).2
    exact ⟨⟨m, hm, hname⟩, c, hgroup hc, hcname.trans hname⟩
  · have hasc := pairwise_lt_sortTexts_distinct (payloadClasses topics.entries)
    rw [← payload_callbacks] at hasc
    exact List.pairwise_map.1 hasc
  · intro p
    rw [payload_callbacks, mem_sortTexts, List.mem_eraseDups, mem_payloadClasses]
  · intro c hc
    obtain ⟨p, -, rfl⟩ := List.mem_map.1 hc
    rfl

/-- A specification with one channel, whose message holds an object and an array of objects. -/
def servoSpec : Spec where
  asyncapi := "2.6.0"
  info := ⟨"Servo", "1.0.0", ""⟩
  channels := [⟨"servo/state", "", some ⟨"", "#/components/messages/Servo"⟩, none⟩]
  messages := [⟨"Servo", "", "", .object ""
    [("servo_state", .object "" [("pwm", .number "" ⟨true, none, none, none⟩)] ["pwm"] true),
      ("points", .array "" (.object "" [("z", .boolean "")] [] true) (some 1) none)]
    ["servo_state"] true⟩]

theorem compile_consistent_servoSpec : ∃ unit, (compile ⟨4, false⟩ servoSpec).2 = .ok unit ∧
    unit.classes.map (·.name) = ["ServoPoints", "ServoServoState", "Servo"] ∧
    DeclaredBeforeUse unit.classes := by
  have hnames : ((compile ⟨4, false⟩ servoSpec).2.toOption.map fun u => u.classes.map (·.name)) =
      some ["ServoPoints", "ServoServoState", "Servo"] := by decide +kernel
  obtain ⟨unit, hunit, hnames⟩ := Option.map_eq_some_iff.1 hnames
  have hok := Except.toOption_eq_some_iff.1 hunit
  exact ⟨unit, hok, hnames, (compile_consistent hok).2.1⟩

end PayloadGen
