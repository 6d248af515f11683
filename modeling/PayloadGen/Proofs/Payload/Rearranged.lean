import Mathlib.Data.Multiset.Basic
import PayloadGen.Proofs.Payload.Compilable

/-!
# The order of a document does not decide what is generated

Two specifications are rearrangements of each other (`Spec.Rearranged`) if they differ only in the
order of messages, of channels, of the properties of objects and of the names that objects require,
at any depth. Channels of one topic must keep their order among themselves, for the last one counts.

A compilation and that of a rearranged specification go side by side: the types of fields are the
same, and the classes and fields are the same up to their order (`Schema.resolve_rearranged`). To
compare them so, a class is taken as a name and a multiset of fields (`ClassDef.unordered`). The
main result is `compile_rearranged`.
-/

namespace PayloadGen

/-! ## Rearranged schemas -/

namespace Schema

mutual

/-- The schemas differ in nothing but the order of properties and of required names, at any
depth. -/
inductive Rearranged : Schema → Schema → Prop
  | refl (s : Schema) : Rearranged s s
  | object {description : String} {properties properties' : List (String × Schema)}
      {required required' : List String} {closed : Bool}
      (hproperties : RearrangedProperties properties properties')
      (hrequired : required.Perm required') :
      Rearranged (.object description properties required closed)
        (.object description properties' required' closed)
  | array {description : String} {items items' : Schema} {least greatest : Option Int}
      (hitems : Rearranged items items') :
      Rearranged (.array description items least greatest)
        (.array description items' least greatest)

/-- The properties are the same up to their order, each with a schema that may itself be
rearranged. -/
inductive RearrangedProperties : List (String × Schema) → List (String × Schema) → Prop
  | nil : RearrangedProperties [] []
  | cons {property : String} {s s' : Schema} {rest rest' : List (String × Schema)}
      (hs : Rearranged s s') (hrest : RearrangedProperties rest rest') :
      RearrangedProperties ((property, s) :: rest) ((property, s') :: rest')
  | swap (p q : String × Schema) (rest : List (String × Schema)) :
      RearrangedProperties (p :: q :: rest) (q :: p :: rest)
  | trans {ps qs rs : List (String × Schema)} (hpq : RearrangedProperties ps qs)
      (hqr : RearrangedProperties qs rs) : RearrangedProperties ps rs

end

mutual

theorem Rearranged.symm : ∀ {s s' : Schema}, Rearranged s s' → Rearranged s' s
  | _, _, .refl s => .refl s
  | _, _, .object hproperties hrequired => .object hproperties.symm hrequired.symm
  | _, _, .array hitems => .array hitems.symm

theorem RearrangedProperties.symm : ∀ {ps qs : List (String × Schema)}, RearrangedProperties ps qs →
    RearrangedProperties qs ps
  | _, _, .nil => .nil
  | _, _, .cons hs hrest => .cons hs.symm hrest.symm
  | _, _, .swap p q rest => .swap q p rest
  | _, _, .trans hpq hqr => .trans hqr.symm hpq.symm

end

theorem Rearranged.description {s s' : Schema} (h : Rearranged s s') :
    s.description = s'.description := by
  cases h <;> rfl

end Schema

/-! ## Classes and fields up to their order -/

/-- The class without the order of its fields. -/
def ClassDef.unordered (c : ClassDef) : String × Multiset Field :=
  (c.name, c.fields)

/-- The classes are the same up to their order, and so are the fields of each. -/
def SameClasses (defs defs' : List ClassDef) : Prop :=
  (defs.map ClassDef.unordered).Perm (defs'.map ClassDef.unordered)

namespace SameClasses

variable {defs defs' more more' : List ClassDef}

theorem refl (defs : List ClassDef) : SameClasses defs defs :=
  List.Perm.refl _

theorem trans (h : SameClasses defs defs') (h' : SameClasses defs' more) : SameClasses defs more :=
  List.Perm.trans h h'

theorem append (h : SameClasses defs defs') (h' : SameClasses more more') :
    SameClasses (defs ++ more) (defs' ++ more') := by
  rw [SameClasses, List.map_append, List.map_append]
  exact List.Perm.append h h'

theorem of_perm (h : defs.Perm defs') : SameClasses defs defs' :=
  h.map _

/-- A class may follow with its fields in another order. -/
theorem concat (h : SameClasses defs defs') (name : String) {fields fields' : List Field}
    (hfields : fields.Perm fields') :
    SameClasses (defs ++ [⟨name, fields⟩]) (defs' ++ [⟨name, fields'⟩]) := by
  refine h.append ?_
  have hunordered : ClassDef.unordered ⟨name, fields⟩ = ClassDef.unordered ⟨name, fields'⟩ :=
    congrArg (Prod.mk name) (Multiset.coe_eq_coe.2 hfields)
  rw [SameClasses, List.map_singleton, List.map_singleton, hunordered]

theorem names (h : SameClasses defs defs') : (defs.map (·.name)).Perm (defs'.map (·.name)) := by
  have hnames := h.map Prod.fst
  rw [List.map_map, List.map_map] at hnames
  exact hnames

end SameClasses

/-! ## Compilations side by side -/

namespace Schema

/-- The fields of properties depend on which names are required, and not on their order. -/
theorem resolveProperties_required_perm {required required' : List String}
    (h : required.Perm required') (parent : String) (properties : List (String × Schema)) :
    resolveProperties parent required properties =
      resolveProperties parent required' properties := by
  have htype : propertyType required = propertyType required' := by
    funext property type
    simp only [propertyType, List.contains_iff_mem, h.mem_iff]
  induction properties with
  | nil => rw [resolveProperties, resolveProperties]
  | cons p rest ih =>
    obtain ⟨property, s⟩ := p
    rw [resolveProperties, resolveProperties, htype, ih]

mutual

/-- A rearranged schema has the same type, and the same classes up to their order. -/
theorem resolve_rearranged :
    ∀ {s s' : Schema}, Rearranged s s' → ∀ {property parent : String} {nested : Bool}
    {type : FieldType} {defs : List ClassDef}, s.resolve property parent nested = .ok (type, defs) →
    ∃ defs', s'.resolve property parent nested = .ok (type, defs') ∧ SameClasses defs defs'
  | _, _, .refl _, _, _, _, _, defs, h => ⟨defs, h, .refl defs⟩
  | _, _, .object hproperties hrequired, _, _, _, _, _, h => by
    obtain ⟨rfl, rfl, fields, hoisted, hparts, rfl⟩ := resolve_object_eq_ok.1 h
    obtain ⟨fields', hoisted', hparts', hfields, hhoisted⟩ :=
      resolveProperties_rearranged hproperties hparts
    rw [resolveProperties_required_perm hrequired] at hparts'
    exact ⟨_, resolve_object_eq_ok.2 ⟨rfl, rfl, fields', hoisted', hparts', rfl⟩,
      hhoisted.concat _ hfields⟩
  | _, _, .array hitems, _, _, _, _, _, h => by
    obtain ⟨hlength, elem, helem, rfl⟩ := resolve_array_eq_ok.1 h
    obtain ⟨defs', helem', hdefs⟩ := resolve_rearranged hitems helem
    exact ⟨defs', resolve_array_eq_ok.2 ⟨hlength, elem, helem', rfl⟩, hdefs⟩

/-- Rearranged properties have the same fields and the same classes, both up to their order. -/
theorem resolveProperties_rearranged :
    ∀ {ps qs : List (String × Schema)}, RearrangedProperties ps qs →
    ∀ {parent : String} {required : List String} {fields : List Field} {hoisted : List ClassDef},
    resolveProperties parent required ps = .ok (fields, hoisted) →
    ∃ fields' hoisted', resolveProperties parent required qs = .ok (fields', hoisted') ∧
      fields.Perm fields' ∧ SameClasses hoisted hoisted'
  | _, _, .nil, _, _, fields, hoisted, h => ⟨fields, hoisted, h, .refl fields, .refl hoisted⟩
  | _, _, .cons hs hrest, _, _, _, _, h => by
    obtain ⟨type, nested, fields, hoisted, htype, hfields, rfl, rfl⟩ :=
      resolveProperties_cons_eq_ok.1 h
    obtain ⟨nested', htype', hnested⟩ := resolve_rearranged hs htype
    obtain ⟨fields', hoisted', hfields', hperm, hhoisted⟩ :=
      resolveProperties_rearranged hrest hfields
    refine ⟨_, _, resolveProperties_cons_eq_ok.2 ⟨type, nested', fields', hoisted', htype',
      hfields', rfl, rfl⟩, ?_, hhoisted.append hnested⟩
    rw [hs.description]
    exact hperm.cons _
  | _, _, .swap p q rest, _, _, _, _, h => by
    obtain ⟨type, nested, _, _, htype, hrest, rfl, rfl⟩ := resolveProperties_cons_eq_ok.1 h
    obtain ⟨type', nested', fields, hoisted, htype', hfields, rfl, rfl⟩ :=
      resolveProperties_cons_eq_ok.1 hrest
    refine ⟨_, _, resolveProperties_cons_eq_ok.2 ⟨type', nested', _, _, htype',
      resolveProperties_cons_eq_ok.2 ⟨type, nested, fields, hoisted, htype, hfields, rfl, rfl⟩, rfl,
      rfl⟩,
      .swap _ _ _, ?_⟩
    rw [List.append_assoc, List.append_assoc]
    exact (SameClasses.refl hoisted).append (.of_perm List.perm_append_comm)
  | _, _, .trans hpq hqr, _, _, _, _, h => by
    obtain ⟨fields', hoisted', h', hperm, hhoisted⟩ := resolveProperties_rearranged hpq h
    obtain ⟨fields'', hoisted'', h'', hperm', hhoisted'⟩ := resolveProperties_rearranged hqr h'
    exact ⟨fields'', hoisted'', h'', hperm.trans hperm', hhoisted.trans hhoisted'⟩

end

theorem classes_rearranged {s s' : Schema} (h : Rearranged s s') {name : String}
    {defs : List ClassDef} (hdefs : s.classes name = .ok defs) :
    ∃ defs', s'.classes name = .ok defs' ∧ SameClasses defs defs' := by
  obtain ⟨_, _, _, fields, hoisted, rfl, hparts, rfl⟩ := classes_eq_ok.1 hdefs
  cases h with
  | refl => exact ⟨_, hdefs, .refl _⟩
  | object hproperties hrequired =>
    obtain ⟨fields', hoisted', hparts', hfields, hhoisted⟩ :=
      resolveProperties_rearranged hproperties hparts
    rw [resolveProperties_required_perm hrequired] at hparts'
    exact ⟨_, classes_eq_ok.2 ⟨_, _, _, fields', hoisted', rfl, hparts', rfl⟩,
      hhoisted.concat _ hfields⟩

end Schema

/-! ## Messages -/

/-- The messages differ in nothing but the order inside their payloads. -/
structure Message.Rearranged (m m' : Message) : Prop where
  name : m.name = m'.name
  title : m.title = m'.title
  description : m.description = m'.description
  payload : m.payload.Rearranged m'.payload

theorem Message.Rearranged.symm {m m' : Message} (h : m.Rearranged m') : m'.Rearranged m :=
  ⟨h.name.symm, h.title.symm, h.description.symm, h.payload.symm⟩

/-- Messages in the same order, with rearranged payloads, give the same classes up to order. -/
theorem classes_of_forall₂_rearranged {messages messages' : List Message}
    {groups : List (List ClassDef)} (h : List.Forall₂ Message.Rearranged messages messages')
    (hgroups : List.Forall₂ (fun m g => m.payload.classes m.name = .ok g) messages groups) :
    ∃ groups', List.Forall₂ (fun m g => m.payload.classes m.name = .ok g) messages' groups' ∧
      SameClasses groups.flatten groups'.flatten := by
  induction h generalizing groups with
  | nil =>
    cases hgroups
    exact ⟨[], .nil, .refl []⟩
  | cons hm _ ih =>
    obtain ⟨group, groups, hgroup, hrest, rfl⟩ := List.forall₂_cons_left_iff.1 hgroups
    obtain ⟨group', hgroup', hsame⟩ := Schema.classes_rearranged hm.payload hgroup
    obtain ⟨groups', hgroups', hsame'⟩ := ih hrest
    exact ⟨group' :: groups', .cons (hm.name ▸ hgroup') hgroups', hsame.append hsame'⟩

/-- The messages are the same up to their order, each with a payload that may itself be
rearranged. -/
def RearrangedMessages (messages messages' : List Message) : Prop :=
  ∃ mid, messages.Perm mid ∧ List.Forall₂ Message.Rearranged mid messages'

namespace RearrangedMessages

variable {messages messages' : List Message}

theorem symm (h : RearrangedMessages messages messages') :
    RearrangedMessages messages' messages := by
  obtain ⟨mid, hperm, hmid⟩ := h
  have hflip : List.Forall₂ Message.Rearranged messages' mid := hmid.flip.imp fun _ _ hm => hm.symm
  -- Rearranging payloads and then the list is rearranging the list and then payloads.
  exact (congrFun₂ List.forall₂_comp_perm_eq_perm_comp_forall₂ messages' messages).mp
    ⟨mid, hflip, hperm.symm⟩

theorem exists_name (h : RearrangedMessages messages messages') {m : Message} (hm : m ∈ messages) :
    ∃ m' ∈ messages', m'.name = m.name := by
  obtain ⟨mid, hperm, hmid⟩ := h
  obtain ⟨m', hm', hsame⟩ := exists_right_of_forall₂ hmid (hperm.mem_iff.1 hm)
  exact ⟨m', hm', hsame.name.symm⟩

theorem compileMessages {options : CompileOptions} {defs : List ClassDef}
    (h : RearrangedMessages messages messages')
    (hdefs : (compileMessages options messages).2 = .ok defs) :
    ∃ defs', (PayloadGen.compileMessages options messages').2 = .ok defs' ∧
      SameClasses defs defs' := by
  obtain ⟨hcanceled, hnodup, groups, hgroups, rfl⟩ := compileMessages_eq_ok.1 hdefs
  obtain ⟨mid, hperm, hmid⟩ := h
  obtain ⟨groups', hgroups', hperm'⟩ := List.perm_comp_forall₂ hperm.symm hgroups
  obtain ⟨groups'', hgroups'', hsame'⟩ := classes_of_forall₂_rearranged hmid hgroups'
  have hsame : SameClasses groups.flatten groups''.flatten :=
    (SameClasses.of_perm hperm'.symm.flatten).trans hsame'
  exact ⟨_, compileMessages_eq_ok.2 ⟨hcanceled, hsame.names.nodup_iff.1 hnodup, groups'', hgroups'',
    rfl⟩, hsame⟩

end RearrangedMessages

/-! ## Channels -/

/-- For every topic the lists have the same channels, in the same order. -/
def SameChannels (channels channels' : List Channel) : Prop :=
  ∀ topic, channels.filter (·.topic == topic) = channels'.filter (·.topic == topic)

namespace SameChannels

variable {channels channels' : List Channel}

/-- Channels of distinct topics may stand in any order. -/
theorem of_perm (h : channels.Perm channels') (htopics : (channels.map (·.topic)).Nodup) :
    SameChannels channels channels' := by
  intro topic
  induction h with
  | nil => rfl
  | cons c _ ih =>
    rw [List.filter_cons, List.filter_cons, ih (List.nodup_cons.1 htopics).2]
  | swap c d rest =>
    have hne : d.topic ≠ c.topic := fun heq => (List.nodup_cons.1 htopics).1 (by simp [heq])
    by_cases hc : c.topic = topic
    · simp [hc, show d.topic ≠ topic from hc ▸ hne]
    · simp [List.filter_cons, hc]
  | trans hperm _ ih ih' => rw [ih htopics, ih' ((hperm.map _).nodup_iff.1 htopics)]

theorem symm (h : SameChannels channels channels') : SameChannels channels' channels :=
  fun topic => (h topic).symm

theorem mem_iff (h : SameChannels channels channels') {c : Channel} :
    c ∈ channels ↔ c ∈ channels' := by
  have hmem : c ∈ channels.filter (·.topic == c.topic) ↔
      c ∈ channels'.filter (·.topic == c.topic) := by
    rw [h c.topic]
  simpa using hmem

theorem lastChannel? (h : SameChannels channels channels') (topic : String) :
    lastChannel? channels topic = PayloadGen.lastChannel? channels' topic := by
  rw [PayloadGen.lastChannel?, PayloadGen.lastChannel?, ← List.head?_filter, ← List.head?_filter,
    List.filter_reverse, List.filter_reverse, h topic]

theorem bindTopics {topics : Dict String} (h : SameChannels channels channels')
    (htopics : bindTopics channels = .ok topics) :
    PayloadGen.bindTopics channels' = .ok topics := by
  have hbound : (PayloadGen.bindTopics channels').error? = none := by
    rw [error?_bindTopics, List.findSome?_eq_none_iff]
    exact fun c hc =>
      Channel.violation?_eq_none_iff.2 (bound_of_bindTopics htopics c (h.mem_iff.2 hc))
  obtain ⟨topics', htopics'⟩ := Except.error?_eq_none_iff.1 hbound
  have heq : topics = topics' := Dict.eq_of_mem_iff fun e => by
    rw [mem_of_bindTopics htopics, mem_of_bindTopics htopics', h.lastChannel?]
  rw [htopics', heq]

end SameChannels

/-! ## Specifications -/

/-- The specifications differ in nothing but the order of messages, of the channels of different
topics, and inside payloads. -/
structure Spec.Rearranged (spec spec' : Spec) : Prop where
  asyncapi : spec.asyncapi = spec'.asyncapi
  info : spec.info = spec'.info
  channels : SameChannels spec.channels spec'.channels
  messages : RearrangedMessages spec.messages spec'.messages

theorem Spec.Rearranged.symm {spec spec' : Spec} (h : spec.Rearranged spec') :
    spec'.Rearranged spec :=
  ⟨h.asyncapi.symm, h.info.symm, h.channels.symm, h.messages.symm⟩

theorem checkBound_rearranged {messages messages' : List Message} {topics : Dict String}
    (h : RearrangedMessages messages messages') (hbound : checkBound messages topics = .ok ()) :
    checkBound messages' topics = .ok () := by
  refine checkBound_eq_ok.2 fun e he => ?_
  obtain ⟨m, hm, hname⟩ := checkBound_eq_ok.1 hbound e he
  obtain ⟨m', hm', hname'⟩ := h.exists_name hm
  exact ⟨m', hm', hname'.trans hname⟩

theorem exists_compile_of_rearranged {options : CompileOptions} {spec spec' : Spec}
    {unit : CompiledUnit} (h : spec.Rearranged spec')
    (hunit : (compile options spec).2 = .ok unit) :
    ∃ unit', (compile options spec').2 = .ok unit' ∧ unit.topics = unit'.topics ∧
      unit.callbacks = unit'.callbacks ∧ SameClasses unit.classes unit'.classes := by
  obtain ⟨topics, defs, htopics, hdefs, hbound, rfl⟩ := compile_eq_ok.1 hunit
  obtain ⟨defs', hdefs', hsame⟩ := h.messages.compileMessages hdefs
  exact ⟨_, compile_eq_ok.2 ⟨topics, defs', h.channels.bindTopics htopics, hdefs',
    checkBound_rearranged h.messages hbound, rfl⟩, rfl, rfl, hsame⟩

/-- **The order of a specification decides where things are generated, and not what**: rearranged
specifications compile or fail together, with the same topics and handlers and, up to their order,
the same classes and fields. -/
theorem compile_rearranged {spec spec' : Spec} (h : spec.Rearranged spec')
    (options : CompileOptions) :
    ((∃ unit, (compile options spec).2 = .ok unit) ↔
      ∃ unit', (compile options spec').2 = .ok unit') ∧
      ∀ unit unit', (compile options spec).2 = .ok unit → (compile options spec').2 = .ok unit' →
        unit.topics = unit'.topics ∧ unit.callbacks = unit'.callbacks ∧
          SameClasses unit.classes unit'.classes := by
  refine ⟨⟨?_, ?_⟩, fun unit unit' hunit hunit' => ?_⟩
  · rintro ⟨unit, hunit⟩
    obtain ⟨unit', hunit', -⟩ := exists_compile_of_rearranged h hunit
    exact ⟨unit', hunit'⟩
  · rintro ⟨unit', hunit'⟩
    obtain ⟨unit, hunit, -⟩ := exists_compile_of_rearranged h.symm hunit'
    exact ⟨unit, hunit⟩
  · obtain ⟨_, hcompiled, hsame⟩ := exists_compile_of_rearranged h hunit
    cases hunit'.symm.trans hcompiled
    exact hsame

/-- A specification with two messages, one of them with an object inside its payload. -/
def plantSpec : Spec where
  asyncapi := "2.6.0"
  info := ⟨"Plant", "1.0.0", ""⟩
  channels := [⟨"plant/valve", "", some ⟨"", "#/components/messages/Valve"⟩, none⟩,
    ⟨"plant/pump", "", none, some ⟨"", "#/components/messages/Pump"⟩⟩]
  messages := [
    ⟨"Valve", "", "", .object ""
      [("state", .string "" ["open", "shut"]),
        ("limits", .object "" [("low", .boolean ""), ("high", .boolean "")] ["low", "high"] true)]
      ["state", "limits"] true⟩,
    ⟨"Pump", "", "", .object "" [("running", .boolean "")] [] true⟩]

/-- The same specification, with every list in the other order. -/
def plantSpecReversed : Spec where
  asyncapi := "2.6.0"
  info := ⟨"Plant", "1.0.0", ""⟩
  channels := [⟨"plant/pump", "", none, some ⟨"", "#/components/messages/Pump"⟩⟩,
    ⟨"plant/valve", "", some ⟨"", "#/components/messages/Valve"⟩, none⟩]
  messages := [
    ⟨"Pump", "", "", .object "" [("running", .boolean "")] [] true⟩,
    ⟨"Valve", "", "", .object ""
      [("limits", .object "" [("high", .boolean ""), ("low", .boolean "")] ["high", "low"] true),
        ("state", .string "" ["open", "shut"])]
      ["limits", "state"] true⟩]

theorem plantSpec_rearranged : plantSpec.Rearranged plantSpecReversed where
  asyncapi := rfl
  info := rfl
  channels := .of_perm (.swap _ _ _) (by decide)
  messages := by
    refine ⟨_, .swap _ _ _,
      .cons ⟨rfl, rfl, rfl, .refl _⟩ (.cons ⟨rfl, rfl, rfl, .object ?_ (.swap _ _ _)⟩ .nil)⟩
    exact .trans (.swap _ _ _) (.cons (.object (.swap _ _ _) (.swap _ _ _)) (.cons (.refl _) .nil))

theorem compile_rearranged_plantSpec : ∃ unit unit', (compile ⟨1, false⟩ plantSpec).2 = .ok unit ∧
    (compile ⟨1, false⟩ plantSpecReversed).2 = .ok unit' ∧
    unit.classes.map (·.name) = ["ValveLimits", "Valve", "Pump"] ∧
    unit'.classes.map (·.name) = ["Pump", "ValveLimits", "Valve"] ∧
    unit.topics = unit'.topics ∧ unit.callbacks = unit'.callbacks ∧
      SameClasses unit.classes unit'.classes := by
  have hnames : ((compile ⟨1, false⟩ plantSpec).2.toOption.map fun u => u.classes.map (·.name)) =
      some ["ValveLimits", "Valve", "Pump"] := by decide +kernel
  have hnames' :
      ((compile ⟨1, false⟩ plantSpecReversed).2.toOption.map fun u => u.classes.map (·.name)) =
      some ["Pump", "ValveLimits", "Valve"] := by decide +kernel
  obtain ⟨unit, hunit, hnames⟩ := Option.map_eq_some_iff.1 hnames
  obtain ⟨unit', hunit', hnames'⟩ := Option.map_eq_some_iff.1 hnames'
  have hok := Except.toOption_eq_some_iff.1 hunit
  have hok' := Except.toOption_eq_some_iff.1 hunit'
  exact ⟨unit, unit', hok, hok', hnames, hnames',
    (compile_rearranged plantSpec_rearranged ⟨1, false⟩).2 unit unit' hok hok'⟩

end PayloadGen
