import Mathlib.Data.List.Duplicate
import Mathlib.Data.List.Induction
import PayloadGen.Proofs.Dict
import PayloadGen.Proofs.Payload.Resolve

/-!
# Which specifications compile

`Spec.Compilable` says, without running the compiler, which specifications compile: every channel
carries a message, every payload is a closed object of supported parts, no two objects give their
classes one name, and every topic carries a message that the specification holds. `Spec.FirstFault`
says which error a specification that does not compile is refused with.

The conditions on payloads are read off the list of all violations in the order of a walk through
the schema (`Schema.violations`): compiling fails with the first of them (`Schema.error?_resolve`),
and there is none exactly when the schema is compilable (`Schema.violations_eq_nil_iff`). The main
result is `compile_ok_iff_compilable`.
-/

namespace PayloadGen

/-! ## Sentinels -/

/-- The kinds of faults that callers can tell apart. -/
inductive Sentinel
  | unsupportedSchemaType
  | invalidSchemaShape
  | missingDirection
  | missingMessageRef
  | nameCollision
  | unknownMessage
  deriving DecidableEq

/-- The text of a sentinel, with which the text of every error of its kind ends. -/
def Sentinel.text : Sentinel → String
  | unsupportedSchemaType => "unsupported schema type"
  | invalidSchemaShape => "invalid schema shape"
  | missingDirection => "publish or subscribe not found"
  | missingMessageRef => "message reference not found"
  | nameCollision => "class name collision"
  | unknownMessage => "unknown message"

namespace CompileError

/-- The sentinel of an error. A cancelled run has none. -/
def sentinel? : CompileError → Option Sentinel
  | unsupportedType .. | missingSchema .. => some .unsupportedSchemaType
  | notAnObject .. | openObject .. | negativeCount .. => some .invalidSchemaShape
  | missingDirection .. => some .missingDirection
  | missingMessageRef .. => some .missingMessageRef
  | nameCollision .. => some .nameCollision
  | unknownMessage .. => some .unknownMessage
  | inMessage _ cause => cause.sentinel?
  | canceled => none

/-- An error of an unsupported type or of an invalid shape. -/
def IsSchemaFault (e : CompileError) : Prop :=
  e.sentinel? = some .unsupportedSchemaType ∨ e.sentinel? = some .invalidSchemaShape

theorem exists_place {front back text : String} (rest : String) (h : back = rest ++ ": " ++ text) :
    ∃ place, front ++ back = place ++ ": " ++ text :=
  ⟨front ++ rest, by simp only [h, String.append_assoc]⟩

/-- The text of an error ends with that of its sentinel. -/
theorem message_eq_append_sentinel (e : CompileError) {s : Sentinel} (h : e.sentinel? = some s) :
    ∃ place, e.message = place ++ ": " ++ s.text := by
  induction e with
  | inMessage m cause ih =>
    obtain ⟨place, hplace⟩ := ih h
    exact ⟨"message " ++ Text.quote m ++ ": " ++ place, by
      simp only [message, hplace, String.append_assoc]⟩
  | notAnObject className found =>
    cases h
    exact exists_place ", want an object" (by decide)
  | openObject className =>
    cases h
    exact exists_place ": additionalProperties must be false" (by decide)
  | nameCollision className =>
    cases h
    exact exists_place " is derived more than once" (by decide)
  | missingSchema parent property =>
    cases h
    exact exists_place ": <nil>" (by decide)
  | canceled => cases h
  | _ =>
    cases h
    exact exists_place "" (by decide)

end CompileError

/-! ## Payloads -/

namespace Schema

/-- The counts of an array ask for one negative number of items. -/
def NegativeLength (least greatest : Option Int) : Prop :=
  ∃ n < 0, least = some n ∧ greatest = some n

/-- The schemas that may stand at a property. -/
inductive Compilable : Schema → Prop
  | string (description : String) (literals : List String) :
      Compilable (.string description literals)
  | number (description : String) (rule : NumberRule) : Compilable (.number description rule)
  | boolean (description : String) : Compilable (.boolean description)
  | object {description : String} {properties : List (String × Schema)} {required : List String}
      (hproperties : ∀ p ∈ properties, Compilable p.2) :
      Compilable (.object description properties required true)
  | array {description : String} {items : Schema} {least greatest : Option Int}
      (hitems : Compilable items) (hlength : ¬NegativeLength least greatest) :
      Compilable (.array description items least greatest)

/-- The schemas that may be the payload of a message: closed objects of compilable properties. -/
def IsPayload (s : Schema) : Prop :=
  ∃ description properties required, s = .object description properties required true ∧
    ∀ p ∈ properties, Compilable p.2

/-- The violation of a class whose schema admits further properties. -/
def openViolations (name : String) (closed : Bool) : List CompileError :=
  if closed then [] else [.openObject name]

/-- The violation of an array that must have a negative number of items. -/
def lengthViolations (parent property : String) (least greatest : Option Int) : List CompileError :=
  match fixedLength? least greatest with
  | some n => if n < 0 then [.negativeCount parent property n] else []
  | none => []

mutual

/-- All violations in a schema at a property of a class, in the order of a walk that visits an
object before its properties, these as declared, and an array after its items. -/
def violations (parent property : String) : Schema → List CompileError
  | .string .. | .number .. | .boolean .. => []
  | .object _ properties _ closed =>
    let name := Name.nestedClass parent property
    openViolations name closed ++ propertyViolations name properties
  | .array _ items least greatest =>
    items.violations parent property ++ lengthViolations parent property least greatest
  | .unknown _ tag => [.unsupportedType parent property tag]
  | .absent => [.missingSchema parent property]

/-- All violations in the properties of a class. -/
def propertyViolations (parent : String) : List (String × Schema) → List CompileError
  | [] => []
  | (property, s) :: rest => s.violations parent property ++ propertyViolations parent rest

end

/-- All violations in a payload whose class has a name. -/
def payloadViolations (name : String) : Schema → List CompileError
  | .object _ properties _ closed =>
    openViolations name closed ++ propertyViolations name properties
  | s => [.notAnObject name s.kindName]

theorem isSchemaFault_of_mem_openViolations {name : String} {closed : Bool} {e : CompileError}
    (h : e ∈ openViolations name closed) : e.IsSchemaFault := by
  cases closed with
  | true => simp [openViolations] at h
  | false => exact List.mem_singleton.1 h ▸ .inr rfl

theorem isSchemaFault_of_mem_lengthViolations {parent property : String}
    {least greatest : Option Int} {e : CompileError}
    (h : e ∈ lengthViolations parent property least greatest) : e.IsSchemaFault := by
  unfold lengthViolations at h
  split at h
  · split at h
    · exact List.mem_singleton.1 h ▸ .inr rfl
    · cases h
  · cases h

theorem lengthViolations_eq_nil_iff {parent property : String} {least greatest : Option Int} :
    lengthViolations parent property least greatest = [] ↔ ¬NegativeLength least greatest := by
  unfold lengthViolations NegativeLength fixedLength?
  cases least with
  | none => simp
  | some a =>
    cases greatest with
    | none => simp
    | some b =>
      by_cases hab : a = b
      · simp [hab]
      · simp only [hab, if_false, Option.some.injEq, true_iff]
        rintro ⟨n, -, rfl, rfl⟩
        exact hab rfl

theorem openViolations_eq_nil_iff {name : String} {closed : Bool} :
    openViolations name closed = [] ↔ closed = true := by
  cases closed <;> simp [openViolations]

mutual

/-- A schema without violations is compilable. -/
theorem violations_eq_nil_iff : ∀ (s : Schema) {parent property : String},
    s.violations parent property = [] ↔ s.Compilable
  | .string _ _, _, _ => ⟨fun _ => .string _ _, fun _ => by rw [violations]⟩
  | .number _ _, _, _ => ⟨fun _ => .number _ _, fun _ => by rw [violations]⟩
  | .boolean _, _, _ => ⟨fun _ => .boolean _, fun _ => by rw [violations]⟩
  | .object _ properties _ closed, parent, property => by
    rw [violations, List.append_eq_nil_iff, openViolations_eq_nil_iff,
      propertyViolations_eq_nil_iff properties]
    constructor
    · rintro ⟨rfl, h⟩
      exact .object h
    · intro h
      cases h with
      | object h => exact ⟨rfl, h⟩
  | .array _ items _ _, parent, property => by
    rw [violations, List.append_eq_nil_iff, lengthViolations_eq_nil_iff,
      violations_eq_nil_iff items]
    constructor
    · rintro ⟨hitems, hlength⟩
      exact .array hitems hlength
    · intro h
      cases h with
      | array hitems hlength => exact ⟨hitems, hlength⟩
  | .unknown _ _, _, _ => by
    simp only [violations, List.cons_ne_nil, false_iff]
    rintro ⟨⟩
  | .absent, _, _ => by
    simp only [violations, List.cons_ne_nil, false_iff]
    rintro ⟨⟩

theorem propertyViolations_eq_nil_iff : ∀ (properties : List (String × Schema)) {parent : String},
    propertyViolations parent properties = [] ↔ ∀ p ∈ properties, p.2.Compilable
  | [], _ => by simp [propertyViolations]
  | (property, s) :: rest, parent => by
    rw [propertyViolations, List.append_eq_nil_iff, violations_eq_nil_iff s,
      propertyViolations_eq_nil_iff rest, List.forall_mem_cons]

end

mutual

/-- Every violation in a schema is of an unsupported type or of an invalid shape. -/
theorem isSchemaFault_of_mem_violations :
    ∀ (s : Schema) {parent property : String} {e : CompileError},
    e ∈ s.violations parent property → e.IsSchemaFault
  | .string _ _, _, _, _, h => by simp [violations] at h
  | .number _ _, _, _, _, h => by simp [violations] at h
  | .boolean _, _, _, _, h => by simp [violations] at h
  | .object _ properties _ closed, _, _, _, h => by
    rw [violations, List.mem_append] at h
    exact h.elim isSchemaFault_of_mem_openViolations
      (isSchemaFault_of_mem_propertyViolations properties)
  | .array _ items _ _, _, _, _, h => by
    rw [violations, List.mem_append] at h
    exact h.elim (isSchemaFault_of_mem_violations items) isSchemaFault_of_mem_lengthViolations
  | .unknown _ _, _, _, _, h => by
    rw [violations, List.mem_singleton] at h
    exact h ▸ .inl rfl
  | .absent, _, _, _, h => by
    rw [violations, List.mem_singleton] at h
    exact h ▸ .inl rfl

theorem isSchemaFault_of_mem_propertyViolations : ∀ (properties : List (String × Schema))
    {parent : String} {e : CompileError}, e ∈ propertyViolations parent properties → e.IsSchemaFault
  | [], _, _, h => by simp [propertyViolations] at h
  | (_, s) :: rest, _, _, h => by
    rw [propertyViolations, List.mem_append] at h
    exact h.elim (isSchemaFault_of_mem_violations s) (isSchemaFault_of_mem_propertyViolations rest)

end

theorem isSchemaFault_of_mem_payloadViolations {s : Schema} {name : String} {e : CompileError}
    (h : e ∈ s.payloadViolations name) : e.IsSchemaFault := by
  cases s with
  | object description properties required closed =>
    rw [payloadViolations, List.mem_append] at h
    exact h.elim isSchemaFault_of_mem_openViolations
      (isSchemaFault_of_mem_propertyViolations properties)
  | _ =>
    rw [payloadViolations, List.mem_singleton] at h
    · exact h ▸ .inr rfl
    · simp

theorem payloadViolations_eq_nil_iff {s : Schema} {name : String} :
    s.payloadViolations name = [] ↔ s.IsPayload := by
  cases s with
  | object description properties required closed =>
    rw [payloadViolations, List.append_eq_nil_iff, openViolations_eq_nil_iff,
      propertyViolations_eq_nil_iff]
    constructor
    · rintro ⟨rfl, h⟩
      exact ⟨_, _, _, rfl, h⟩
    · rintro ⟨_, _, _, heq, h⟩
      cases heq
      exact ⟨rfl, h⟩
  | _ => simp [payloadViolations, IsPayload]

theorem error?_declare (name : String) (closed : Bool)
    (parts : Except CompileError (List Field × List ClassDef)) :
    (declare name closed parts).error? = (openViolations name closed).head?.or parts.error? := by
  cases closed with
  | false => rfl
  | true => simp [declare, openViolations]

mutual

/-- A schema is refused with the first of its violations. -/
theorem error?_resolve : ∀ (s : Schema) {parent property : String} {nested : Bool},
    (s.resolve property parent nested).error? = (s.violations parent property).head?
  | .string _ [], _, _, _ => by rw [resolve, violations]; rfl
  | .string _ (_ :: _), _, _, _ => by rw [resolve, violations]; rfl
  | .number _ _, _, _, _ => by rw [resolve, violations]; rfl
  | .boolean _, _, _, _ => by rw [resolve, violations]; rfl
  | .object _ properties required closed, parent, property, nested => by
    rw [resolve, violations, List.head?_append, ← error?_resolveProperties properties,
      ← error?_declare]
    exact (Except.error?_bind fun _ _ => Except.error?_ok _).trans Option.or_none
  | .array _ items least greatest, parent, property, nested => by
    rw [resolve, violations, List.head?_append, ← error?_resolve items]
    refine Except.error?_bind fun a _ => ?_
    unfold lengthViolations
    cases fixedLength? least greatest with
    | none => rfl
    | some n =>
      by_cases hn : n < 0
      · simp [hn, Option.filter_some]
      · simp [hn, Option.filter_some]
  | .unknown _ _, _, _, _ => by rw [resolve, violations]; rfl
  | .absent, _, _, _ => by rw [resolve, violations]; rfl

theorem error?_resolveProperties : ∀ (properties : List (String × Schema)) {parent : String}
    {required : List String},
    (resolveProperties parent required properties).error? =
      (propertyViolations parent properties).head?
  | [], _, _ => by rw [resolveProperties_nil, propertyViolations]; rfl
  | (property, s) :: rest, parent, required => by
    rw [resolveProperties, propertyViolations, List.head?_append, ← error?_resolve s,
      ← error?_resolveProperties rest]
    refine Except.error?_bind fun a _ => ?_
    exact (Except.error?_bind fun _ _ => Except.error?_ok _).trans Option.or_none

end

theorem error?_classes (s : Schema) (name : String) :
    (s.classes name).error? = (s.payloadViolations name).head? := by
  cases s with
  | object description properties required closed =>
    rw [classes, payloadViolations, error?_declare, error?_resolveProperties, List.head?_append]
  | _ => rfl

/-! ## Class names -/

mutual

/-- The names of the classes of all objects in a schema at a property of a class. -/
def classNames (parent property : String) : Schema → List String
  | .object _ properties _ _ =>
    let name := Name.nestedClass parent property
    name :: propertyClassNames name properties
  | .array _ items _ _ => items.classNames parent property
  | _ => []

/-- The names of the classes of all objects in the properties of a class. -/
def propertyClassNames (parent : String) : List (String × Schema) → List String
  | [] => []
  | (property, s) :: rest => s.classNames parent property ++ propertyClassNames parent rest

end

/-- The names of the classes of all objects in a payload whose own class has a name. -/
def payloadClassNames (name : String) : Schema → List String
  | .object _ properties _ _ => name :: propertyClassNames name properties
  | _ => []

theorem classNames_of_scalarType {s : Schema} {nested : Bool} {type : FieldType}
    (h : s.scalarType? nested = some type) (parent property : String) :
    s.classNames parent property = [] := by
  unfold scalarType? at h
  split at h <;> cases h <;> rw [classNames] <;> simp

/-- Every object of a schema gives one class. -/
theorem names_perm_induction : ResolveInduction
    (fun property parent _ s _ defs => (defs.map (·.name)).Perm (s.classNames parent property))
    (fun parent _ properties _ hoisted =>
      (hoisted.map (·.name)).Perm (propertyClassNames parent properties)) where
  scalar h := by
    rw [classNames_of_scalarType h]
    exact .nil
  object h := by
    rw [classNames, List.map_append, List.map_singleton]
    exact (List.perm_append_singleton _ _).trans (h.cons _)
  array _ h := by
    rw [classNames]
    exact h
  nil := by simp [propertyClassNames]
  cons h hrest := by
    rw [propertyClassNames, List.map_append]
    -- the group of a property stands after those of the properties below it
    exact List.perm_append_comm.trans (h.append hrest)

theorem classes_names_perm {s : Schema} {name : String} {defs : List ClassDef}
    (h : s.classes name = .ok defs) : (defs.map (·.name)).Perm (s.payloadClassNames name) := by
  obtain ⟨_, properties, _, fields, hoisted, rfl, hparts, rfl⟩ := classes_eq_ok.1 h
  rw [payloadClassNames, List.map_append, List.map_singleton]
  exact (List.perm_append_singleton _ _).trans
    ((names_perm_induction.resolveProperties properties hparts).cons _)

end Schema

/-- A name that is found repeated was seen before or occurs twice. -/
theorem duplicate_of_firstRepeated? {seen names : List String} {n : String}
    (h : firstRepeated? seen names = some n) :
    n ∈ seen ∧ n ∈ names ∨ List.Duplicate n names := by
  induction names generalizing seen with
  | nil => simp [firstRepeated?] at h
  | cons x names ih =>
    rw [firstRepeated?] at h
    split at h
    · rename_i hx
      cases h
      exact .inl ⟨by simpa using hx, List.mem_cons_self⟩
    · rcases ih h with ⟨hseen, hmem⟩ | hdup
      · rcases List.mem_cons.1 hseen with rfl | hseen
        · exact .inr hmem.duplicate_cons_self
        · exact .inl ⟨hseen, List.mem_cons_of_mem _ hmem⟩
      · exact .inr (hdup.duplicate_cons x)

theorem duplicate_perm {names names' : List String} (h : names.Perm names') {n : String} :
    List.Duplicate n names ↔ List.Duplicate n names' := by
  rw [List.duplicate_iff_two_le_count, List.duplicate_iff_two_le_count, h.count_eq]

theorem distinctClasses_eq_error {defs : List ClassDef} {e : CompileError}
    (h : distinctClasses defs = .error e) :
    ∃ n, e = .nameCollision n ∧ List.Duplicate n (defs.map (·.name)) := by
  unfold distinctClasses at h
  cases hrep : firstRepeated? [] (defs.map (·.name)) with
  | none => simp [hrep] at h
  | some n =>
    rw [hrep] at h
    cases h
    refine ⟨n, rfl, ?_⟩
    simpa using duplicate_of_firstRepeated? hrep

/-! ## Channels -/

namespace Channel

/-- The channel has an operation, and it names a message. -/
def Bound (c : Channel) : Prop :=
  ∃ op, c.operation? = some op ∧ op.messageRef ≠ ""

/-- What is wrong with a channel that is not bound. -/
def violation? (c : Channel) : Option CompileError :=
  match c.operation? with
  | none => some (.missingDirection c.topic)
  | some op => if op.messageRef = "" then some (.missingMessageRef c.topic) else none

theorem violation?_eq_none_iff {c : Channel} : c.violation? = none ↔ c.Bound := by
  unfold violation? Bound
  cases c.operation? with
  | none => simp
  | some op => simp

theorem error?_message (c : Channel) : c.message.error? = c.violation? := by
  rw [message, violation?]
  cases c.operation? with
  | none => rfl
  | some op => by_cases h : op.messageRef = "" <;> simp [h]

theorem message_eq_ok_iff {c : Channel} {name : String} :
    c.message = .ok name ↔
      ∃ op, c.operation? = some op ∧ op.messageRef ≠ "" ∧ Name.message op.messageRef = name := by
  rw [message]
  cases c.operation? with
  | none => simp
  | some op => by_cases h : op.messageRef = "" <;> simp [h]

end Channel

/-- The last channel of a topic. -/
def lastChannel? (channels : List Channel) (topic : String) : Option Channel :=
  channels.reverse.find? (·.topic == topic)

theorem lastChannel?_concat (channels : List Channel) (c : Channel) (topic : String) :
    lastChannel? (channels ++ [c]) topic =
      if c.topic = topic then some c else lastChannel? channels topic := by
  unfold lastChannel?
  rw [List.reverse_concat, List.find?_cons]
  by_cases h : c.topic = topic
  · simp [h]
  · have hbeq : (c.topic == topic) = false := by simpa using h
    rw [hbeq, if_neg h]

theorem bindTopics_concat (channels : List Channel) (c : Channel) :
    bindTopics (channels ++ [c]) =
      (bindTopics channels).bind fun topics => c.message.map (topics.insert c.topic) := by
  unfold bindTopics
  rw [List.foldlM_append]
  cases List.foldlM (fun (topics : Dict String) c => return topics.insert c.topic (← c.message))
    .empty
    channels with
  | error e => rfl
  | ok topics =>
    simp only [bind, Except.bind, List.foldlM_cons, List.foldlM_nil]
    cases c.message <;> rfl

theorem error?_bindTopics (channels : List Channel) :
    (bindTopics channels).error? = channels.findSome? Channel.violation? := by
  induction channels using List.reverseRecOn with
  | nil => rfl
  | append_singleton channels c ih =>
    rw [bindTopics_concat, List.findSome?_append, ← ih]
    refine Except.error?_bind fun topics _ => ?_
    rw [Except.error?_map, Channel.error?_message]
    cases h : c.violation? <;> simp [h]

/-- Binding fails at the first channel that is not bound. -/
theorem bindTopics_eq_error_iff {channels : List Channel} {e : CompileError} :
    bindTopics channels = .error e ↔
      ∃ before c after, channels = before ++ c :: after ∧ c.violation? = some e ∧
        ∀ x ∈ before, x.Bound := by
  rw [← Except.error?_eq_some_iff, error?_bindTopics, List.findSome?_eq_some_iff]
  simp only [Channel.violation?_eq_none_iff]

/-- The topics that are bound, each to the message of its last channel. -/
theorem mem_of_bindTopics {channels : List Channel} {topics : Dict String}
    (h : bindTopics channels = .ok topics) (topic name : String) :
    (topic, name) ∈ topics.entries ↔
      ∃ c op, lastChannel? channels topic = some c ∧ c.operation? = some op ∧
        Name.message op.messageRef = name := by
  induction channels using List.reverseRecOn generalizing topics with
  | nil =>
    cases h
    simp [lastChannel?, Dict.empty]
  | append_singleton channels c ih =>
    rw [bindTopics_concat, Except.bind_eq_ok_iff] at h
    obtain ⟨topics', htopics', h⟩ := h
    obtain ⟨name', hname', rfl⟩ := Except.map_eq_ok_iff.1 h
    obtain ⟨op', hop', -, rfl⟩ := Channel.message_eq_ok_iff.1 hname'
    rw [Dict.insert, topics'.ascending.mem_insert_iff, ih htopics', lastChannel?_concat]
    by_cases htopic : c.topic = topic
    · subst htopic
      simp [hop', eq_comm]
    · simp [htopic, Ne.symm htopic]

/-! ## Specifications -/

/-- The names of the classes of all objects in all messages. -/
def Spec.classNames (spec : Spec) : List String :=
  spec.messages.flatMap fun m => m.payload.payloadClassNames m.name

/-- The specifications that compile. -/
structure Spec.Compilable (spec : Spec) : Prop where
  bound : ∀ c ∈ spec.channels, c.Bound
  payloads : ∀ m ∈ spec.messages, m.payload.IsPayload
  names : spec.classNames.Nodup
  topics : ∀ topic c op, lastChannel? spec.channels topic = some c → c.operation? = some op →
    ∃ m ∈ spec.messages, m.name = Name.message op.messageRef

/-- The error that a specification is refused with: it belongs to the first group of conditions of
`Spec.Compilable` that is violated, and in this group to the first violation. -/
inductive Spec.FirstFault (spec : Spec) : CompileError → Prop
  /-- The first channel that is not bound. -/
  | channel {before after : List Channel} {c : Channel} {e : CompileError}
      (hsplit : spec.channels = before ++ c :: after) (hc : c.violation? = some e)
      (hbefore : ∀ x ∈ before, x.Bound) : FirstFault spec e
  /-- The first violation in the first message that is not a payload. -/
  | payload {before after : List Message} {m : Message} {cause : CompileError}
      (hbound : ∀ c ∈ spec.channels, c.Bound) (hsplit : spec.messages = before ++ m :: after)
      (hcause : (m.payload.payloadViolations m.name).head? = some cause)
      (hbefore : ∀ x ∈ before, x.payload.IsPayload) : FirstFault spec (.inMessage m.name cause)
  /-- A class name that is derived twice. -/
  | name {n : String} (hbound : ∀ c ∈ spec.channels, c.Bound)
      (hpayloads : ∀ m ∈ spec.messages, m.payload.IsPayload)
      (hn : List.Duplicate n spec.classNames) : FirstFault spec (.nameCollision n)
  /-- A topic whose last channel carries no message of the specification. -/
  | topic {topic : String} {c : Channel} {op : Operation} (hbound : ∀ c ∈ spec.channels, c.Bound)
      (hpayloads : ∀ m ∈ spec.messages, m.payload.IsPayload) (hnames : spec.classNames.Nodup)
      (hlast : lastChannel? spec.channels topic = some c) (hop : c.operation? = some op)
      (hunknown : ∀ m ∈ spec.messages, m.name ≠ Name.message op.messageRef) :
      FirstFault spec (.unknownMessage topic (Name.message op.messageRef))

theorem Message.classes_eq_error_iff {m : Message} {e : CompileError} :
    m.classes = .error e ↔ ∃ cause, (m.payload.payloadViolations m.name).head? = some cause ∧
      e = .inMessage m.name cause := by
  rw [← Schema.error?_classes]
  unfold Message.classes
  cases m.payload.classes m.name with
  | ok defs => simp [Except.mapError]
  | error cause => simp [Except.mapError, eq_comm]

theorem Schema.exists_classes_eq_ok_iff {s : Schema} {name : String} :
    (∃ defs, s.classes name = .ok defs) ↔ s.IsPayload := by
  rw [← Except.error?_eq_none_iff, error?_classes, List.head?_eq_none_iff,
    payloadViolations_eq_nil_iff]

theorem bound_of_bindTopics {channels : List Channel} {topics : Dict String}
    (h : bindTopics channels = .ok topics) : ∀ c ∈ channels, c.Bound := by
  have hnone := Except.error?_eq_none_iff.2 ⟨topics, h⟩
  rw [error?_bindTopics, List.findSome?_eq_none_iff] at hnone
  exact fun c hc => Channel.violation?_eq_none_iff.1 (hnone c hc)

theorem flatten_names_perm {messages : List Message} {groups : List (List ClassDef)}
    (h : List.Forall₂ (fun m g => m.payload.classes m.name = .ok g) messages groups) :
    (groups.flatten.map (·.name)).Perm
      (messages.flatMap fun m => m.payload.payloadClassNames m.name) := by
  induction h with
  | nil => exact .nil
  | cons hm _ ih =>
    rw [List.flatten_cons, List.map_append, List.flatMap_cons]
    exact (Schema.classes_names_perm hm).append ih

theorem isPayload_of_forall₂ {messages : List Message} {groups : List (List ClassDef)}
    (h : List.Forall₂ (fun m g => m.payload.classes m.name = .ok g) messages groups) :
    ∀ m ∈ messages, m.payload.IsPayload := by
  intro m hm
  obtain ⟨group, -, hclasses⟩ := exists_right_of_forall₂ h hm
  exact Schema.exists_classes_eq_ok_iff.1 ⟨group, hclasses⟩

/-- An error of the compilation belongs to the first group that is violated. -/
theorem firstFault_of_compile_eq_error {workers : Int} {spec : Spec} {e : CompileError}
    (h : (compile ⟨workers, false⟩ spec).2 = .error e) : spec.FirstFault e := by
  rcases compile_eq_error_iff.1 h with hbind | ⟨topics, htopics, h⟩
  · obtain ⟨before, c, after, hsplit, hc, hbefore⟩ := bindTopics_eq_error_iff.1 hbind
    exact .channel hsplit hc hbefore
  have hbound := bound_of_bindTopics htopics
  rcases h with hmessages | ⟨defs, hdefs, hcheck⟩
  · rcases (compileMessages_eq_error_iff rfl).1 hmessages with
      ⟨before, m, after, hsplit, hbefore, hm⟩ | ⟨groups, hgroups, hdistinct⟩
    · obtain ⟨cause, hcause, rfl⟩ := Message.classes_eq_error_iff.1 hm
      exact .payload hbound hsplit hcause fun x hx =>
        Schema.exists_classes_eq_ok_iff.1 (hbefore x hx)
    · obtain ⟨n, rfl, hn⟩ := distinctClasses_eq_error hdistinct
      exact .name hbound (isPayload_of_forall₂ hgroups)
        ((duplicate_perm (flatten_names_perm hgroups)).1 hn)
  · obtain ⟨-, hnodup, groups, hgroups, rfl⟩ := compileMessages_eq_ok.1 hdefs
    obtain ⟨topic, name, hmem, hunknown, rfl⟩ := checkBound_eq_error hcheck
    obtain ⟨c, op, hlast, hop, rfl⟩ := (mem_of_bindTopics htopics topic name).1 hmem
    exact .topic hbound (isPayload_of_forall₂ hgroups)
      ((flatten_names_perm hgroups).nodup_iff.1 hnodup) hlast hop hunknown

/-- What compiles meets all conditions. -/
theorem compilable_of_compile_eq_ok {workers : Int} {spec : Spec} {unit : CompiledUnit}
    (h : (compile ⟨workers, false⟩ spec).2 = .ok unit) : spec.Compilable := by
  obtain ⟨topics, defs, htopics, hdefs, hcheck, -⟩ := compile_eq_ok.1 h
  obtain ⟨-, hnodup, groups, hgroups, rfl⟩ := compileMessages_eq_ok.1 hdefs
  refine ⟨bound_of_bindTopics htopics, isPayload_of_forall₂ hgroups,
    (flatten_names_perm hgroups).nodup_iff.1 hnodup, fun topic c op hlast hop => ?_⟩
  have hmem := (mem_of_bindTopics htopics topic _).2 ⟨c, op, hlast, hop, rfl⟩
  exact checkBound_eq_ok.1 hcheck _ hmem

theorem Spec.FirstFault.exists_sentinel {spec : Spec} {e : CompileError} (h : spec.FirstFault e) :
    ∃ s, e.sentinel? = some s := by
  cases h with
  | @channel _ _ c _ _ hc _ =>
    unfold Channel.violation? at hc
    cases hop : c.operation? with
    | none =>
      rw [hop] at hc
      cases hc
      exact ⟨_, rfl⟩
    | some op =>
      by_cases href : op.messageRef = ""
      · simp only [hop, href, if_true] at hc
        cases hc
        exact ⟨_, rfl⟩
      · simp [hop, href] at hc
  | payload _ _ hcause _ =>
    have := Schema.isSchemaFault_of_mem_payloadViolations (List.mem_of_head? hcause)
    exact this.elim (fun h => ⟨_, h⟩) (fun h => ⟨_, h⟩)
  | name _ _ _ => exact ⟨_, rfl⟩
  | topic _ _ _ _ _ _ => exact ⟨_, rfl⟩

/-- A specification that meets all conditions has no fault. -/
theorem Spec.Compilable.not_firstFault {spec : Spec} (h : spec.Compilable) {e : CompileError} :
    ¬spec.FirstFault e := by
  intro hfault
  cases hfault with
  | @channel _ _ c _ hsplit hc _ =>
    have hbound := h.bound c (by simp [hsplit])
    rw [Channel.violation?_eq_none_iff.2 hbound] at hc
    cases hc
  | @payload _ _ m _ _ hsplit hcause _ =>
    have hpayload := h.payloads m (by simp [hsplit])
    rw [Schema.payloadViolations_eq_nil_iff.2 hpayload] at hcause
    cases hcause
  | name _ _ hn => exact hn.not_nodup h.names
  | topic _ _ _ hlast hop hunknown =>
    obtain ⟨m, hm, hname⟩ := h.topics _ _ _ hlast hop
    exact hunknown m hm hname

/-- **Exactly the compilable specifications compile**, whatever the number of workers, and any other
is refused with the error of its first fault, whose text ends with that of its sentinel. -/
theorem compile_ok_iff_compilable (workers : Int) (spec : Spec) :
    ((∃ unit, (compile ⟨workers, false⟩ spec).2 = .ok unit) ↔ spec.Compilable) ∧
      ∀ e, (compile ⟨workers, false⟩ spec).2 = .error e →
        spec.FirstFault e ∧
          ∃ s place, e.sentinel? = some s ∧ e.message = place ++ ": " ++ s.text := by
  refine ⟨⟨?_, ?_⟩, ?_⟩
  · rintro ⟨unit, hunit⟩
    exact compilable_of_compile_eq_ok hunit
  · intro h
    cases hresult : (compile ⟨workers, false⟩ spec).2 with
    | ok unit => exact ⟨unit, rfl⟩
    | error e => exact absurd (firstFault_of_compile_eq_error hresult) h.not_firstFault
  · intro e he
    have hfault := firstFault_of_compile_eq_error he
    obtain ⟨s, hs⟩ := hfault.exists_sentinel
    obtain ⟨place, hplace⟩ := e.message_eq_append_sentinel hs
    exact ⟨hfault, s, place, hs, hplace⟩

/-- A specification with faults of every group but the first: an unsupported type inside an array
that must have a negative number of items, an object that is not closed, two classes of one name and
a topic without a message. -/
def faultySpec : Spec where
  asyncapi := "2.6.0"
  info := ⟨"", "", ""⟩
  channels := [⟨"a", "", none, some ⟨"", "Missing"⟩⟩]
  messages := [⟨"Ok", "", "", .object "" [] [] true⟩, ⟨"Ok", "", "", .object ""
    [("x", .array "" (.unknown "" "null") (some (-1)) (some (-1))),
      ("y", .object "" [] [] false)] [] true⟩]

theorem compile_ok_iff_compilable_faultySpec :
    ¬faultySpec.Compilable ∧ (compile ⟨1, false⟩ faultySpec).2 =
      .error (.inMessage "Ok" (.unsupportedType "Ok" "x" "null")) ∧
      faultySpec.FirstFault (.inMessage "Ok" (.unsupportedType "Ok" "x" "null")) := by
  have herror : (compile ⟨1, false⟩ faultySpec).2 =
      .error (.inMessage "Ok" (.unsupportedType "Ok" "x" "null")) := rfl
  refine ⟨fun h => ?_, herror, ((compile_ok_iff_compilable 1 faultySpec).2 _ herror).1⟩
  obtain ⟨unit, hunit⟩ := (compile_ok_iff_compilable 1 faultySpec).1.2 h
  rw [herror] at hunit
  cases hunit

end PayloadGen
