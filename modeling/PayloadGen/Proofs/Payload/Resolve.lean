import PayloadGen.Payload.Compile
import PayloadGen.Proofs.Except

/-!
# What a successful compilation consists of

One inversion lemma per stage of the compilation of payloads. A success of a stage says what the
stages below it gave and how the result is put together, so later proofs take compilations apart by
these lemmas and unfold none of the definitions.

* `Schema.resolve_object_eq_ok`, `Schema.resolve_array_eq_ok` and
  `Schema.resolveProperties_cons_eq_ok` invert the recursion over schemas, and
  `Schema.classes_eq_ok` its start at a payload.
* `Schema.resolve_cases` lists the schemas that resolve at all, and `Schema.ResolveInduction` is the
  induction over them: a statement about types and classes is proved case by case from it.
* `compileMessages_eq_ok` says what the messages of a specification give, and `compile_eq_ok` what a
  whole specification gives.
-/

namespace PayloadGen

namespace Schema

/-! ## Objects and arrays -/

theorem declare_eq_ok {name : String} {closed : Bool}
    {parts : Except CompileError (List Field × List ClassDef)} {defs : List ClassDef} :
    declare name closed parts = .ok defs ↔
      closed = true ∧ ∃ fields hoisted, parts = .ok (fields, hoisted) ∧
        defs = hoisted ++ [⟨name, fields⟩] := by
  cases closed with
  | false => simp [declare]
  | true =>
    simp only [declare, if_true, Except.map_eq_ok_iff, true_and]
    constructor
    · rintro ⟨⟨fields, hoisted⟩, h, rfl⟩
      exact ⟨fields, hoisted, h, rfl⟩
    · rintro ⟨fields, hoisted, h, rfl⟩
      exact ⟨(fields, hoisted), h, rfl⟩

theorem resolve_object_eq_ok {property parent description : String} {nested closed : Bool}
    {properties : List (String × Schema)} {required : List String} {type : FieldType}
    {defs : List ClassDef} :
    resolve property parent nested (.object description properties required closed) =
        .ok (type, defs) ↔
      type = .plain (.ofClass (Name.nestedClass parent property)) ∧ closed = true ∧
        ∃ fields hoisted,
          resolveProperties (Name.nestedClass parent property) required properties =
            .ok (fields, hoisted) ∧
          defs = hoisted ++ [⟨Name.nestedClass parent property, fields⟩] := by
  rw [resolve]
  simp only [bind, Except.bind_eq_ok_iff, declare_eq_ok, Except.ok.injEq, Prod.mk.injEq]
  constructor
  · rintro ⟨_, h, rfl, rfl⟩
    exact ⟨rfl, h⟩
  · rintro ⟨rfl, h⟩
    exact ⟨defs, h, rfl, rfl⟩

theorem resolve_array_eq_ok {property parent description : String} {nested : Bool} {items : Schema}
    {least greatest : Option Int} {type : FieldType} {defs : List ClassDef} :
    resolve property parent nested (.array description items least greatest) = .ok (type, defs) ↔
      (∀ n, fixedLength? least greatest = some n → 0 ≤ n) ∧
        ∃ elem, resolve property parent true items = .ok (elem, defs) ∧
          type = .mk (arrayShape elem least greatest) [] false
            (arrayConstraint nested least greatest) := by
  rw [resolve]
  simp only [bind, Except.bind_eq_ok_iff, Prod.exists]
  cases hfixed : (fixedLength? least greatest).filter (· < 0) with
  | some n =>
    obtain ⟨hn, hneg⟩ := Option.filter_eq_some_iff.1 hfixed
    have hlength : ¬ ∀ n, fixedLength? least greatest = some n → 0 ≤ n :=
      fun h => absurd (h n hn) (Int.not_le.2 (of_decide_eq_true hneg))
    simp [hlength]
  | none =>
    have hlength : ∀ n, fixedLength? least greatest = some n → 0 ≤ n :=
      fun n hn => Int.not_lt.1 (by simpa using Option.filter_eq_none_iff.1 hfixed n hn)
    simp only [Except.ok.injEq, Prod.mk.injEq]
    constructor
    · rintro ⟨elem, _, h, rfl, rfl⟩
      exact ⟨hlength, elem, h, rfl⟩
    · rintro ⟨-, elem, h, rfl⟩
      exact ⟨elem, defs, h, rfl, rfl⟩

/-! ## All schemas -/

/-- The type of a schema without parts. -/
def scalarType? (nested : Bool) : Schema → Option FieldType
  | .string _ [] => some (.plain (.scalar .string))
  | .string _ (l :: ls) => some (.mk .literal (l :: ls) false none)
  | .number _ rule =>
    let kind := if rule.integral then .integer else .number
    some (.mk (.scalar kind) [] false (if nested then none else rule.constraint))
  | .boolean _ => some (.plain (.scalar .boolean))
  | _ => none

/-- What a schema may be whose resolution succeeds: one without parts, a closed object, or an
array. -/
theorem resolve_cases {property parent : String} {nested : Bool} {s : Schema} {type : FieldType}
    {defs : List ClassDef} (h : s.resolve property parent nested = .ok (type, defs)) :
    (s.scalarType? nested = some type ∧ defs = []) ∨
      (∃ description properties required fields hoisted,
        s = .object description properties required true ∧
        type = .plain (.ofClass (Name.nestedClass parent property)) ∧
        resolveProperties (Name.nestedClass parent property) required properties =
          .ok (fields, hoisted) ∧
        defs = hoisted ++ [⟨Name.nestedClass parent property, fields⟩]) ∨
      ∃ description items least greatest elem,
        s = .array description items least greatest ∧
        (∀ n, fixedLength? least greatest = some n → 0 ≤ n) ∧
        resolve property parent true items = .ok (elem, defs) ∧
        type = .mk (arrayShape elem least greatest) [] false
          (arrayConstraint nested least greatest) := by
  cases s with
  | string d literals =>
    cases literals <;> (rw [resolve] at h; cases h; exact .inl ⟨rfl, rfl⟩)
  | number d rule =>
    rw [resolve] at h
    cases h
    exact .inl ⟨rfl, rfl⟩
  | boolean d =>
    rw [resolve] at h
    cases h
    exact .inl ⟨rfl, rfl⟩
  | object d properties required closed =>
    obtain ⟨rfl, rfl, fields, hoisted, hparts, rfl⟩ := resolve_object_eq_ok.1 h
    exact .inr (.inl ⟨d, properties, required, fields, hoisted, rfl, rfl, hparts, rfl⟩)
  | array d items least greatest =>
    obtain ⟨hlength, elem, helem, rfl⟩ := resolve_array_eq_ok.1 h
    exact .inr (.inr ⟨d, items, least, greatest, elem, rfl, hlength, helem, rfl⟩)
  | unknown d tag =>
    rw [resolve] at h
    cases h
  | absent =>
    rw [resolve] at h
    cases h

/-! ## Properties -/

theorem resolveProperties_cons_eq_ok {parent property : String} {required : List String}
    {schema : Schema} {rest : List (String × Schema)} {fields : List Field}
    {hoisted : List ClassDef} :
    resolveProperties parent required ((property, schema) :: rest) = .ok (fields, hoisted) ↔
      ∃ type nested fields' hoisted', resolve property parent false schema = .ok (type, nested) ∧
        resolveProperties parent required rest = .ok (fields', hoisted') ∧
        fields = ⟨property, propertyType required property type, schema.description⟩ :: fields' ∧
        hoisted = hoisted' ++ nested := by
  rw [resolveProperties]
  simp only [bind, Except.bind_eq_ok_iff, Prod.exists, Except.ok.injEq, Prod.mk.injEq]
  constructor
  · rintro ⟨type, nested, h, fields', hoisted', h', rfl, rfl⟩
    exact ⟨type, nested, fields', hoisted', h, h', rfl, rfl⟩
  · rintro ⟨type, nested, fields', hoisted', h, h', rfl, rfl⟩
    exact ⟨type, nested, h, fields', hoisted', h', rfl, rfl⟩

theorem resolveProperties_nil {parent : String} {required : List String} :
    resolveProperties parent required [] = .ok ([], []) := by
  rw [resolveProperties]

/-! ## Induction on a resolution -/

/-- What has to be shown for a statement about resolved schemas, and one about resolved properties,
to hold of all of them: one case for each way in which a resolution succeeds. -/
structure ResolveInduction
    (ofSchema : (property parent : String) → (nested : Bool) → Schema → FieldType →
      List ClassDef → Prop)
    (ofProperties : (parent : String) → (required : List String) → List (String × Schema) →
      List Field → List ClassDef → Prop) : Prop where
  scalar : ∀ {property parent nested s type}, s.scalarType? nested = some type →
    ofSchema property parent nested s type []
  object : ∀ {property parent nested description properties required fields hoisted},
    ofProperties (Name.nestedClass parent property) required properties fields hoisted →
    ofSchema property parent nested (.object description properties required true)
      (.plain (.ofClass (Name.nestedClass parent property)))
      (hoisted ++ [⟨Name.nestedClass parent property, fields⟩])
  array : ∀ {property parent nested description items least greatest elem defs},
    (∀ n, fixedLength? least greatest = some n → 0 ≤ n) →
    ofSchema property parent true items elem defs →
    ofSchema property parent nested (.array description items least greatest)
      (.mk (arrayShape elem least greatest) [] false (arrayConstraint nested least greatest)) defs
  nil : ∀ {parent required}, ofProperties parent required [] [] []
  cons : ∀ {parent required property s rest type nested fields hoisted},
    ofSchema property parent false s type nested →
    ofProperties parent required rest fields hoisted →
    ofProperties parent required ((property, s) :: rest)
      (⟨property, propertyType required property type, s.description⟩ :: fields)
      (hoisted ++ nested)

mutual

theorem ResolveInduction.resolve {ofSchema ofProperties}
    (ind : ResolveInduction ofSchema ofProperties) :
    ∀ (s : Schema) {property parent : String} {nested : Bool} {type : FieldType}
      {defs : List ClassDef}, s.resolve property parent nested = .ok (type, defs) →
      ofSchema property parent nested s type defs
  | .object _ properties _ _, _, _, _, _, _, h => by
    obtain ⟨rfl, rfl, fields, hoisted, hparts, rfl⟩ := resolve_object_eq_ok.1 h
    exact ind.object (ind.resolveProperties properties hparts)
  | .array _ items _ _, _, _, _, _, _, h => by
    obtain ⟨hlength, elem, helem, rfl⟩ := resolve_array_eq_ok.1 h
    exact ind.array hlength (ind.resolve items helem)
  | .string d l, _, _, _, _, _, h | .number d l, _, _, _, _, _, h | .boolean d, _, _, _, _, _, h
  | .unknown d l, _, _, _, _, _, h | .absent, _, _, _, _, _, h => by
    rcases resolve_cases h with ⟨htype, rfl⟩ | ⟨_, _, _, _, _, hs, -⟩ | ⟨_, _, _, _, _, hs, -⟩
    · exact ind.scalar htype
    · cases hs
    · cases hs

theorem ResolveInduction.resolveProperties {ofSchema ofProperties}
    (ind : ResolveInduction ofSchema ofProperties) :
    ∀ (properties : List (String × Schema)) {parent : String} {required : List String}
      {fields : List Field} {hoisted : List ClassDef},
      Schema.resolveProperties parent required properties = .ok (fields, hoisted) →
      ofProperties parent required properties fields hoisted
  | [], _, _, _, _, h => by
    rw [resolveProperties_nil] at h
    cases h
    exact ind.nil
  | (property, s) :: rest, _, _, _, _, h => by
    obtain ⟨type, nested, fields, hoisted, htype, hrest, rfl, rfl⟩ :=
      resolveProperties_cons_eq_ok.1 h
    exact ind.cons (ind.resolve s htype) (ind.resolveProperties rest hrest)

end

theorem classes_eq_ok {name : String} {s : Schema} {defs : List ClassDef} :
    s.classes name = .ok defs ↔
      ∃ description properties required fields hoisted,
        s = .object description properties required true ∧
        resolveProperties name required properties = .ok (fields, hoisted) ∧
        defs = hoisted ++ [⟨name, fields⟩] := by
  cases s with
  | object description properties required closed =>
    simp only [classes, declare_eq_ok, Schema.object.injEq]
    constructor
    · rintro ⟨rfl, fields, hoisted, h, rfl⟩
      exact ⟨description, properties, required, fields, hoisted, ⟨rfl, rfl, rfl, rfl⟩, h, rfl⟩
    · rintro ⟨_, _, _, fields, hoisted, ⟨rfl, rfl, rfl, rfl⟩, h, rfl⟩
      exact ⟨rfl, fields, hoisted, h, rfl⟩
  | _ => simp [classes]

end Schema

/-! ## Messages -/

theorem Message.classes_eq_ok {m : Message} {defs : List ClassDef} :
    m.classes = .ok defs ↔ m.payload.classes m.name = .ok defs := by
  unfold Message.classes
  cases m.payload.classes m.name <;> simp [Except.mapError]

/-- A name list has no first repetition when its names are distinct and none was seen before. -/
theorem firstRepeated?_eq_none_iff {seen names : List String} :
    firstRepeated? seen names = none ↔ names.Nodup ∧ ∀ n ∈ names, n ∉ seen := by
  induction names generalizing seen with
  | nil => simp [firstRepeated?]
  | cons n names ih =>
    rw [firstRepeated?]
    by_cases hn : n ∈ seen
    · simp [hn]
    · simp only [List.contains_eq_mem, hn, decide_false, Bool.false_eq_true, if_false, ih,
        List.nodup_cons, List.mem_cons, not_or, forall_eq_or_imp]
      constructor
      · rintro ⟨hnodup, hnames⟩
        exact ⟨⟨fun h => (hnames n h).1 rfl, hnodup⟩, not_false, fun x hx => (hnames x hx).2⟩
      · rintro ⟨⟨hfresh, hnodup⟩, -, hseen⟩
        exact ⟨hnodup, fun x hx => ⟨fun h => hfresh (h ▸ hx), hseen x hx⟩⟩

/-- One message after the other gives what all of them give side by side. -/
theorem compileInTurn_snd (messages : List Message) :
    (compileInTurn messages).2 = (messages.mapM Message.classes).map List.flatten := by
  induction messages with
  | nil => rfl
  | cons m messages ih =>
    rw [compileInTurn, List.mapM_cons]
    cases m.classes with
    | error e => rfl
    | ok defs =>
      simp only [ih, bind, Except.bind, pure, Except.pure]
      cases messages.mapM Message.classes <;> rfl

theorem compileMessages_snd (options : CompileOptions) (messages : List Message) :
    (compileMessages options messages).2 =
      if options.canceled then .error .canceled
      else ((messages.mapM Message.classes).map List.flatten).bind distinctClasses := by
  unfold compileMessages
  by_cases hc : options.canceled = true
  · simp [hc]
  · by_cases hw : options.workers < 2
    · simp only [hc, hw, if_false, if_true, Bool.false_eq_true, compileInTurn_snd]
    · simp only [hc, hw, if_false, Bool.false_eq_true]
      rfl

theorem distinctClasses_eq_ok {defs defs' : List ClassDef} :
    distinctClasses defs = .ok defs' ↔ (defs.map (·.name)).Nodup ∧ defs = defs' := by
  unfold distinctClasses
  cases h : firstRepeated? [] (defs.map (·.name)) with
  | none => simpa using fun _ => (firstRepeated?_eq_none_iff.1 h).1
  | some n =>
    simp only [reduceCtorEq, false_iff, not_and]
    intro hnodup
    rw [firstRepeated?_eq_none_iff.2 ⟨hnodup, by simp⟩] at h
    exact absurd h (by simp)

theorem compileMessages_eq_ok {options : CompileOptions} {messages : List Message}
    {defs : List ClassDef} :
    (compileMessages options messages).2 = .ok defs ↔
      options.canceled = false ∧ (defs.map (·.name)).Nodup ∧
        ∃ groups, List.Forall₂ (fun m g => m.payload.classes m.name = .ok g) messages groups ∧
          defs = groups.flatten := by
  rw [compileMessages_snd]
  cases hc : options.canceled with
  | true => simp
  | false =>
    simp only [Bool.false_eq_true, if_false, Except.bind_eq_ok_iff, Except.map_eq_ok_iff,
      mapM_eq_ok_iff, distinctClasses_eq_ok, Message.classes_eq_ok, true_and]
    constructor
    · rintro ⟨_, ⟨groups, hgroups, rfl⟩, hnodup, rfl⟩
      exact ⟨hnodup, groups, hgroups, rfl⟩
    · rintro ⟨hnodup, groups, hgroups, rfl⟩
      exact ⟨_, ⟨groups, hgroups, rfl⟩, hnodup, rfl⟩

theorem compileMessages_eq_error_iff {options : CompileOptions} (h : options.canceled = false)
    {messages : List Message} {e : CompileError} :
    (compileMessages options messages).2 = .error e ↔
      (∃ before m after, messages = before ++ m :: after ∧
        (∀ x ∈ before, ∃ defs, x.payload.classes x.name = .ok defs) ∧ m.classes = .error e) ∨
      ∃ groups, List.Forall₂ (fun m g => m.payload.classes m.name = .ok g) messages groups ∧
        distinctClasses groups.flatten = .error e := by
  rw [compileMessages_snd]
  simp only [h, Bool.false_eq_true, if_false, Except.bind_eq_error_iff, Except.map_eq_error_iff,
    Except.map_eq_ok_iff, mapM_eq_error_iff, mapM_eq_ok_iff, Message.classes_eq_ok]
  refine or_congr_right ⟨?_, ?_⟩
  · rintro ⟨_, ⟨groups, hgroups, rfl⟩, herror⟩
    exact ⟨groups, hgroups, herror⟩
  · rintro ⟨groups, hgroups, herror⟩
    exact ⟨_, ⟨groups, hgroups, rfl⟩, herror⟩

/-! ## Specifications -/

theorem checkBound_eq_ok {messages : List Message} {topics : Dict String} :
    checkBound messages topics = .ok () ↔ ∀ e ∈ topics.entries, ∃ m ∈ messages, m.name = e.2 := by
  unfold checkBound
  cases h : List.find? (fun t : String × String => !messages.any (·.name == t.2))
    topics.entries with
  | none =>
    simp only [true_iff]
    intro e he
    simpa using List.find?_eq_none.1 h e he
  | some e =>
    simp only [reduceCtorEq, false_iff, not_forall]
    refine ⟨e, List.mem_of_find?_eq_some h, ?_⟩
    simpa using List.find?_some h

theorem checkBound_eq_error {messages : List Message} {topics : Dict String} {e : CompileError}
    (h : checkBound messages topics = .error e) :
    ∃ topic name, (topic, name) ∈ topics.entries ∧ (∀ m ∈ messages, m.name ≠ name) ∧
      e = .unknownMessage topic name := by
  unfold checkBound at h
  cases hfind : List.find? (fun t : String × String => !messages.any (·.name == t.2))
    topics.entries with
  | none => simp [hfind] at h
  | some entry =>
    obtain ⟨topic, name⟩ := entry
    rw [hfind] at h
    cases h
    exact ⟨topic, name, List.mem_of_find?_eq_some hfind, by simpa using List.find?_some hfind, rfl⟩

theorem compile_eq_ok {options : CompileOptions} {spec : Spec} {unit : CompiledUnit} :
    (compile options spec).2 = .ok unit ↔
      ∃ topics defs, bindTopics spec.channels = .ok topics ∧
        (compileMessages options spec.messages).2 = .ok defs ∧
        checkBound spec.messages topics = .ok () ∧
        unit = ⟨spec.info.title, spec.info.version, defs, topics,
          callbacks (payloadClasses topics)⟩ := by
  unfold compile
  cases bindTopics spec.channels with
  | error e => simp
  | ok topics =>
    rcases compileMessages options spec.messages with ⟨log, e | defs⟩
    · simp
    · cases hb : checkBound spec.messages topics with
      | error e => simp [hb]
      | ok _ => simp [hb, eq_comm]

theorem compile_eq_error_iff {options : CompileOptions} {spec : Spec} {e : CompileError} :
    (compile options spec).2 = .error e ↔
      bindTopics spec.channels = .error e ∨
        ∃ topics, bindTopics spec.channels = .ok topics ∧
          ((compileMessages options spec.messages).2 = .error e ∨
            ∃ defs, (compileMessages options spec.messages).2 = .ok defs ∧
              checkBound spec.messages topics = .error e) := by
  unfold compile
  cases bindTopics spec.channels with
  | error e' => simp
  | ok topics =>
    rcases compileMessages options spec.messages with ⟨log, e' | defs⟩
    · simp
    · cases hb : checkBound spec.messages topics with
      | error e' => simp [hb]
      | ok _ => simp [hb]

end PayloadGen
