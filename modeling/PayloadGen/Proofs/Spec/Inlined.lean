import PayloadGen.Proofs.Reference.Expanded
import PayloadGen.Proofs.Spec.Moved
import PayloadGen.Proofs.Yaml.InlinedDecode

/-!
# Aliases are transparent

A document may use aliases, or copies of the nodes that they stand for. The specification that is
read is the same, and what cannot be read cannot be read from either (`Spec.ofDocument_inlined`).
There are places where this fails, since the node that is there is looked at and an alias is not
followed: the channels, the components, and the messages in them, and the two kinds of values that
`Inlinable` leaves as they are. A document in which most of what is read is read through aliases is
refused, which says nothing about copies.
-/

namespace PayloadGen

open Yaml

/-- The document is refused because of what is read through aliases. -/
def SpecError.IsExcessiveAliasing : SpecError → Prop
  | yaml e | channel _ e | message _ e | payload _ (.yaml e) => e = .refused .excessiveAliasing
  | _ => False

namespace Spec

variable {files : Option FileSource} {name : String} {d d' : Document} {l l' : Library}
  {n n' : Node}

/-! ## Channels and messages -/

section

variable (hd : d.Inlines name d') (hl : Library.Inlines name d d' l l') (hends : d.AliasesEnd name)

include hd hl hends

theorem readChannel_inlined (h : Copied name d n n') (topic : String) :
    (readChannel l topic n).Matches SpecError.IsExcessiveAliasing (readChannel l' topic n') :=
  .bind ((Library.fill_inlined hd hl h hends channelShape).mapError fun _ he => he) fun _ => .ok _

theorem readPayload_inlined (n : Node) (hn : d.Known name n.aliases) :
    (readPayload l n).Matches (· = .yaml (.refused .excessiveAliasing)) (readPayload l' n) :=
  .bind ((Library.value_inlined hd hl ⟨.refl n, hn⟩ hends).mapError fun _ he => congrArg _ he)
    fun _ => .refl _

theorem readMessage_inlined (label : String) (n : Node) (hn : d.Known name n.aliases) :
    (readMessage l label n).Matches SpecError.IsExcessiveAliasing (readMessage l' label n) := by
  refine .bind ((Library.fill_inlined hd hl ⟨.refl n, hn⟩ hends messageShape).mapError fun _ he =>
    he) fun f => ?_
  cases hp : n.entryAt? "payload" with
  | none => exact .refl _
  | some p =>
    refine .bind
      ((readPayload_inlined hd hl hends p (hn.mono (aliases_entryAt?_subset hp))).mapError
        fun e he => ?_)
      fun _ => .ok _
    cases he
    rfl

theorem readMessages_inlined (files : Option FileSource) (file : String)
    {entries entries' : List (Node × Node)}
    (h : List.Forall₂ (fun e e' => e'.1 = e.1 ∧ Copied name d e.2 e'.2) entries entries') :
    (readMessages files file l entries).Matches SpecError.IsExcessiveAliasing
      (readMessages files file l' entries') := by
  induction h generalizing l l' with
  | nil => exact .ok []
  | @cons e e' entries entries' he _ ih =>
    obtain ⟨k, v⟩ := e
    obtain ⟨k', v'⟩ := e'
    obtain ⟨rfl, hv⟩ := he
    simp only [readMessages, References.replace]
    rcases References.resolve_inlined files hd hl hv file [] with
      ⟨hrun, hrun'⟩ | ⟨r, l₁, l₁', hrun, hrun', hl₁, hknown⟩
    · rw [hrun, hrun']
      exact .error _ _
    · rw [hrun, hrun']
      cases r with
      | error e => exact .error _ _
      | ok m =>
        have hm := readMessage_inlined hd hl₁ hends k'.label m (hknown m rfl)
        exact .bind (f := fun m => (readMessages files file l₁ entries).bind fun ms =>
          .ok (m :: ms)) hm
            fun _ => .bind (ih hl₁) fun _ => .ok _

end

/-! ## Documents -/

/-- The parts of a document that are looked at as they stand. -/
def sections (root : Node) : List Node :=
  (root.entryAt? "channels").toList ++ (root.entryAt? "components").toList ++
    (messagesNode? root).toList

/-- A part of a document that is looked at as it stands and its copy. If it is an alias, it is none
of a mapping. -/
inductive InlinedSection (name : String) (d : Document) : Node → Node → Prop
  | inside {n n' : Node} (h : InlinedInside name d n n') : InlinedSection name d n n'
  | noMapping {n n' : Node} (h : ∀ line tag entries, n ≠ .mapping line tag entries)
      (h' : ∀ line tag entries, n' ≠ .mapping line tag entries) : InlinedSection name d n n'

theorem entryAt?_eq_none (h : ∀ line tag entries, n ≠ .mapping line tag entries) (key : String) :
    n.entryAt? key = none := by
  cases n with
  | mapping line tag entries => exact absurd rfl (h line tag entries)
  | _ => rfl

theorem entryAt?_section (hd : d.Inlines name d') (hl : Library.Inlines name d d' l l')
    (h : InlinedInside name d n n') {key : String}
    (hentry : ∀ v, n.entryAt? key = some v → v.isAlias → Decode.isMapping l v = false) :
    Option.Rel (InlinedSection name d) (n.entryAt? key) (n'.entryAt? key) := by
  have hrel := h.entryAt? key
  revert hrel hentry
  generalize n.entryAt? key = x, n'.entryAt? key = x'
  intro hentry hrel
  cases hrel with
  | none => exact .none
  | @some v v' hv =>
    have hmapping := Decode.isMapping_inlined hd hl hv
    cases hv with
    | inside h => exact .some (.inside h)
    | replaced =>
      rw [hentry _ rfl rfl] at hmapping
      refine .some (.noMapping nofun fun line tag entries heq => ?_)
      rw [heq] at hmapping
      cases hmapping

theorem readChannels_inlined (hd : d.Inlines name d') (hl : Library.Inlines name d d' l l')
    (hends : d.AliasesEnd name) (h : InlinedInside name d n n') (hknown : d.Known name n.aliases)
    (hentry : ∀ v, n.entryAt? "channels" = some v → v.isAlias → Decode.isMapping l v = false) :
    (readChannels l n).Matches SpecError.IsExcessiveAliasing (readChannels l' n') := by
  have hrel := entryAt?_section hd hl h hentry
  unfold readChannels
  cases hchannels : n.entryAt? "channels" with
  | none =>
    rw [hchannels] at hrel
    rw [rel_none_left hrel]
    exact .ok []
  | some v =>
    rw [hchannels] at hrel
    obtain ⟨v', hchannels', hv⟩ := rel_some_left hrel
    rw [hchannels']
    cases hv with
    | noMapping h h' =>
      cases v with
      | mapping line tag entries => exact absurd rfl (h line tag entries)
      | _ =>
        cases v' with
        | mapping line tag entries => exact absurd rfl (h' line tag entries)
        | _ => exact .error _ _
    | inside h =>
      cases h with
      | scalar | kept | sequence => exact .error _ _
      | mapping line tag hentries =>
        refine matches_mapM (fun e e' he => ?_)
          (hentries.copied (hknown.mono (aliases_entryAt?_subset hchannels)))
        obtain ⟨k, v⟩ := e
        obtain ⟨k', v'⟩ := e'
        obtain ⟨rfl, hv⟩ := he
        exact readChannel_inlined hd hl hends hv k'.label

/-- The node of the messages is the same but for copies inside it, if neither it nor the components
are an alias of a mapping. -/
theorem messagesNode?_inlined (hd : d.Inlines name d') (hl : Library.Inlines name d d' l l')
    (h : InlinedInside name d n n')
    (hcomponents : ∀ v, n.entryAt? "components" = some v → v.isAlias → Decode.isMapping l v = false)
    (hmessages : ∀ v, messagesNode? n = some v → v.isAlias → Decode.isMapping l v = false) :
    Option.Rel (InlinedSection name d) (messagesNode? n) (messagesNode? n') := by
  have hrel := entryAt?_section hd hl h hcomponents
  unfold messagesNode? at hmessages ⊢
  revert hrel hmessages
  generalize n.entryAt? "components" = x, n'.entryAt? "components" = x'
  intro hmessages hrel
  cases hrel with
  | none => exact .none
  | @some v v' hv =>
    cases hv with
    | inside h => exact entryAt?_section hd hl h hmessages
    | noMapping h h' =>
      rw [Option.bind_some, Option.bind_some, entryAt?_eq_none h, entryAt?_eq_none h']
      exact .none

theorem aliases_subset_of_messagesNode? {v : Node} (h : messagesNode? n = some v) :
    v.aliases ⊆ n.aliases := by
  obtain ⟨components, hcomponents, hv⟩ := Option.bind_eq_some_iff.1 h
  exact List.Subset.trans (aliases_entryAt?_subset hv) (aliases_entryAt?_subset hcomponents)

theorem messagesOf_inlined (files : Option FileSource) (file : String) (hd : d.Inlines name d')
    (hl : Library.Inlines name d d' l l') (hends : d.AliasesEnd name)
    (h : InlinedInside name d n n') (hknown : d.Known name n.aliases)
    (hcomponents : ∀ v, n.entryAt? "components" = some v → v.isAlias → Decode.isMapping l v = false)
    (hmessages : ∀ v, messagesNode? n = some v → v.isAlias → Decode.isMapping l v = false) :
    (messagesOf files file l n).Matches SpecError.IsExcessiveAliasing
      (messagesOf files file l' n') := by
  have hrel := messagesNode?_inlined hd hl h hcomponents hmessages
  unfold messagesOf
  cases hnode : messagesNode? n with
  | none =>
    rw [hnode] at hrel
    rw [rel_none_left hrel]
    exact .ok []
  | some v =>
    rw [hnode] at hrel
    obtain ⟨v', hnode', hv⟩ := rel_some_left hrel
    rw [hnode']
    cases hv with
    | noMapping h h' =>
      cases v with
      | mapping line tag entries => exact absurd rfl (h line tag entries)
      | _ =>
        cases v' with
        | mapping line tag entries => exact absurd rfl (h' line tag entries)
        | _ => exact .error _ _
    | inside h =>
      cases h with
      | scalar | kept | sequence => exact .error _ _
      | mapping line tag hentries =>
        exact readMessages_inlined hd hl hends files file
          (hentries.copied (hknown.mono (aliases_subset_of_messagesNode? hnode)))

/-- **Aliases are transparent.** A document and the document with copies in place of aliases give
the same specification or none, if no anchor contains an alias to itself, the channels, the
components and the messages are no aliases of mappings, and the document is not refused for what is
read through aliases. -/
theorem ofDocument_inlined {files : Option FileSource} {name : String} {d d' : Document}
    (h : d.Inlines name d') (hends : d.AliasesEnd name)
    (hsections : ∀ n ∈ sections d.root, n.isAlias → Decode.isMapping [(name, d)] n = false)
    (hrefused : ∀ e, ofDocument files name d = .error e → ¬e.IsExcessiveAliasing) :
    (ofDocument files name d).toOption = (ofDocument files name d').toOption := by
  refine Except.Matches.toOption_eq ?_ hrefused
  have hl := Library.Inlines.single name d d'
  have hknown : d.Known name d.root.aliases := fun a ha _ => List.mem_append_left _ ha
  have hhead := Library.fill_inlined h hl ⟨.inside h.root, hknown⟩ hends headShape
  have hchannels := readChannels_inlined h hl hends h.root hknown fun v hv =>
    hsections v (by simp [sections, hv])
  have hmessages := messagesOf_inlined files name h hl hends h.root hknown
    (fun v hv => hsections v (by simp [sections, hv])) fun v hv =>
      hsections v (by simp [sections, hv])
  have hroot := h.root
  unfold ofDocument
  generalize d.root = root, d'.root = root' at hroot hhead hchannels hmessages ⊢
  cases hroot with
  | scalar | kept | sequence => exact .error _ _
  | mapping line tag hentries =>
    exact .bind (hhead.mapError fun _ he => he) fun _ => .bind hchannels fun _ =>
      .bind hmessages fun _ => .ok _

/-! ## Two documents -/

/-- A mapping on one line. -/
def flow (entries : List (String × Node)) : Node :=
  .mapping 1 none (entries.map fun e => (.scalar 1 none e.1 true, e.2))

/-- A text on one line. -/
def word (text : String) : Node :=
  .scalar 1 none text true

/-- A channel that is shared. -/
def armChannel : Node :=
  flow [("description", word "d"),
    ("subscribe", flow [("message", flow [("$ref", word "#/components/messages/Arm")])])]

/-- A payload with two properties, of which the first is a text. -/
def armPayload (second : Node) : Node :=
  flow [("type", word "object"),
    ("properties", flow [("first", flow [("type", word "string")]), ("second", second)])]

/-- A document with three anchors, and what stands where they are used: a channel, what another one
merges, a property and a payload. -/
def armDocument (channel merged property payload : Node) : Document where
  root := flow
    [("asyncapi", word "2.6.0"), ("info", flow [("title", word "t"), ("version", word "v")]),
      ("x-arm", armChannel),
      ("channels",
        flow [("arm", channel), ("disarm", flow [("<<", merged), ("description", word "e")])]),
      ("components", flow [("messages",
        flow [("Arm", flow [("payload", armPayload property)]),
          ("Disarm", flow [("payload", payload)])])])]
  anchors := [armChannel, armPayload property, flow [("type", word "string")]]

/-- The document that uses aliases. -/
def armShared : Document :=
  armDocument (.aliasOf 1 153 "arm" ⟨"", 0⟩) (.aliasOf 1 172 "arm" ⟨"", 0⟩)
    (.aliasOf 1 291 "s" ⟨"", 2⟩)
    (.aliasOf 1 316 "p" ⟨"", 1⟩)

/-- The document that uses copies. -/
def armCopied : Document :=
  armDocument armChannel armChannel (flow [("type", word "string")])
    (armPayload (flow [("type", word "string")]))

/-- Both messages are read from the same copy. -/
theorem messagesOf_armShared :
    ∃ messages, messagesOf none "" [("", armShared)] armShared.root = .ok messages ∧
    messages.map (·.name) = ["Arm", "Disarm"] := by
  let copy := flow [("payload", armPayload (flow [("type", word "string")]))]
  have hread : ∀ label ∈ ["Arm", "Disarm"],
      (readMessage [("", armShared)] label copy).toOption.map (·.name) = some label := by
    decide +kernel
  have hrefs : copy.every fun m => (References.refOf? m).isNone := by decide +kernel
  have hresolve {n : Node} (h : References.expandWith [("", armShared)] 20 n = some copy) :
      References.resolve none "" [] n [("", armShared)] = some (.ok copy, [("", armShared)]) :=
    References.resolve_of_expandWith h hrefs "" []
  obtain ⟨arm, harm, harmName⟩ := Option.map_eq_some_iff.1 (hread "Arm" (by simp))
  obtain ⟨disarm, hdisarm, hdisarmName⟩ := Option.map_eq_some_iff.1 (hread "Disarm" (by simp))
  refine ⟨[arm, disarm], ?_, by simp [harmName, hdisarmName]⟩
  refine readMessages_cons_eq_ok.2
    ⟨_, _, arm, _, hresolve (by decide +kernel), Except.toOption_eq_some_iff.1 harm, ?_, rfl⟩
  exact readMessages_cons_eq_ok.2
    ⟨_, _, disarm, [], hresolve (by decide +kernel), Except.toOption_eq_some_iff.1 hdisarm, rfl,
      rfl⟩

theorem ofDocument_inlined_armShared :
    References.expand [("", armShared)] armShared.root = some armCopied.root ∧
      ∃ s, ofDocument none "" armShared = .ok s ∧ ofDocument none "" armCopied = .ok s ∧
        s.channels.map (fun c => (c.topic, c.description)) = [("arm", "d"), ("disarm", "e")] ∧
        s.messages.map (·.name) = ["Arm", "Disarm"] := by
  have hexpand : References.expand [("", armShared)] armShared.root = some armCopied.root := by
    decide +kernel
  have hinlines : armShared.Inlines "" armCopied :=
    References.inlines_of_expand (by decide +kernel) hexpand (by decide +kernel)
  have hends : armShared.AliasesEnd "" :=
    Document.aliasesEnd_of_rank (fun number => if number = 1 then 1 else 0) (by decide) (by decide)
  have hhead : (Library.fill [("", armShared)] headShape armShared.root).toOption.isSome =
      true := by decide +kernel
  have hchannels : (readChannels [("", armShared)] armShared.root).toOption.map
      (fun cs => cs.map fun c => (c.topic, c.description)) =
        some [("arm", "d"), ("disarm", "e")] := by decide +kernel
  obtain ⟨head, hhead⟩ := Option.isSome_iff_exists.1 hhead
  obtain ⟨channels, hok, hchannels⟩ := Option.map_eq_some_iff.1 hchannels
  obtain ⟨messages, hmessages, hnames⟩ := messagesOf_armShared
  have hshared :=
    ofDocument_eq_ok.2 ⟨⟨_, _, _, rfl⟩, head, channels, messages,
      Except.toOption_eq_some_iff.1 hhead, Except.toOption_eq_some_iff.1 hok, hmessages, rfl⟩
  have hsame := ofDocument_inlined hinlines hends (by decide) fun e he => by
    cases hshared.symm.trans he
  rw [hshared] at hsame
  exact ⟨hexpand, _, hshared, Except.toOption_eq_some_iff.1 hsame.symm, hchannels, hnames⟩

/-- A document with shared channels, and what stands where they are used. -/
def sharedChannels (channels : Node) : Document where
  root := flow
    [("asyncapi", word "2.6.0"), ("info", flow [("title", word "t"), ("version", word "v")]),
      ("x-shared", flow [("arm", armChannel)]), ("channels", channels)]
  anchors := [flow [("arm", armChannel)]]

/-- **An alias in the place of the channels is not followed.** The document fails with it, and with
the copy it is a specification with one channel. -/
theorem ofDocument_sharedChannels :
    let shared := sharedChannels (.aliasOf 1 153 "c" ⟨"", 0⟩)
    let copied := sharedChannels (flow [("arm", armChannel)])
    References.expand [("", shared)] shared.root = some copied.root ∧ shared.AliasesEnd "" ∧
      shared.Inlines "" copied ∧
      (ofDocument none "" shared).error?.map SpecError.text =
        some (Text.utf8 "channels must be a mapping") ∧
      (ofDocument none "" copied).toOption.map (fun s => s.channels.map (·.topic)) =
        some ["arm"] := by
  intro shared copied
  have hexpand : References.expand [("", shared)] shared.root = some copied.root := by
    decide +kernel
  refine ⟨hexpand, Document.aliasesEnd_of_rank id (by decide) (by decide), ?_, by decide +kernel,
    by decide +kernel⟩
  exact References.inlines_of_expand (by decide +kernel) hexpand (by decide +kernel)

end Spec

end PayloadGen
