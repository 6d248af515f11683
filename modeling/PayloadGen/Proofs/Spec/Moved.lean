import PayloadGen.Proofs.Reference.Moved
import PayloadGen.Proofs.Yaml.Decode
import PayloadGen.Spec.Reader

/-!
# Specifications do not depend on where they are

A specification is read from a file and from those that it refers to. When all of them are moved
into a folder, the same specification is read there (`Spec.load_under_folder`). What is taken from
nodes does not show the names of documents (`readMessage_mapDocuments`), and
`References.resolve_moved` says that references lead to the same nodes.
-/

namespace PayloadGen.Spec

open Yaml

/-! ## What is read from nodes -/

section MapDocuments

variable {f : String → String} (hf : Function.Injective f) (l : Library)

include hf

theorem readChannel_mapDocuments (topic : String) (n : Node) :
    readChannel (l.mapDocuments f) topic (n.mapDocuments f) = readChannel l topic n := by
  rw [readChannel, Library.fill_mapDocuments hf, readChannel]

theorem readChannels_mapDocuments (root : Node) :
    readChannels (l.mapDocuments f) (root.mapDocuments f) = readChannels l root := by
  rw [readChannels, Node.entryAt?_mapDocuments, readChannels]
  cases root.entryAt? "channels" with
  | none => rfl
  | some n =>
    cases n with
    | mapping line tag entries =>
      simp only [Option.map_some, Node.mapDocuments, mapEntries_eq, List.mapM_map,
        Function.comp_def, Prod.map, Node.label_mapDocuments, readChannel_mapDocuments hf]
    | _ => rfl

theorem readPayload_mapDocuments (n : Node) :
    readPayload (l.mapDocuments f) (n.mapDocuments f) = readPayload l n := by
  simp only [readPayload, Library.value_mapDocuments hf, KeyOrder.ofNode_mapDocuments]

theorem readMessage_mapDocuments (name : String) (n : Node) :
    readMessage (l.mapDocuments f) name (n.mapDocuments f) = readMessage l name n := by
  simp only [readMessage, Library.fill_mapDocuments hf, Node.entryAt?_mapDocuments]
  cases n.entryAt? "payload" with
  | none => rfl
  | some p => simp only [Option.map_some, readPayload_mapDocuments hf]

end MapDocuments

theorem messagesNode?_mapDocuments (f : String → String) (root : Node) :
    messagesNode? (root.mapDocuments f) = (messagesNode? root).map (Node.mapDocuments f) := by
  rw [messagesNode?, Node.entryAt?_mapDocuments, messagesNode?]
  cases root.entryAt? "components" with
  | none => rfl
  | some n => exact Node.entryAt?_mapDocuments f n "messages"

/-- The first message is read from what its node is replaced by, and the others with the documents
known then. -/
theorem readMessages_cons_eq_ok {files : Option FileSource} {file : String} {l : Library}
    {k v : Node} {entries : List (Node × Node)} {ms : List Message} :
    readMessages files file l ((k, v) :: entries) = .ok ms ↔
      ∃ n l' m ms', References.resolve files file [] v l = some (.ok n, l') ∧
      readMessage l' k.label n = .ok m ∧
        readMessages files file l' entries = .ok ms' ∧ ms = m :: ms' := by
  rw [readMessages, References.replace]
  cases References.resolve files file [] v l with
  | none => simp [Except.mapError, bind, Except.bind]
  | some o =>
    obtain ⟨r, l'⟩ := o
    cases r with
    | error e => simp [Except.mapError, bind, Except.bind]
    | ok n =>
      simp only [Option.getD_some, Except.mapError, bind, pure, Except.pure, Except.bind_eq_ok_iff,
        Except.ok.injEq, Option.some.injEq, Prod.mk.injEq]
      constructor
      · rintro ⟨_, rfl, m, hm, ms', hms', rfl⟩
        exact ⟨n, l', m, ms', ⟨rfl, rfl⟩, hm, hms', rfl⟩
      · rintro ⟨_, _, m, ms', ⟨rfl, rfl⟩, hm, hms', rfl⟩
        exact ⟨n, rfl, m, hm, ms', hms', rfl⟩

/-- A document is a specification if its root is a mapping and all parts can be read. -/
theorem ofDocument_eq_ok {files : Option FileSource} {file : String} {d : Document} {s : Spec} :
    ofDocument files file d = .ok s ↔
      (∃ line tag entries, d.root = .mapping line tag entries) ∧
        ∃ head channels messages, Library.fill [(file, d)] headShape d.root = .ok head ∧
          readChannels [(file, d)] d.root = .ok channels ∧
          messagesOf files file [(file, d)] d.root = .ok messages ∧
          s = { asyncapi := head.textOf "asyncapi", info := infoOf head, channels, messages } := by
  unfold ofDocument
  split
  · rename_i hroot
    simp only [bind, pure, Except.pure, Except.bind_eq_ok_iff, Except.mapError_eq_ok_iff,
      Except.ok.injEq]
    constructor
    · rintro ⟨head, hhead, channels, hchannels, messages, hmessages, rfl⟩
      exact ⟨⟨_, _, _, hroot⟩, head, channels, messages, hhead, hchannels, hmessages, rfl⟩
    · rintro ⟨-, head, channels, messages, hhead, hchannels, hmessages, rfl⟩
      exact ⟨head, hhead, channels, hchannels, messages, hmessages, rfl⟩
  · rename_i hroot
    constructor
    · intro h
      cases h
    · rintro ⟨⟨line, tag, entries, h⟩, -⟩
      exact absurd h (hroot line tag entries)

theorem documentOf_eq_ok {name text : String} {d : Document} :
    documentOf name text = .ok d ↔ Document.read name text = .ok (some d) := by
  unfold documentOf
  cases Document.read name text with
  | error e => simp [Except.mapError, bind, Except.bind]
  | ok d? =>
    cases d? <;> simp [Except.mapError, bind, Except.bind, pure, Except.pure, throw, throwThe,
      MonadExceptOf.throw]

theorem read_eq_ok {form : Markup} {files : Option FileSource} {name text : String} {s : Spec} :
    read form files name text = .ok s ↔
      (form = .json → (Json.read? .loose text.toList).isSome) ∧
        ∃ d, Document.read name text = .ok (some d) ∧ ofDocument files name d = .ok s := by
  have hdocument : (documentOf name text).bind (ofDocument files name) = .ok s ↔
      ∃ d, Document.read name text = .ok (some d) ∧ ofDocument files name d = .ok s := by
    simp only [Except.bind_eq_ok_iff, documentOf_eq_ok]
  rw [← hdocument]
  cases form with
  | yaml => exact ⟨fun h => ⟨nofun, h⟩, And.right⟩
  | json =>
    unfold read
    cases Json.read? .loose text.toList with
    | none => simp [bind, Except.bind, throw, throwThe, MonadExceptOf.throw]
    | some json => exact ⟨fun h => ⟨fun _ => rfl, h⟩, And.right⟩

theorem load_eq_ok {source : FileSource} {name : String} {s : Spec} :
    load source name = .ok s ↔
      ∃ form text, Markup.ofName name = .ok form ∧ source.read name = .ok text ∧
        read form (some source) name text = .ok s := by
  simp only [load, bind, Except.bind_eq_ok_iff, Except.mapError_eq_ok_iff, exists_and_left]

/-! ## In a folder -/

variable {folder name : String} {source moved : FileSource}

theorem readMessages_moved (h : source.MovedTo folder moved) (hfolder : Path.Proper folder)
    (hname : Path.Proper name) {l : Library} (hl : References.ProperNames l)
    {entries : List (Node × Node)} {ms : List Message}
    (hms : readMessages (some source) name l entries = .ok ms) :
    readMessages (some moved) (Path.under folder name) (l.mapDocuments (Path.under folder))
      (mapEntries (Path.under folder) entries) = .ok ms := by
  have hinjective := (Path.strictMono_under folder).injective
  induction entries generalizing l ms with
  | nil => exact hms
  | cons e entries ih =>
    obtain ⟨k, v⟩ := e
    obtain ⟨n, l', m, ms', hrun, hm, hms', rfl⟩ := readMessages_cons_eq_ok.1 hms
    obtain ⟨hl', hmoved⟩ := References.resolve_moved h hfolder hname hl hrun
    refine readMessages_cons_eq_ok.2 ⟨_, _, m, ms', hmoved, ?_, ih hl' hms', rfl⟩
    rw [Node.label_mapDocuments, readMessage_mapDocuments hinjective, hm]

theorem messagesOf_moved (h : source.MovedTo folder moved) (hfolder : Path.Proper folder)
    (hname : Path.Proper name) {l : Library} (hl : References.ProperNames l) {root : Node}
    {ms : List Message} (hms : messagesOf (some source) name l root = .ok ms) :
    messagesOf (some moved) (Path.under folder name) (l.mapDocuments (Path.under folder))
      (root.mapDocuments (Path.under folder)) = .ok ms := by
  unfold messagesOf at hms ⊢
  rw [messagesNode?_mapDocuments]
  cases hnode : messagesNode? root with
  | none => simpa [hnode] using hms
  | some n =>
    rw [hnode] at hms
    cases n with
    | mapping line tag entries => exact readMessages_moved h hfolder hname hl hms
    | _ => cases hms

theorem ofDocument_moved (h : source.MovedTo folder moved) (hfolder : Path.Proper folder)
    (hname : Path.Proper name) {d : Document} {s : Spec}
    (hs : ofDocument (some source) name d = .ok s) :
    ofDocument (some moved) (Path.under folder name) (d.mapDocuments (Path.under folder)) =
      .ok s := by
  have hinjective := (Path.strictMono_under folder).injective
  have hl : References.ProperNames [(name, d)] := by
    intro other d' hfind
    rw [Pairs.find?_cons] at hfind
    split at hfind
    · rename_i heq
      exact heq ▸ hname
    · cases hfind
  obtain ⟨⟨line, tag, entries, hroot⟩, head, channels, messages, hhead, hchannels,
      hmessages, rfl⟩ :=
    ofDocument_eq_ok.1 hs
  -- The library of the moved document is that of the document, moved.
  refine ofDocument_eq_ok.2 ⟨⟨line, tag, _, congrArg (Node.mapDocuments _) hroot⟩, head, channels,
    messages, ?_, ?_, messagesOf_moved h hfolder hname hl hmessages, rfl⟩
  · exact (Library.fill_mapDocuments hinjective [(name, d)] headShape d.root).trans hhead
  · exact (readChannels_mapDocuments hinjective [(name, d)] d.root).trans hchannels

theorem read_moved (h : source.MovedTo folder moved) (hfolder : Path.Proper folder)
    (hname : Path.Proper name) {form : Markup} {text : String} {s : Spec}
    (hs : read form (some source) name text = .ok s) :
    read form (some moved) (Path.under folder name) text = .ok s := by
  obtain ⟨hform, d, hread, hd⟩ := read_eq_ok.1 hs
  refine read_eq_ok.2 ⟨hform, _, ?_, ofDocument_moved h hfolder hname hd⟩
  rw [Document.read_map, hread]
  rfl

/-- **A specification can be moved with its files.** What is read from a file is read from it in a
folder as well, when the folder has the same files, whatever references there are between them. The
folder may be any but the root, and a file is moved only if it has a name, both of which
`FileSource.MovedTo` implies. -/
theorem load_under_folder {folder name : String} {source moved : FileSource} {s : Spec}
    (h : source.MovedTo folder moved) (hs : load source name = .ok s) :
    load moved (Path.under folder name) = .ok s := by
  obtain ⟨form, text, hform, htext, hs⟩ := load_eq_ok.1 hs
  obtain ⟨hfolder, hname⟩ := h.proper htext
  refine load_eq_ok.2 ⟨form, text, ?_, (h name text).2 htext, read_moved h hfolder hname hs⟩
  rw [← hform, Markup.ofName, Path.extension_under, Markup.ofName]

/-! ## An example -/

/-- A document whose message is in another folder, and the file that has it. -/
def sharedFiles : Pairs String :=
  [("api/a.yml", "components:\n  messages:\n    M:\n      $ref: ../common/b.yml#/M"),
    ("common/b.yml", "M:\n  payload:\n    type: string")]

/-- The payload of the message. -/
def sharedPayload : Node :=
  .mapping 3 none [(.scalar 3 none "type" true, .scalar 3 none "string" true)]

/-- The message. -/
def sharedMessage : Node :=
  .mapping 2 none [(.scalar 2 none "payload" true, sharedPayload)]

/-- The reference to the message. -/
def sharedReference : Node :=
  .mapping 4 none [(.scalar 4 none "$ref" true, .scalar 4 none "../common/b.yml#/M" true)]

/-- The document with the reference. -/
def referringDocument : Document :=
  ⟨.mapping 1 none [(.scalar 1 none "components" true,
    .mapping 2 none [(.scalar 2 none "messages" true,
      .mapping 3 none [(.scalar 3 none "M" true, sharedReference)])])], []⟩

/-- Both documents. -/
def sharedLibrary : Library :=
  [("api/a.yml", referringDocument),
    ("common/b.yml", ⟨.mapping 1 none [(.scalar 1 none "M" true, sharedMessage)], []⟩)]

theorem resolve_sharedReference :
    References.resolve (some (.ofDict sharedFiles)) "api/a.yml" [] sharedReference
      [("api/a.yml", referringDocument)] = some (.ok sharedMessage, sharedLibrary) := by
  have hlookup : References.lookup (some (.ofDict sharedFiles)) "api/a.yml" "../common/b.yml#/M"
      [("api/a.yml", referringDocument)] = (.ok sharedMessage, sharedLibrary) :=
    References.lookup_eq_of_toOption (by decide +kernel)
  rw [References.resolve_reference rfl hlookup List.not_mem_nil]
  have hscalar (files : Option FileSource) (file : String) (stack : List String) (l : Library) :
      References.resolve files file stack (.scalar 3 none "string" true) l =
        some (.ok (.scalar 3 none "string" true), l) := by
    rw [References.resolve_parts rfl rfl, Node.children, References.resolveAll_nil]
    rfl
  have hpayload (files : Option FileSource) (file : String) (stack : List String) (l : Library) :
      References.resolve files file stack sharedPayload l = some (.ok sharedPayload, l) := by
    rw [References.resolve_parts rfl rfl, show sharedPayload.children = [_] from rfl,
      References.resolveAll_cons_ok (hscalar files file stack l), References.resolveAll_nil]
    rfl
  rw [References.resolve_parts rfl rfl, show sharedMessage.children = [_] from rfl,
    References.resolveAll_cons_ok (hpayload _ _ _ _), References.resolveAll_nil]
  rfl

/-- The document is read with its message. -/
theorem load_sharedFiles :
    ∃ s, load (.ofDict sharedFiles) "api/a.yml" = .ok s ∧ s.messages.map (·.name) = ["M"] := by
  obtain ⟨m, hm, hname⟩ : ∃ m, readMessage sharedLibrary "M" sharedMessage = .ok m ∧
      m.name = "M" := by
    have heval : (readMessage sharedLibrary "M" sharedMessage).toOption.map (·.name) =
        some "M" := by decide +kernel
    obtain ⟨m, hm, hname⟩ := Option.map_eq_some_iff.1 heval
    exact ⟨m, Except.toOption_eq_some_iff.1 hm, hname⟩
  obtain ⟨head, hhead⟩ :
      ∃ head, Library.fill [("api/a.yml", referringDocument)] headShape referringDocument.root =
      .ok head := by
    have heval : (Library.fill [("api/a.yml", referringDocument)] headShape
      referringDocument.root).toOption.isSome = true := by decide +kernel
    obtain ⟨head, hhead⟩ := Option.isSome_iff_exists.1 heval
    exact ⟨head, Except.toOption_eq_some_iff.1 hhead⟩
  have hmessages :
      messagesOf (some (.ofDict sharedFiles)) "api/a.yml" [("api/a.yml", referringDocument)]
      referringDocument.root = .ok [m] :=
    readMessages_cons_eq_ok.2 ⟨_, _, m, [], resolve_sharedReference, hm, rfl, rfl⟩
  have hdocument := ofDocument_eq_ok.2
    ⟨⟨_, _, _, rfl⟩, head, [], [m], hhead, rfl, hmessages, rfl⟩
  have hread :
      Document.read "api/a.yml" "components:\n  messages:\n    M:\n      $ref: ../common/b.yml#/M" =
      .ok (some referringDocument) :=
    Except.toOption_eq_some_iff.1 (by decide +kernel)
  have hform : Markup.ofName "api/a.yml" = .ok .yaml :=
    Except.toOption_eq_some_iff.1 (by decide +kernel)
  exact ⟨_, load_eq_ok.2 ⟨.yaml, _, hform, Except.toOption_eq_some_iff.1 (by decide +kernel),
    read_eq_ok.2 ⟨nofun, _, hread, hdocument⟩⟩, by simp [hname]⟩

/-- The message is found in the other folder, before and after both folders are moved. -/
theorem load_under_folder_sharedFiles :
    ∃ s, load (.ofDict sharedFiles) "api/a.yml" = .ok s ∧ s.messages.map (·.name) = ["M"] ∧
      load (.ofDict (sharedFiles.map (Prod.map (Path.under "v1/specs") id)))
        (Path.under "v1/specs" "api/a.yml") =
        .ok s := by
  have hmoved : (FileSource.ofDict sharedFiles).MovedTo "v1/specs"
      (.ofDict (sharedFiles.map (Prod.map (Path.under "v1/specs") id))) :=
    FileSource.movedTo_ofDict (Path.proper_iff.2 (by decide +kernel)) (by decide +kernel)
  obtain ⟨s, hs, hnames⟩ := load_sharedFiles
  exact ⟨s, hs, hnames, load_under_folder hmoved hs⟩

end PayloadGen.Spec
