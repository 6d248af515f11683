import PayloadGen.Yaml.Token.Reader
import PayloadGen.Yaml.Node.Basic

/-!
# Reading the nodes of a document

`Document.read` gives the first document of a text. The nodes are read from the tokens by descent.
Two more tokens than the one at hand must be free of faults before it counts, so a fault shortly
after the end of the document is found, and one further on is not.
-/

namespace PayloadGen.Yaml

open Text

/-- What is left of the tokens of a text, and what has been read. -/
structure TokenSource where
  tokens : List Token
  /-- The fault that ends the tokens. -/
  fault : Option Error
  /-- Tag handles and what they stand for. -/
  handles : List (String × String)
  /-- The anchors met so far, the last one first. -/
  names : List (String × Nat)
  /-- Nodes with an anchor that are complete, by number. -/
  anchored : List (Nat × Node)

/-- A reader of tokens. -/
abbrev NodeReader := StateT TokenSource (Except Error)

/-- A fault in the order of tokens. The line is that of the construct, or else of the token; the
first line has no number. -/
def orderFault (context here : Nat) (p : Problem) : Error :=
  .malformed (if context ≠ 0 then some context else if here ≠ 0 then some here else none) p

namespace NodeReader

/-- The token at hand. -/
def peek : NodeReader Token := do
  let s ← get
  match s.tokens, s.fault with
  | t :: _ :: _ :: _, some _ => return t
  | _, some e => throw e
  | t :: _, none => return t
  | [], none => return ⟨.streamEnd, 0, 0⟩

/-- The next token is at hand. -/
def skip : NodeReader Unit :=
  modify fun s => { s with tokens := s.tokens.drop 1 }

/-- A scalar that is not written. -/
def missing (line : Nat) : Node :=
  .scalar (line + 1) none "" true

/-- The start of tags that have a short form. -/
def standardTag : String := "tag:yaml.org,2002:"

/-- The short form of a tag. -/
def shortTag (tag : String) : String :=
  match standardTag.toList.isPrefixOf? tag.toList with
  | some r => "!!" ++ String.ofList r
  | none => tag

/-- The tag that a handle and a suffix stand for; the tag `!` counts as none. -/
def fullTag (start here : Nat) (handle suffix : String) : NodeReader (Option String) := do
  if handle.isEmpty then return if suffix == "!" then none else some (shortTag suffix)
  match (← get).handles.find? (·.1 == handle) with
  | some (_, lead) => return some (shortTag (lead ++ suffix))
  | none => throw (orderFault start here .tagUndefined)

/-- The anchor and the tag that stand before a node, in either order, and the line where they
begin. -/
def properties : NodeReader (Nat × Option String × Option (String × String)) := do
  let t ← peek
  match t.kind with
  | .anchor name =>
    skip
    match (← peek).kind with
    | .tag handle suffix => skip; return (t.line, some name, some (handle, suffix))
    | _ => return (t.line, some name, none)
  | .tag handle suffix =>
    skip
    match (← peek).kind with
    | .anchor name => skip; return (t.line, some name, some (handle, suffix))
    | _ => return (t.line, none, some (handle, suffix))
  | _ => return (t.line, none, none)

/-- The number of a new anchor. -/
def openAnchor (name : String) : NodeReader Nat :=
  modifyGet fun s =>
    let n := s.names.length
    (n, { s with names := (name, n) :: s.names })

/-- The node with an anchor is complete. -/
def closeAnchor (number : Option Nat) (node : Node) : NodeReader Node := do
  match number with
  | some n => modify fun s => { s with anchored := (n, node) :: s.anchored }
  | none => pure ()
  return node

/-- The alias that stands here. Its document has no name yet. -/
def aliasNode (t : Token) (name : String) : NodeReader Node := do
  skip
  let s ← get
  match s.names.find? (·.1 == name) with
  | some (_, n) => return .aliasOf (t.line + 1) t.column name ⟨"", n⟩
  | none => throw (.refused (.unknownAnchor name))

/-- Does the token end an entry of a block collection? -/
def endsBlockEntry : Token.Kind → Bool
  | .key | .value | .blockEnd => true
  | _ => false

/-- A node of which only an anchor or a tag is written. -/
def bare (number : Option Nat) (start here : Nat) (tag : Option String) (hasMark : Bool) :
    NodeReader Node :=
  if hasMark then closeAnchor number (.scalar (start + 1) tag "" true)
  else throw (orderFault start here .nodeMissing)

mutual

/-- A node. Outside brackets it may be a block collection; after a key or a colon, items may follow
without being indented. -/
def node (inBlock unindented : Bool) : (fuel : Nat) → NodeReader Node
  | 0 => throw (.malformed none .tooDeep)
  | fuel + 1 => do
    let first ← peek
    match first.kind with
    | .aliasOf name => aliasNode first name
    | _ =>
      let (start, anchor?, tag?) ← properties
      let t ← peek
      let tag ← match tag? with
        | some (handle, suffix) => fullTag start t.line handle suffix
        | none => pure none
      let number ← anchor?.mapM openAnchor
      let line := start + 1
      let hasMark := anchor?.isSome || tag?.isSome
      match t.kind, inBlock with
      | .blockEntry, _ =>
        if unindented then
          closeAnchor number (.sequence line tag (← unindentedItems fuel))
        else bare number start t.line tag hasMark
      | .scalar text style, _ =>
        skip
        closeAnchor number (.scalar line tag text (style == .plain))
      | .flowSequenceStart, _ =>
        skip
        closeAnchor number (.sequence line tag (← flowItems t.line true fuel))
      | .flowMappingStart, _ =>
        skip
        closeAnchor number (.mapping line tag (← flowEntries t.line true fuel))
      | .blockSequenceStart, true =>
        skip
        closeAnchor number (.sequence line tag (← blockItems t.line fuel))
      | .blockMappingStart, true =>
        skip
        closeAnchor number (.mapping line tag (← blockEntries t.line fuel))
      | _, _ => bare number start t.line tag hasMark
termination_by structural fuel => fuel

/-- The items of an indented block sequence. -/
def blockItems (start : Nat) : (fuel : Nat) → NodeReader (List Node)
  | 0 => throw (.malformed none .tooDeep)
  | fuel + 1 => do
    let t ← peek
    match t.kind with
    | .blockEntry =>
      skip
      let item ← match (← peek).kind with
        | .blockEntry | .blockEnd => pure (missing t.line)
        | _ => node true false fuel
      return item :: (← blockItems start fuel)
    | .blockEnd => skip; return []
    | _ => throw (orderFault start t.line .blockEntryMissing)
termination_by structural fuel => fuel

/-- The items of a sequence that is not indented. -/
def unindentedItems : (fuel : Nat) → NodeReader (List Node)
  | 0 => throw (.malformed none .tooDeep)
  | fuel + 1 => do
    let t ← peek
    match t.kind with
    | .blockEntry =>
      skip
      let next ← peek
      let item ← match next.kind with
        | .blockEntry | .key | .value | .blockEnd => pure (missing t.line)
        | _ => node true false fuel
      return item :: (← unindentedItems fuel)
    | _ => return []
termination_by structural fuel => fuel

/-- The entries of a block mapping. -/
def blockEntries (start : Nat) : (fuel : Nat) → NodeReader (List (Node × Node))
  | 0 => throw (.malformed none .tooDeep)
  | fuel + 1 => do
    let t ← peek
    match t.kind with
    | .key =>
      skip
      let key ← if endsBlockEntry (← peek).kind then pure (missing t.line) else node true true fuel
      let v ← peek
      let value ← match v.kind with
        | .value =>
          skip
          if endsBlockEntry (← peek).kind then pure (missing v.line) else node true true fuel
        | _ => pure (missing v.line)
      return (key, value) :: (← blockEntries start fuel)
    | .blockEnd => skip; return []
    | _ => throw (orderFault start t.line .blockKeyMissing)
termination_by structural fuel => fuel

/-- The items of a sequence in brackets. -/
def flowItems (start : Nat) (isFirst : Bool) : (fuel : Nat) → NodeReader (List Node)
  | 0 => throw (.malformed none .tooDeep)
  | fuel + 1 => do
    let t ← peek
    match t.kind with
    | .flowSequenceEnd => skip; return []
    | _ =>
      if !isFirst then
        match t.kind with
        | .flowEntry => skip
        | _ => throw (orderFault start t.line .flowEntryMissing)
      let t ← peek
      match t.kind with
      | .key =>
        skip
        let pair ← flowPair fuel
        return .mapping (t.line + 1) none [pair] :: (← flowItems start false fuel)
      | .flowSequenceEnd => skip; return []
      | _ =>
        let item ← node false false fuel
        return item :: (← flowItems start false fuel)
termination_by structural fuel => fuel

/-- A single pair that stands as an item of a sequence, after the mark of its key. -/
def flowPair : (fuel : Nat) → NodeReader (Node × Node)
  | 0 => throw (.malformed none .tooDeep)
  | fuel + 1 => do
    let t ← peek
    let key ← match t.kind with
      | .value | .flowEntry | .flowSequenceEnd => do skip; pure (missing t.line)
      | _ => node false false fuel
    let v ← peek
    match v.kind with
    | .value =>
      skip
      let t ← peek
      match t.kind with
      | .flowEntry | .flowSequenceEnd => return (key, missing t.line)
      | _ => return (key, ← node false false fuel)
    | _ => return (key, missing v.line)
termination_by structural fuel => fuel

/-- The entries of a mapping in braces. -/
def flowEntries (start : Nat) (isFirst : Bool) : (fuel : Nat) → NodeReader (List (Node × Node))
  | 0 => throw (.malformed none .tooDeep)
  | fuel + 1 => do
    let t ← peek
    match t.kind with
    | .flowMappingEnd => skip; return []
    | _ =>
      if !isFirst then
        match t.kind with
        | .flowEntry => skip
        | _ => throw (orderFault start t.line .flowPairMissing)
      let t ← peek
      match t.kind with
      | .key =>
        skip
        let t ← peek
        let key ← match t.kind with
          | .value | .flowEntry | .flowMappingEnd => pure (missing t.line)
          | _ => node false false fuel
        let v ← peek
        let value ← match v.kind with
          | .value =>
            skip
            let t ← peek
            match t.kind with
            | .flowEntry | .flowMappingEnd => pure (missing t.line)
            | _ => node false false fuel
          | _ => pure (missing v.line)
        return (key, value) :: (← flowEntries start false fuel)
      | .flowMappingEnd => skip; return []
      | _ =>
        let key ← node false false fuel
        let v ← peek
        return (key, missing v.line) :: (← flowEntries start false fuel)
termination_by structural fuel => fuel

end

/-- The directives before a document. -/
def directives : (fuel : Nat) → (hasVersion : Bool) → List (String × String) →
    NodeReader (List (String × String))
  | 0, _, handles => return handles
  | fuel + 1, hasVersion, handles => do
    let t ← peek
    match t.kind with
    | .version major minor =>
      if hasVersion then throw (orderFault 0 t.line .versionTwice)
      if major ≠ 1 || minor ≠ 1 then throw (orderFault 0 t.line .versionOther)
      skip
      directives fuel true handles
    | .tagHandle handle lead =>
      if handles.any (·.1 == handle) then throw (orderFault 0 t.line .tagTwice)
      skip
      directives fuel hasVersion (handles ++ [(handle, lead)])
    | _ => return handles

/-- The root of the first document, if there is a document. -/
def root (fuel : Nat) : NodeReader (Option Node) := do
  let t ← peek
  match t.kind with
  | .streamEnd => return none
  | .version .. | .tagHandle .. | .documentStart =>
    let handles ← directives fuel false []
    modify fun s => { s with handles := handles ++ s.handles }
    let t ← peek
    match t.kind with
    | .documentStart =>
      skip
      let t ← peek
      match t.kind with
      | .version .. | .tagHandle .. | .documentStart | .documentEnd | .streamEnd =>
        return some (missing t.line)
      | _ =>
        let n ← node true false fuel
        let _ ← peek
        return some n
    | _ => throw (orderFault 0 t.line .documentStart)
  | _ =>
    let n ← node true false fuel
    let _ ← peek
    return some n

end NodeReader

/-- The first document of a text, if it has one. It has no name, nor have its aliases. -/
def Document.parse (text : String) : Except Error (Option Document) := do
  let (tokens, fault) := Token.scan text
  let handles := [("!", "!"), ("!!", NodeReader.standardTag)]
  let (root?, s) ← (NodeReader.root (3 * tokens.length + 10)).run ⟨tokens, fault, handles, [], []⟩
  return root?.map fun root =>
    let anchor (n : Nat) : Node := ((s.anchored.find? (·.1 == n)).map (·.2)).getD root
    ⟨root, (List.range s.names.length).map anchor⟩

/-- The first document of a text, if it has one. The name is that of the document in a library. -/
def Document.read (name text : String) : Except Error (Option Document) :=
  (Document.parse text).map (·.map (·.mapDocuments fun _ => name))

end PayloadGen.Yaml
