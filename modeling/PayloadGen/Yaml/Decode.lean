import PayloadGen.Yaml.Node.Basic
import PayloadGen.Yaml.Value.Scalar

/-!
# Reading nodes into values and records

`Library.value` reads a node into a `Value`, `Library.fill` into a record whose fields are known
(`Shape`). Both follow aliases and obey the merge key `<<`: the entries of the mappings under it
count unless the mapping has the key itself, and of several such mappings the first that has a key
wins.
-/

namespace PayloadGen.Yaml

/-- What a node is read into. -/
inductive Shape where
  | text
  /-- A record with named fields; the name is used in messages. -/
  | record (name : String) (fields : List (String × Shape))
  /-- A mapping of texts. -/
  | texts
  /-- A place that may stay empty. -/
  | optional (content : Shape)

/-- What has been read into a shape. -/
inductive Filled where
  | text (s : String)
  | record (fields : List (String × Filled))
  | optional (content : Option Filled)

mutual

/-- A shape into which nothing has been read. -/
def Shape.blank : Shape → Filled
  | .text => .text ""
  | .record _ fields => .record (blankFields fields)
  | .texts => .record []
  | .optional _ => .optional none

/-- The fields of a record into which nothing has been read. -/
def blankFields : List (String × Shape) → List (String × Filled)
  | [] => []
  | (name, shape) :: r => (name, shape.blank) :: blankFields r

end

/-- The shape of what stands under a key. -/
def Shape.under? (key : String) : Shape → Option Shape
  | .record _ fields => (fields.find? (·.1 == key)).map (·.2)
  | .texts => some .text
  | _ => none

namespace Filled

/-- A field of a record. -/
def field? (name : String) : Filled → Option Filled
  | record fields => (fields.find? (·.1 == name)).map (·.2)
  | _ => none

/-- A record with another value of a field. -/
def setField (f : Filled) (name : String) (value : Filled) : Filled :=
  match f with
  | record fields =>
    if fields.any (·.1 == name) then
      .record (fields.map fun (k, v) => if k == name then (k, value) else (k, v))
    else .record (fields ++ [(name, value)])
  | other => other

/-- The text of a field. -/
def textOf (name : String) (f : Filled) : String :=
  match f.field? name with
  | some (.text s) => s
  | _ => ""

/-- The texts of all fields. -/
def allTexts : Filled → Dict String
  | record fields => Dict.ofList (fields.filterMap fun
    | (k, .text s) => some (k, s)
    | _ => none)
  | _ => .empty

/-- What is inside an optional field. -/
def inside? (name : String) (f : Filled) : Option Filled :=
  match f.field? name with
  | some (.optional content) => content
  | _ => none

end Filled

/-- How reading stands. -/
structure DecodeState where
  /-- What has not fitted, the last one first. -/
  mismatches : List Mismatch
  /-- Nodes visited, and those of them visited through an alias. -/
  visits : Nat
  aliased : Nat
  /-- While mappings are merged into another: the keys that are taken. -/
  taken : Option (List Value)

/-- Where reading takes place. -/
structure DecodeContext where
  library : Library
  /-- The aliases that have been entered: document, line and column. -/
  entered : List (String × Nat × Nat)

/-- A reader of nodes. -/
abbrev Decode := ReaderT DecodeContext (StateT DecodeState (Except Error))

namespace Decode

/-- A mismatch is noted. -/
def note (m : Mismatch) : Decode Unit :=
  modify fun s => { s with mismatches := m :: s.mismatches }

/-- The greatest share, in thousandths, of visits through aliases after so many visits. -/
def allowedShare (visits : Nat) : Nat :=
  if visits ≤ 400000 then 990
  else if 4000000 ≤ visits then 100
  else 990 - 890 * (visits - 400000) / 3600000

/-- The state after a visit. -/
def visited (inAlias : Bool) (s : DecodeState) : DecodeState :=
  { s with visits := s.visits + 1, aliased := s.aliased + if inAlias then 1 else 0 }

/-- Are most visits repetitions? -/
def excessive (s : DecodeState) : Bool :=
  100 < s.aliased && 1000 < s.visits && allowedShare s.visits * s.visits < 1000 * s.aliased

/-- A node is visited. A document in which most visits are repetitions is refused. -/
def visit : Decode Unit := do
  let inAlias := !(← read).entered.isEmpty
  modify (visited inAlias)
  if excessive (← get) then throw (.refused .excessiveAliasing)

/-- The target of an alias is read. -/
def throughAlias {α : Type} (line column : Nat) (name : String) (target : Anchor)
    (act : Node → Decode α) : Decode α := do
  let c ← read
  let here := (target.document, line, column)
  if c.entered.contains here then throw (.refused (.selfContaining name))
  match c.library.node? target with
  | some n => withReader (fun c => { c with entered := here :: c.entered }) (act n)
  | none => throw (.refused (.unknownAnchor name))

/-- The tag of a node, that of the target for an alias. -/
def tagOf (l : Library) : Node → String
  | .scalar _ (some t) _ _ | .sequence _ (some t) _ | .mapping _ (some t) _ => t
  | .scalar _ none text isPlain => impliedTag text isPlain
  | .sequence .. => "!!seq"
  | .mapping .. => "!!map"
  | .aliasOf _ _ _ target =>
    match l.node? target with
    | some (.scalar _ (some t) _ _) | some (.sequence _ (some t) _)
    | some (.mapping _ (some t) _) => t
    | some (.scalar _ none text isPlain) => impliedTag text isPlain
    | some (.sequence ..) => "!!seq"
    | some (.mapping ..) => "!!map"
    | _ => ""

/-- Is the node the merge key? -/
def isMerge : Node → Bool
  | .scalar _ none text isPlain => text == "<<" && isPlain
  | .scalar _ (some t) text _ => text == "<<" && t == "!!merge"
  | _ => false

/-- Do two keys look the same? -/
def sameLabel : Node → Node → Bool
  | .scalar _ _ a _, .scalar _ _ b _ => a == b
  | .aliasOf _ _ a _, .aliasOf _ _ b _ => a == b
  | .sequence .., .sequence .. => true
  | .mapping .., .mapping .. => true
  | _, _ => false

/-- The keys that a mapping has twice. -/
def repeatedKeys : List (Node × Node) → List Mismatch
  | [] => []
  | (k, _) :: r =>
    (r.filter fun e => sameLabel k e.1).map (fun e => .repeatedKey e.1.line e.1.label k.line) ++
      repeatedKeys r

/-- Repeated keys are noted; is the mapping free of them? -/
def keysDiffer (entries : List (Node × Node)) : Decode Bool := do
  let again := repeatedKeys entries
  modify fun s => { s with mismatches := again.reverse ++ s.mismatches }
  return again.isEmpty

/-- A collection that does not fit is noted. -/
def noteCollection (n : Node) (tag : Option String) (usual expected : String) : Decode Unit :=
  let tag := tag.getD usual
  note (.kind n.line tag (if tag == "!!seq" || tag == "!!map" then none else some "") expected)

/-- Is the key free while mappings are merged? If so it is taken now. -/
def claim (key : Value) (taken : Option (List Value)) : Option (Option (List Value)) :=
  match taken with
  | none => some none
  | some ks => if ks.any (·.sameKey key) then none else some (some (key :: ks))

/-- Is the node a mapping, or an alias of one? -/
def isMapping (l : Library) : Node → Bool
  | .mapping .. => true
  | .aliasOf _ _ _ target =>
    match l.node? target with
    | some (.mapping ..) => true
    | _ => false
  | _ => false

/-- The mappings that a merge key refers to. -/
def mergeSources (l : Library) : Node → Option (List Node)
  | .sequence _ _ items => if items.all (isMapping l) then some items else none
  | n => if isMapping l n then some [n] else none

/-- After the entries of a mapping, what it merges. Meanwhile the keys of the mapping are taken,
together with those taken before if it is merged itself. -/
def thenMerge {α : Type} (entries : List (Node × Node)) (taken : Option (List Value))
    (keys : Decode (List Value)) (done : α) (merge : List Node → Decode α) : Decode α := do
  match (entries.filter fun e => isMerge e.1).getLast? with
  | none => modify fun s => { s with taken }; return done
  | some (_, source) =>
    match mergeSources (← read).library source with
    | none => throw (.refused .mergeNeedsMap)
    | some sources =>
      let own ← (if taken.isNone then keys else pure [])
      modify fun s => { s with taken := some (taken.getD own) }
      let merged ← merge sources
      modify fun s => { s with taken := if taken.isNone then none else s.taken }
      return merged

/-- The text of a key. It must be a scalar, and `null` is none. -/
def keyText : (fuel : Nat) → Node → Decode (Option String)
  | 0, _ => throw (.refused .excessiveAliasing)
  | fuel + 1, n => do
    visit
    match n with
    | .aliasOf line column name target => throughAlias line column name target (keyText fuel)
    | .scalar _ tag text isPlain =>
      match ← scalarValue tag text isPlain with
      | .null => return none
      | .text s => return some (if tag == some "!!binary" then s else text)
      | _ => return some text
    | .sequence _ tag _ => noteCollection n tag "!!seq" "string"; return none
    | .mapping _ tag entries =>
      if ← keysDiffer entries then noteCollection n tag "!!map" "string"
      return none

/-! ## Values -/

/-- A mapping that is being read: entries with text keys, or with any. -/
inductive Entries where
  | dict (entries : Pairs Value)
  | table (entries : List (Value × Value))

/-- The entries as a value. -/
def Entries.toValue : Entries → Value
  | .dict d => .dict d
  | .table t => .table t

/-- A table with one entry more; an entry of the same key is replaced. -/
def insertPair (key value : Value) : List (Value × Value) → List (Value × Value)
  | [] => [(key, value)]
  | (k, v) :: r => if k.sameKey key then (key, value) :: r else (k, v) :: insertPair key value r

/-- The entries with one more. -/
def Entries.insert (key value : Value) : Entries → Entries
  | .dict d => match key with
    | .text s => .dict (d.insert s value)
    | _ => .dict d
  | .table t => .table (insertPair key value t)

/-- The key of an entry, which is read as a text or as any value. -/
def Entries.key? (asText : Decode (Option String)) (asValue : Decode Value) :
    Entries → Decode (Option Value)
  | .dict _ => do return (← asText).map .text
  | .table _ => do return some (← asValue)

mutual

/-- The value of a node. -/
def value : (fuel : Nat) → Node → Decode Value
  | 0, _ => throw (.refused .excessiveAliasing)
  | fuel + 1, n => do
    visit
    match n with
    | .aliasOf line column name target => throughAlias line column name target (value fuel)
    | .scalar _ tag text isPlain => scalarValue tag text isPlain
    | .sequence _ _ items => return .list (← values fuel items)
    | .mapping _ _ entries =>
      let l := (← read).library
      let isDict := entries.all fun e => ["!!str", "!!merge"].contains (tagOf l e.1)
      if ← keysDiffer entries then
        return (← mappingInto fuel entries (if isDict then .dict [] else .table [])).toValue
      else return .null
termination_by structural fuel => fuel

/-- The values of nodes, in order. -/
def values : (fuel : Nat) → List Node → Decode (List Value)
  | 0, _ => throw (.refused .excessiveAliasing)
  | _, [] => return []
  | fuel + 1, n :: r => do
    let v ← value fuel n
    return v :: (← values fuel r)
termination_by structural fuel => fuel

/-- The entries of a mapping added to those read before, and then what it merges. -/
def mappingInto : (fuel : Nat) → List (Node × Node) → Entries → Decode Entries
  | 0, _, _ => throw (.refused .excessiveAliasing)
  | fuel + 1, entries, acc => do
    let taken := (← get).taken
    let (acc, taken) ← entriesInto fuel entries acc taken
    thenMerge entries taken (values fuel (entries.map (·.1))) acc fun sources =>
      mergeInto fuel sources acc
termination_by structural fuel => fuel

/-- The entries that are no merge key, added one by one. -/
def entriesInto : (fuel : Nat) → List (Node × Node) → Entries → Option (List Value) →
    Decode (Entries × Option (List Value))
  | 0, _, _, _ => throw (.refused .excessiveAliasing)
  | _, [], acc, taken => return (acc, taken)
  | fuel + 1, (k, v) :: r, acc, taken => do
    if isMerge k then entriesInto fuel r acc taken
    else
      modify fun s => { s with taken := none }
      match ← acc.key? (keyText fuel k) (value fuel k) with
      | none => entriesInto fuel r acc taken
      | some key =>
        match claim key taken with
        | none => entriesInto fuel r acc taken
        | some taken =>
          if key.isCollection then throw (.refused (.collectionKey key.shown))
          let item ← value fuel v
          entriesInto fuel r (acc.insert key item) taken
termination_by structural fuel => fuel

/-- Mappings merged one after the other. -/
def mergeInto : (fuel : Nat) → List Node → Entries → Decode Entries
  | 0, _, _ => throw (.refused .excessiveAliasing)
  | _, [], acc => return acc
  | fuel + 1, n :: r, acc => do
    let acc ← mergeOne fuel n acc
    mergeInto fuel r acc
termination_by structural fuel => fuel

/-- One mapping merged. -/
def mergeOne : (fuel : Nat) → Node → Entries → Decode Entries
  | 0, _, _ => throw (.refused .excessiveAliasing)
  | fuel + 1, n, acc => do
    visit
    match n with
    | .aliasOf line column name target =>
      throughAlias line column name target (fun t => mergeOne fuel t acc)
    | .mapping _ _ entries =>
      if ← keysDiffer entries then mappingInto fuel entries acc else return acc
    | _ => return acc
termination_by structural fuel => fuel

end

/-! ## Records -/

/-- The name of a shape in messages. -/
def shapeName : Shape → String
  | .text => "string"
  | .record name _ => name
  | .texts => "map[string]string"
  | .optional content => shapeName content

mutual

/-- A node read into a shape that may hold something already. -/
def fillShape : (fuel : Nat) → Shape → Filled → Node → Decode Filled
  | 0, _, _, _ => throw (.refused .excessiveAliasing)
  | fuel + 1, shape, old, n => do
    visit
    match n with
    | .aliasOf line column name target =>
      throughAlias line column name target (fillShape fuel shape old)
    | .scalar _ tag text isPlain =>
      match shape, ← scalarValue tag text isPlain with
      | .optional _, .null => return .optional none
      | _, .null => return old
      | .text, .text s => return .text (if tag == some "!!binary" then s else text)
      | .text, _ => return .text text
      | shape, _ =>
        let shownTag := tag.getD (impliedTag text isPlain)
        note (.kind n.line shownTag (some text) (shapeName shape))
        return old
    | .sequence _ tag _ =>
      noteCollection n tag "!!seq" (shapeName shape)
      return old
    | .mapping _ tag entries =>
      if ← keysDiffer entries then fillMapping fuel shape old n tag entries
      else return old
termination_by structural fuel => fuel

/-- A mapping read into a shape. -/
def fillMapping :
    (fuel : Nat) → Shape → Filled → Node → Option String → List (Node × Node) → Decode Filled
  | 0, _, _, _, _, _ => throw (.refused .excessiveAliasing)
  | fuel + 1, shape, old, n, tag, entries =>
    match shape, old with
    | .text, _ => do
      noteCollection n tag "!!map" "string"
      return old
    | .record name fields, _ => fillRecord fuel (.record name fields) old entries
    | .texts, _ => fillRecord fuel .texts old entries
    | .optional (.record name fields), .optional (some content) =>
      return .optional (some (← fillRecord fuel (.record name fields) content entries))
    | .optional (.record name fields), _ =>
      return .optional
        (some (← fillRecord fuel (.record name fields) (.record (blankFields fields)) entries))
    | .optional _, _ => do
      noteCollection n tag "!!map" (shapeName shape)
      return old
termination_by structural fuel => fuel

/-- The entries of a mapping read into a record, and then what it merges. -/
def fillRecord : (fuel : Nat) → Shape → Filled → List (Node × Node) → Decode Filled
  | 0, _, _, _ => throw (.refused .excessiveAliasing)
  | fuel + 1, shape, old, entries => do
    let taken := (← get).taken
    let (new, taken) ← fillEntries fuel shape old [] entries taken
    thenMerge entries taken (values fuel (entries.map (·.1))) new fun sources =>
      fillMerged fuel shape new sources
termination_by structural fuel => fuel

/-- The entries of a mapping read into the fields that they name. -/
def fillEntries : (fuel : Nat) → Shape → Filled → (done : List String) →
    List (Node × Node) → Option (List Value) → Decode (Filled × Option (List Value))
  | 0, _, _, _, _, _ => throw (.refused .excessiveAliasing)
  | _, _, old, _, [], taken => return (old, taken)
  | fuel + 1, shape, old, done, (k, v) :: r, taken => do
    if isMerge k then fillEntries fuel shape old done r taken
    else
      modify fun s => { s with taken := none }
      match ← keyText fuel k with
      | none => fillEntries fuel shape old done r taken
      | some key =>
        match claim (.text key) taken with
        | none => fillEntries fuel shape old done r taken
        | some taken =>
          match shape.under? key with
          | none => fillEntries fuel shape old done r taken
          | some inner =>
            if done.contains key then
              note (.repeatedField k.line key (shapeName shape))
              fillEntries fuel shape old done r taken
            else
              let new ← fillShape fuel inner ((old.field? key).getD inner.blank) v
              fillEntries fuel shape (old.setField key new) (key :: done) r taken
termination_by structural fuel => fuel

/-- Mappings merged into a record one after the other. -/
def fillMerged : (fuel : Nat) → Shape → Filled → List Node → Decode Filled
  | 0, _, _, _ => throw (.refused .excessiveAliasing)
  | _, _, old, [] => return old
  | fuel + 1, shape, old, n :: r => do
    let new ← fillShape fuel shape old n
    fillMerged fuel shape new r
termination_by structural fuel => fuel

end

/-- The result of a reader, unless something did not fit. -/
def run {α : Type} (act : Decode α) (l : Library) : Except Error α := do
  let (a, s) ← StateT.run (ReaderT.run act ⟨l, []⟩) ⟨[], 0, 0, none⟩
  if s.mismatches.isEmpty then return a else throw (.mismatched s.mismatches.reverse)

end Decode

/-- The value of a node of the library. -/
def Library.value (l : Library) (n : Node) : Except Error Value :=
  (Decode.value (3 * l.reach * (n.size + 1)) n).run l

/-- A node of the library read into a shape. -/
def Library.fill (l : Library) (shape : Shape) (n : Node) : Except Error Filled :=
  (Decode.fillShape (3 * l.reach * (n.size + 1)) shape shape.blank n).run l

/-- The entries of a mapping whose keys are read as texts, or nothing from a node that is `null`. -/
def Library.dict (l : Library) (n : Node) : Except Error (Pairs Value) :=
  let read (fuel : Nat) : Decode (Pairs Value) := do
    Decode.visit
    match n with
    | .mapping _ _ entries =>
      if ← Decode.keysDiffer entries then
        match ← Decode.mappingInto fuel entries (.dict []) with
        | .dict d => return d
        | .table _ => return []
      else return []
    | .scalar line tag text isPlain =>
      match ← scalarValue tag text isPlain with
      | .null => return []
      | _ =>
        let shownTag := tag.getD (impliedTag text isPlain)
        Decode.note (.kind line shownTag (some text) "map[string]interface \x7b\x7d")
        return []
    | .sequence _ tag _ =>
      Decode.noteCollection n tag "!!seq" "map[string]interface \x7b\x7d"
      return []
    | .aliasOf .. => return []
  (read (3 * l.reach * (n.size + 1))).run l

end PayloadGen.Yaml
