import PayloadGen.Toml.Basic

/-!
# What a TOML document has defined

No key is defined twice, and no table has two headers. `Seen.check` follows the statements of a
document one by one and refuses the first that repeats another.
-/

namespace PayloadGen.Toml

/-- What has been defined at a place. -/
inductive SeenKind where
  | value
  | table
  | tableList
  deriving DecidableEq

/-- A definition. -/
structure SeenEntry where
  path : List String
  kind : SeenKind
  /-- Does a table have a header, or is it closed? -/
  explicit : Bool
  /-- Has a dotted key opened it, in the table at hand? -/
  dotted : Bool

/-- The definitions up to a statement. -/
structure Seen where
  entries : List SeenEntry
  /-- The table at hand. -/
  current : List String

namespace Seen

/-- Nothing has been defined. -/
def blank : Seen := ⟨[], []⟩

/-- The definition at a place. -/
def find? (s : Seen) (path : List String) : Option SeenEntry :=
  s.entries.find? (·.path == path)

/-- A definition put in place of another, or added. -/
def put (s : Seen) (e : SeenEntry) : Seen :=
  if (s.find? e.path).isSome then
    { s with entries := s.entries.map fun x => if x.path == e.path then e else x }
  else { s with entries := s.entries ++ [e] }

/-- Tables that dotted keys have opened in the table at hand are closed. -/
def close (s : Seen) : Seen :=
  { s with entries := s.entries.map fun e =>
      if e.dotted && s.current.isPrefixOf e.path && e.path != s.current then
        { e with explicit := true, dotted := false }
      else e }

/-- The tables on the way to the last part of a key. -/
def openWay (s : Seen) (done : List String) : List String → Option Seen
  | [] | [_] => some s
  | k :: r =>
    let path := done ++ [k]
    match s.find? path with
    | none => openWay (s.put ⟨path, .table, false, false⟩) path r
    | some e => if e.kind = .value then none else openWay s path r

/-- The header of a table. -/
def header? (s : Seen) (key : List String) : Option Seen := do
  let s ← s.close.openWay [] key
  match s.find? key with
  | some e =>
    if e.kind = .table && !e.explicit then
      return { s.put { e with explicit := true } with current := key }
    else none
  | none => return { s.put ⟨key, .table, true, false⟩ with current := key }

/-- The header of one more table of a list. -/
def listHeader? (s : Seen) (key : List String) : Option Seen := do
  let s ← s.close.openWay [] key
  match s.find? key with
  | some e =>
    if e.kind = .tableList then
      let entries := s.entries.filter fun x => !(key.isPrefixOf x.path && x.path != key)
      return { entries, current := key }
    else none
  | none => return { s.put ⟨key, .tableList, true, false⟩ with current := key }

/-- The parts of a key in a table. -/
def keyParts? (s : Seen) (done : List String) : List String → Option Seen
  | [] => some s
  | k :: r =>
    let path := done ++ [k]
    match s.find? path with
    | none => keyParts? (s.put ⟨path, .table, false, true⟩) path r
    | some e => if r.isEmpty || e.kind ≠ .table || e.explicit then none else keyParts? s path r

/-- A key that gets a value. -/
def key? (s : Seen) (key : List String) : Option Seen := do
  let s ← s.keyParts? s.current key
  let path := s.current ++ key
  match s.find? path with
  | some e => return s.put { e with kind := .value }
  | none => return s

mutual

/-- Do the tables inside a value define no key twice? -/
def isSound : Value → Bool
  | .table entries => areSound blank entries
  | .list items => itemsSound items
  | _ => true

/-- Do entries define no key twice? -/
def areSound (s : Seen) : List (List String × Value) → Bool
  | [] => true
  | (k, v) :: r =>
    match s.key? k with
    | none => false
    | some s => isSound v && areSound s r

/-- Do the items of a list define no key twice? -/
def itemsSound : List Value → Bool
  | [] => true
  | v :: r => isSound v && itemsSound r

end

/-- The definitions after a statement, if it repeats none. -/
def check? (s : Seen) : Statement → Option Seen
  | .entry key v => do
    let s ← s.key? key
    if isSound v then return s else none
  | .header key => s.header? key
  | .listHeader key => s.listHeader? key

end Seen

end PayloadGen.Toml
