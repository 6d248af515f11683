import PayloadGen.Text.CaseMap
import PayloadGen.Toml.Reader
import PayloadGen.Toml.Seen

/-!
# The version of a project

The version stands in the project's file under `tool.poetry.version`, else under `project.version`.
The case of these keys does not matter. Tables that the library does not know are passed over.
-/

namespace PayloadGen

open Text

/-- Why a project has no version. -/
inductive ProjectError where
  /-- The file is no document of its kind, or a key in it has the wrong type. -/
  | malformed
  /-- A key leads through the version. -/
  | throughVersion
  /-- A header leads through the version. -/
  | headerThroughVersion
  | noVersion

/-- The wording of an error. -/
def ProjectError.message : ProjectError → String
  | malformed => "toml: invalid document"
  | throughVersion => "unhandled kv part: string"
  | headerThroughVersion => "unhandled part: string"
  | noVersion => "no version in pyproject"

namespace ProjectVersion

/-- What is known about a project. -/
structure Found where
  poetry : String
  project : String

/-- The places of the file that the library knows. -/
inductive Known where
  | root
  | tool
  | poetry
  | project
  | poetryVersion
  | projectVersion
  deriving DecidableEq

/-- Is the place a version? -/
def Known.isVersion (k : Known) : Bool :=
  k = .poetryVersion || k = .projectVersion

/-- The place under a key. -/
def Known.under? (k : Known) (name : String) : Option Known :=
  match k, String.ofList (name.toList.map lower) with
  | .root, "tool" => some .tool
  | .root, "project" => some .project
  | .tool, "poetry" => some .poetry
  | .poetry, "version" => some .poetryVersion
  | .project, "version" => some .projectVersion
  | _, _ => none

/-- A version that has been found. -/
def Found.set (f : Found) (k : Known) (s : String) : Found :=
  match k with
  | .poetryVersion => { f with poetry := s }
  | .projectVersion => { f with project := s }
  | _ => f

mutual

/-- A value at a place. -/
def assign (f : Found) (k : Known) : Toml.Value → Except ProjectError Found
  | .text s => if k.isVersion then .ok (f.set k s) else .error .malformed
  | .table entries => if k.isVersion then .error .malformed else assignEntries f k entries
  | .other | .list _ => .error .malformed

/-- Entries at a place, one after the other. -/
def assignEntries (f : Found) (k : Known) :
    List (List String × Toml.Value) → Except ProjectError Found
  | [] => .ok f
  | (key, v) :: r =>
    match follow k key with
    | .error e => .error e
    | .ok none => assignEntries f k r
    | .ok (some place) =>
      match assign f place v with
      | .error e => .error e
      | .ok f => assignEntries f k r

/-- The place to which a key leads, if the library knows it. -/
def follow (k : Known) : List String → Except ProjectError (Option Known)
  | [] => .ok (some k)
  | name :: r =>
    if k.isVersion then .error .throughVersion
    else match k.under? name with
      | none => .ok none
      | some place => follow place r

end

/-- The place of a header, if the library knows it. The last part of the header of a list of tables
cannot be one. -/
def headerPlace (isList : Bool) (k : Known) : List String → Except ProjectError (Option Known)
  | [] => .ok (some k)
  | name :: r =>
    if k.isVersion then .error .headerThroughVersion
    else match k.under? name with
      | none => .ok none
      | some place => if isList && r.isEmpty then .error .malformed else headerPlace isList place r

/-- How reading stands: what has been defined and found, and the place of the table at hand. -/
structure State where
  seen : Toml.Seen
  found : Found
  /-- The table at hand, if the library knows it. -/
  place : Option Known

/-- One statement more. In a table that the library does not know, entries are not looked at. -/
def step (s : State) (st : Toml.Statement) : Except ProjectError State :=
  match st, s.place with
  | .entry .., none => .ok s
  | st, _ =>
    match s.seen.check? st with
    | none => .error .malformed
    | some seen =>
      match st, s.place with
      | .entry key v, some place =>
        if place.isVersion then .error .throughVersion
        else (assignEntries s.found place [(key, v)]).map fun found => { s with seen, found }
      | .entry .., none => .ok s
      | .header key, _ => (headerPlace false .root key).map fun place => { s with seen, place }
      | .listHeader key, _ => (headerPlace true .root key).map fun place => { s with seen, place }

/-- The version that the text of a project's file gives. -/
def ofText (text : String) : Except ProjectError String := do
  let (statements, fine) := Toml.read text
  let s ← statements.foldlM step ⟨.blank, ⟨"", ""⟩, some .root⟩
  if !fine then throw .malformed
  if s.found.poetry ≠ "" then return s.found.poetry
  else if s.found.project ≠ "" then return s.found.project
  else throw .noVersion

end ProjectVersion

end PayloadGen
