import PayloadGen.Config.Settings
import PayloadGen.Files.Basic
import PayloadGen.Number.Literal
import PayloadGen.Yaml.Decode
import PayloadGen.Yaml.Node.Reader

/-!
# Reading a configuration

`Config.read` reads the file of a configuration and lets the environment override it. Numbers and
texts stand for each other where that makes sense. Only the parameters of the documentation are read
as they are written.
-/

namespace PayloadGen

open Text

/-- A setting that does not have the type it needs. -/
inductive Misfit where
  | number (field : String) (outOfRange : Bool)
  | type (field expected actual : String)
  | group (field actual : String)
  | mapping (field actual : String)

/-- The wording of a misfit. -/
def Misfit.message : Misfit → String
  | number field outOfRange =>
    "'" ++ field ++ "' cannot parse value as 'int': strconv.ParseInt: " ++
      (if outOfRange then "value out of range" else "invalid syntax")
  | type field expected actual =>
    "'" ++ field ++ "' expected type '" ++ expected ++ "', got unconvertible type '" ++
      actual ++ "'"
  | group field actual => "'" ++ field ++ "' expected a map or struct, got \"" ++ actual ++ "\""
  | mapping field actual => "'" ++ field ++ "' expected a map, got '" ++ actual ++ "'"

/-- Why a configuration cannot be read. -/
inductive ConfigError where
  | unreadable (path : String) (cause : FileError)
  | malformed (path : String) (cause : Yaml.Error)
  | unfit (path : String) (misfits : List Misfit)
  /-- The parameters of the documentation are no texts. -/
  | params (path : String) (cause : Yaml.Error)

/-- The wording of an error. -/
def ConfigError.text : ConfigError → Bytes
  | unreadable path cause => utf8 ("failed to read config file " ++ path ++ ": " ++ cause.message)
  | malformed path cause =>
    utf8 ("failed to read config file " ++ path ++ ": While parsing config: ") ++ cause.message
  | unfit path misfits =>
    utf8 ("failed to unmarshal config from " ++ path ++
      ": decoding failed due to the following error(s):\n\n" ++
      "\n".intercalate (misfits.map (·.message)))
  | params path cause => utf8 ("failed to unmarshal config from " ++ path ++ ": ") ++ cause.message

namespace Config

/-- The name of the type of a value in messages. -/
def typeName : Yaml.Value → String
  | .null => "nil"
  | .bool _ => "bool"
  | .int _ => "int"
  | .float _ => "float64"
  | .time _ => "time.Time"
  | .text _ => "string"
  | .list _ => "[]interface \x7b\x7d"
  | .dict _ | .table _ => "map[string]interface \x7b\x7d"

/-- The kind of a value in messages. -/
def kindName : Yaml.Value → String
  | .time _ => "struct"
  | .list _ => "slice"
  | .dict _ | .table _ => "map"
  | v => typeName v

/-- The whole part of a number; a number out of range is the least one. -/
def wholePart : Binary64 → Int
  | .finite negative m e _ =>
    let (num, den) := Binary64.ratio m e
    let n : Int := if negative then -((num / den : Nat) : Int) else (num / den : Nat)
    if fits64 n then n else -0x8000000000000000
  | _ => -0x8000000000000000

/-- A value as a whole number of 64 bits. -/
def toInt (field : String) : Yaml.Value → Except Misfit Int
  | .null => .ok 0
  | .bool b => .ok (if b then 1 else 0)
  | .int n => .ok (Int.bmod n 0x10000000000000000)
  | .float x => .ok (wholePart x)
  | .text s =>
    if s = "" then .ok 0
    else match wholeNumber? s.toList with
      | some n => if fits64 n then .ok n else .error (.number field true)
      | none => .error (.number field false)
  | v => .error (.type field "int" (typeName v))

/-- A value as a text. -/
def toText (field : String) : Yaml.Value → Except Misfit String
  | .null => .ok ""
  | .bool b => .ok (if b then "1" else "0")
  | .int n => .ok (ofInt n)
  | .float x => .ok (x.render .positionalOnly)
  | .text s => .ok s
  | v => .error (.type field "string" (typeName v))

mutual

/-- What keeps a value from being a mapping of texts. A list of mappings counts as one mapping. -/
def textsMisfits (field : String) : Yaml.Value → List Misfit
  | .null => []
  | .dict entries => entryMisfits field entries
  | .table _ => []
  | .list items => itemMisfits field 0 items
  | v => [.mapping field (kindName v)]

/-- What keeps the values of entries from being texts. -/
def entryMisfits (field : String) : List (String × Yaml.Value) → List Misfit
  | [] => []
  | (k, v) :: r =>
    (match toText (field ++ "[" ++ k ++ "]") v with
      | .ok _ => []
      | .error m => [m]) ++ entryMisfits field r

/-- What keeps the items of a list from being mappings of texts. -/
def itemMisfits (field : String) (i : Nat) : List Yaml.Value → List Misfit
  | [] => []
  | v :: r => textsMisfits (field ++ "[" ++ ofInt i ++ "]") v ++ itemMisfits field (i + 1) r

end

/-- A result, or a substitute with what went wrong. -/
def orElse {α : Type} (substitute : α) : Except Misfit α → List Misfit × α
  | .ok a => ([], a)
  | .error m => ([m], substitute)

/-- The text of a setting; one that is not there is empty. -/
def textAt (front : String) (d : Settings) (name : String) : List Misfit × String :=
  orElse "" (toText (front ++ name) ((d.find? name).getD .null))

/-- The number of a setting. -/
def intAt (d : Settings) (name : String) : List Misfit × Int :=
  orElse 0 (toInt name ((d.find? name).getD .null))

/-- How the documentation is made, without the parameters of its template. -/
def docsOf : Option Yaml.Value → List Misfit × DocsConfig
  | none => ([], ⟨"", "", "", "", .empty⟩)
  | some (.dict d) =>
    let (m₁, command) := textAt "docs." d "command"
    let (m₂, output) := textAt "docs." d "output"
    let (m₃, template) := textAt "docs." d "template"
    let (m₄, pyproject) := textAt "docs." d "pyproject"
    let m₅ := textsMisfits "docs.params" ((Pairs.find? "params" d).getD .null)
    (m₁ ++ m₂ ++ m₃ ++ m₄ ++ m₅, ⟨command, output, template, pyproject, .empty⟩)
  | some v => ([.group "docs" (kindName v)], ⟨"", "", "", "", .empty⟩)

/-- The configuration that settings make. -/
def ofSettings (d : Settings) : Except (List Misfit) Config :=
  let (m₁, version) := intAt d "version"
  let (m₂, spec) := textAt "" d "spec"
  let (m₃, output) := textAt "" d "output"
  let (m₄, format) := textAt "" d "format"
  let (m₅, package) := textAt "" d "package"
  let (m₆, templates) := textAt "" d "templates"
  let (m₇, workers) := intAt d "workers"
  let (m₈, docs) := docsOf (d.find? "docs")
  let misfits := m₁ ++ m₂ ++ m₃ ++ m₄ ++ m₅ ++ m₆ ++ m₇ ++ m₈
  if misfits.isEmpty then .ok ⟨version, spec, output, format, package, templates, workers, docs⟩
  else .error misfits

/-- The part of a configuration file that is read as it is written. -/
def paramsShape : Yaml.Shape :=
  .record ("struct \x7b Docs struct \x7b Params map[string]string \"yaml:\\\"params\\\"\" \x7d " ++
      "\"yaml:\\\"docs\\\"\" \x7d")
    [("docs", .record "struct \x7b Params map[string]string \"yaml:\\\"params\\\"\" \x7d"
      [("params", .texts)])]

/-- A configuration from the text of its file. -/
def ofText (env : Environment) (path text : String) : Except ConfigError Config := do
  let document ← (Yaml.Document.read path text).mapError (.malformed path ·)
  match document with
  | none => (ofSettings (Settings.merged env [])).mapError (.unfit path ·)
  | some d =>
    let library : Yaml.Library := [(path, d)]
    let entries ← (library.dict d.root).mapError (.malformed path ·)
    let file := Settings.settle (Settings.loweredEntries entries)
    let config ← (ofSettings (Settings.merged env file)).mapError (.unfit path ·)
    let filled ← (library.fill paramsShape d.root).mapError (.params path ·)
    let params := (((filled.field? "docs").bind (·.field? "params")).map (·.allTexts)).getD .empty
    return { config with docs := { config.docs with params } }

/-- A configuration from its file. -/
def read (env : Environment) (path : String) (file : Except FileError String) :
    Except ConfigError Config := do
  ofText env path (← file.mapError (.unreadable path ·))

end Config

end PayloadGen
