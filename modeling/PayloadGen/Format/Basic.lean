import PayloadGen.Format.Avro
import PayloadGen.Format.Go.Basic
import PayloadGen.Format.Markdown
import PayloadGen.Format.Protobuf
import PayloadGen.Format.Pydantic

/-!
# Output formats

The formats in which a compiled unit can be written.
-/

namespace PayloadGen

open Text

/-- An output format. -/
inductive Format where
  | avro
  | gotypes
  | markdown
  | protobuf
  | pydantic

namespace Format

/-- All formats, in ascending order of their names. -/
def all : List Format := [avro, gotypes, markdown, protobuf, pydantic]

/-- The name of a format. -/
def name : Format → String
  | avro => "avro"
  | gotypes => "gotypes"
  | markdown => "markdown"
  | protobuf => "protobuf"
  | pydantic => "pydantic"

/-- The extension of the files of a format. -/
def extension : Format → String
  | avro => ".avsc"
  | gotypes => ".go"
  | markdown => ".md"
  | protobuf => ".proto"
  | pydantic => ".py"

/-- The format of a name. -/
def ofName (s : String) : Except Error Format :=
  match all.find? (·.name == s) with
  | some f => .ok f
  | none => .error (.unknownFormat s (all.map name))

/-- The spelling of types and names in a format. -/
def dialect : Format → Dialect
  | avro => Avro.dialect
  | gotypes => Go.dialect
  | markdown => Markdown.dialect
  | protobuf => Protobuf.dialect
  | pydantic => Pydantic.dialect

/-- The file of a unit in a format. The package is a name that some formats put at the top of the
file. -/
def render (f : Format) (package : String) (unit : Option CompiledUnit) : Except Error String :=
  match unit with
  | none => .error .noUnit
  | some u =>
    match f with
    | avro => Avro.render package u
    | gotypes => Go.render package u
    | markdown => Markdown.render u
    | protobuf => Protobuf.render package u
    | pydantic => Pydantic.render u

/-! ## Registers -/

/-- What writes units in a format: the extension of its files, and the content of the file of a
unit. -/
structure Translator where
  extension : String
  translate : (package : String) → CompiledUnit → Except Error Bytes

/-- Translators under the names of their formats. -/
abbrev Register := Pairs Translator

/-- The translator of a name. -/
def Register.translator (r : Register) (name : String) : Except Error Translator :=
  match r.find? name with
  | some t => .ok t
  | none => .error (.unknownFormat name r.keys)

/-- The formats of this library. -/
def register : Register :=
  all.map fun f => (f.name, ⟨f.extension, fun package u => (f.render package (some u)).map utf8⟩)

end Format

end PayloadGen
