import PayloadGen.Config.Basic
import PayloadGen.Yaml.Writer

/-!
# Writing a configuration

The file of a configuration. Values that are optional and empty are left out.
-/

namespace PayloadGen.Config

open Yaml

/-- An entry that is left out if it is empty. -/
def optional (isEmpty : Bool) (name : String) (b : Block) : List (String × Block) :=
  if isEmpty then [] else [(name, b)]

/-- A text that is left out if it is empty. -/
def optionalText (name s : String) : List (String × Block) :=
  optional (s == "") name (.text s)

/-- A mapping that is left out if it is empty. -/
def optionalMapping (name : String) (entries : List (String × Block)) : List (String × Block) :=
  optional entries.isEmpty name (.mapping entries)

/-- The entries on the documentation. -/
def docsEntries (d : DocsConfig) : List (String × Block) :=
  optionalText "command" d.command ++ optionalText "output" d.output ++
    optionalText "template" d.template ++ optionalText "pyproject" d.pyproject ++
    optionalMapping "params" ((sortEntries d.params.entries).map fun e => (e.1, .text e.2))

/-- The entries of the file of a configuration. -/
def entries (c : Config) : List (String × Block) :=
  [("version", .int c.version), ("spec", .text c.spec), ("output", .text c.output),
    ("format", .text c.format)] ++ optionalText "package" c.package ++
    optionalText "templates" c.templates ++ optional (c.workers == 0) "workers" (.int c.workers) ++
    optionalMapping "docs" (docsEntries c.docs)

/-- The file of a configuration. -/
def render (c : Config) : String :=
  writeDocument c.entries

end PayloadGen.Config
