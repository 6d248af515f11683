import PayloadGen.Dict
import PayloadGen.Text.Basic

/-!
# The configuration of a project

What a project sets: which document is read, what is written and where, and how the documentation is
made.
-/

namespace PayloadGen

open Text

/-- How the documentation of a project is made. -/
structure DocsConfig where
  command : String
  output : String
  template : String
  pyproject : String
  /-- Parameters of the template. -/
  params : Dict String

/-- The configuration of a project. -/
structure Config where
  version : Int
  /-- The document. -/
  spec : String
  output : String
  format : String
  package : String
  /-- The folder of templates, if it is not empty. -/
  templates : String
  workers : Int
  docs : DocsConfig

/-- What is wrong with a configuration. -/
inductive ConfigFault where
  | unsupportedVersion
  | missingSpec
  | missingOutput
  | missingFormat
  | negativeWorkers (n : Int)

/-- The wording of a fault. -/
def ConfigFault.message : ConfigFault → String
  | unsupportedVersion => "unsupported config version"
  | missingSpec => "spec is required"
  | missingOutput => "output is required"
  | missingFormat => "format is required"
  | negativeWorkers n => "workers must be >= 0, got " ++ ofInt n

namespace Config

/-- The version of configurations that this library reads. -/
def currentVersion : Int := 1

/-- What holds where a project sets nothing. -/
def standard : Config where
  version := currentVersion
  spec := "asyncapi.yml"
  output := "payloads.py"
  format := "pydantic"
  package := ""
  templates := ""
  workers := 0
  docs := ⟨"npx ag", "docs", "@asyncapi/html-template", "pyproject.toml", .empty⟩

/-- Are the needed values there, and in range? The format may be one that does not exist. -/
def validate (c : Config) : Except ConfigFault Unit :=
  if c.version ≠ currentVersion then .error .unsupportedVersion
  else if c.spec = "" then .error .missingSpec
  else if c.output = "" then .error .missingOutput
  else if c.format = "" then .error .missingFormat
  else if c.workers < 0 then .error (.negativeWorkers c.workers)
  else .ok ()

end Config

end PayloadGen
