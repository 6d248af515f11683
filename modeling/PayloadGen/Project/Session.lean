import PayloadGen.Config.Reader
import PayloadGen.Files.Disk
import PayloadGen.Spec.Reader
import PayloadGen.Spec.Version

/-!
# Work on a project

A project is a folder with a configuration, which names the document. A `Session` holds both as they
were read; `Session.reload` reads the document again.
-/

namespace PayloadGen

open Text

/-- Why a project cannot be worked on. -/
inductive SessionError where
  /-- The folder has no configuration. -/
  | notInitialized
  | unreadableConfig (cause : ConfigError)
  | faultyConfig (cause : ConfigFault)
  | specNotFound (cause : FileError)
  | unreadableSpec (cause : SpecError)
  | unsupportedSpec (cause : VersionError)

/-- The wording of an error. -/
def SessionError.text : SessionError → Bytes
  | notInitialized => utf8 "not in an asyncgen project (asyncgen.yaml not found)"
  | unreadableConfig cause => utf8 "invalid configuration: " ++ cause.text
  | faultyConfig cause => utf8 ("invalid configuration: " ++ cause.message)
  | specNotFound cause => utf8 ("spec file not found: " ++ cause.message)
  | unreadableSpec cause => utf8 "invalid AsyncAPI spec: " ++ cause.text
  | unsupportedSpec cause => utf8 ("invalid AsyncAPI spec: " ++ cause.message)

/-- A project that is worked on. -/
structure Session where
  /-- The folder of the project. -/
  folder : String
  config : Config
  spec : Spec

/-- The name of the configuration in the folder of a project. -/
def Config.fileName : String := "asyncgen.yaml"

namespace Session

/-- The path to which a path of the configuration leads: a relative one begins at the folder of the
project. -/
def pathFrom (folder path : String) : String :=
  if Path.isAbsolute path then path else Path.join [folder, path]

/-- The path to which a path of the configuration leads. -/
def path (s : Session) (p : String) : String :=
  pathFrom s.folder p

/-- The document at a path. Its references begin at the folder that holds it. -/
def readSpec (d : Disk) (path : String) : Except SessionError Spec := do
  let _ ← (d.stat path).mapError .specNotFound
  let spec ← (Spec.load (d.source (Path.dir path)) (Path.base path)).mapError .unreadableSpec
  (Spec.checkVersion spec.asyncapi).mapError .unsupportedSpec
  return spec

/-- The configuration of the project in a folder. -/
def readConfig (d : Disk) (env : Environment) (folder : String) : Except SessionError Config := do
  let path := Path.join [folder, Config.fileName]
  if let .error e := d.stat path then
    if e.isMissing then throw .notInitialized
  let config ← (Config.read env path ((d.read path).map lossy)).mapError .unreadableConfig
  config.validate.mapError .faultyConfig
  return config

/-- A session on the project in a folder. -/
def load (d : Disk) (env : Environment) (folder : String) : Except SessionError Session := do
  let config ← readConfig d env folder
  let spec ← readSpec d (pathFrom folder config.spec)
  return ⟨folder, config, spec⟩

/-- The session with its document read again. -/
def reload (s : Session) (d : Disk) : Except SessionError Session := do
  let spec ← readSpec d (s.path s.config.spec)
  return { s with spec }

end Session

end PayloadGen
