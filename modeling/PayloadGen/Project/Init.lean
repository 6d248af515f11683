import PayloadGen.Config.Writer
import PayloadGen.Files.Disk
import PayloadGen.Format.Basic
import PayloadGen.Log.Basic
import PayloadGen.Project.Session
import PayloadGen.Prompt.Form
import PayloadGen.Terminal.Result

/-!
# Starting a project

A folder becomes a project when a configuration is saved in it. What the configuration says is
given, or asked for in a dialogue.
-/

namespace PayloadGen

open Text

/-- What a new configuration says. -/
structure InitOptions where
  answers : Prompt.ProjectAnswers
  templates : String
  /-- Are the answers asked for? -/
  interactive : Bool

/-- Why a project cannot be started. -/
inductive InitError where
  | alreadyThere
  | noSuchChoice
  | format (cause : Format.Error)
  | config (cause : ConfigFault)
  | save (cause : FileError)

/-- The wording of an error. -/
def InitError.message : InitError → String
  | alreadyThere => "asyncgen.yaml already exists; project already initialized"
  | noSuchChoice => ""
  | format cause => cause.message
  | config cause => "invalid configuration: " ++ cause.message
  | save cause => "config file couldn't be saved: " ++ cause.message

namespace InitOptions

/-- The configuration that answers make. -/
def config (a : Prompt.ProjectAnswers) (templates : String) : Config :=
  { Config.standard with
    spec := a.spec
    output := a.output
    format := a.format
    package := a.package
    templates := templates }

/-- The report on a new project. -/
def report (c : Config) : String :=
  Terminal.report [⟨"Spec", c.spec⟩, ⟨"Format", c.format⟩, ⟨"Output", c.output⟩]
    "Initialization completed"

/-- A configuration is checked and saved in a folder: the disk afterwards, what is logged, and the
report. -/
def save (folder : String) (c : Config) (d : Disk) :
    Disk × List Log.Entry × Except InitError String :=
  match Format.ofName c.format, c.validate with
  | .error e, _ => (d, [], .error (.format e))
  | .ok _, .error e => (d, [], .error (.config e))
  | .ok _, .ok _ =>
    let spec := Session.pathFrom folder c.spec
    let log : List Log.Entry :=
      if d.hasEntry spec then []
      else [⟨.warn, "AsyncAPI document not found yet", [("path", .text spec)]⟩]
    match d.write (Path.join [folder, Config.fileName]) (utf8 c.render) with
    | .error e => (d, log, .error (.save e))
    | .ok d => (d, log, .ok (report c))

/-- A project is started in a folder: the disk and the dialogue afterwards, what is logged, and the
report. -/
def run (o : InitOptions) (folder : String) (dialogue : Prompt.Dialogue) (d : Disk) :
    Disk × Prompt.Dialogue × List Log.Entry × Except InitError String :=
  if d.hasEntry (Path.join [folder, Config.fileName]) then (d, dialogue, [], .error .alreadyThere)
  else
    let asked :=
      if o.interactive then Prompt.askProject dialogue (Format.all.map Format.name) o.answers
        else .ok (dialogue, o.answers)
    match asked with
    | .error _ => (d, dialogue, [], .error .noSuchChoice)
    | .ok (dialogue, answers) =>
      let (d, log, result) := save folder (config answers o.templates) d
      (d, dialogue, log, result)

end InitOptions

end PayloadGen
