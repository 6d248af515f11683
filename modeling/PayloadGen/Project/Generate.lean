import PayloadGen.Format.Basic
import PayloadGen.Log.Basic
import PayloadGen.Payload.Compile
import PayloadGen.Project.Session
import PayloadGen.Template.Basic
import PayloadGen.Terminal.Result

/-!
# Generating the files of a project

`Session.generate` compiles the document and writes the file of a format, and then the rendered
templates beside it. Nothing is written before the document is compiled and the content of the file
is known. The templates are rendered after that file has been written.
-/

namespace PayloadGen

open Text

/-- What overrides the configuration. An empty text overrides nothing. -/
structure GenerateOptions where
  format : String
  output : String
  package : String
  workers : Option Int

/-- Why the files cannot be generated. -/
inductive GenerateError where
  | format (cause : Format.Error)
  | templatesMissing (cause : FileError)
  | templatesNoFolder (path : String)
  | compile (cause : CompileError)
  | render (name : String) (cause : Format.Error)
  | makeFolder (cause : FileError)
  | write (path : String) (cause : FileError)
  | templates (cause : Template.FolderFault)
  | writeTemplates (cause : FileError)

/-- The wording of an error. -/
def GenerateError.message : GenerateError → String
  | format cause => cause.message
  | templatesMissing cause => "templates directory: " ++ cause.message
  | templatesNoFolder path => "templates directory: " ++ path ++ " is not a directory"
  | compile cause => cause.message
  | render name cause => "translating to " ++ name ++ ": " ++ cause.message
  | makeFolder cause => "failed to create output directory: " ++ cause.message
  | write path cause => "failed to write " ++ path ++ ": " ++ cause.message
  | templates cause => cause.message
  | writeTemplates cause => "failed to write templates: " ++ cause.message

/-- What was generated. -/
structure Generated where
  output : String
  /-- The paths of the rendered templates. -/
  templates : List String
  unit : CompiledUnit

/-- The paths of the files that were written. -/
def Generated.paths (g : Generated) : List String :=
  g.output :: g.templates

/-- The report on what was generated. -/
def Generated.report (g : Generated) : String :=
  Terminal.report
    ([⟨"Output", g.output⟩, ⟨"Classes", ofInt g.unit.classes.length⟩,
      ⟨"Topics", ofInt g.unit.topics.entries.length⟩] ++ g.templates.map fun t => ⟨"Template", t⟩)
    "Generation completed"

namespace Session

/-- The name of the format that is written. -/
def formatName (s : Session) (o : GenerateOptions) : String :=
  if o.format = "" then s.config.format else o.format

/-- The path without its extension. -/
def stem (path : String) : String :=
  String.ofList (path.toList.take (path.length - (Path.extension path).length))

/-- Where the file is written. If only the format is overridden, the configured file changes its
extension. -/
def outputPath (s : Session) (o : GenerateOptions) (extension : String) : String :=
  if o.output ≠ "" then s.path o.output
  else if o.format ≠ "" && o.format ≠ s.config.format then
    s.path (stem s.config.output ++ extension)
  else s.path s.config.output

/-- The folder of templates, if the project has one. -/
def templatesFolder (s : Session) (d : Disk) : Except GenerateError (Option String) :=
  if s.config.templates = "" then .ok none
  else
    let folder := s.path s.config.templates
    match d.stat folder with
    | .error e => .error (.templatesMissing e)
    | .ok (.file _) => .error (.templatesNoFolder folder)
    | .ok .folder => .ok (some folder)

/-- Rendered templates are written into a folder, up to the first that cannot be. -/
def writeRendered (folder : String) : Disk → List Template.Rendered → Disk × Except FileError Unit
  | d, [] => (d, .ok ())
  | d, r :: rest =>
    match d.write (Path.join [folder, r.name]) r.content with
    | .error e => (d, .error e)
    | .ok d => writeRendered folder d rest

/-- A generated file that is to be written. -/
structure Draft where
  path : String
  format : String
  content : Bytes
  unit : CompiledUnit
  /-- The folder of templates, if there is one. -/
  templates : Option String

/-- What is to be written, as far as it is known without writing. -/
def draft (s : Session) (formats : Format.Register) (o : GenerateOptions) (d : Disk) :
    List Log.Entry × Except GenerateError Draft :=
  let name := s.formatName o
  match formats.translator name, s.templatesFolder d with
  | .error e, _ => ([], .error (.format e))
  | .ok _, .error e => ([], .error e)
  | .ok t, .ok templates =>
    match PayloadGen.compile ⟨o.workers.getD s.config.workers, false⟩ s.spec with
    | (log, .error e) => (log, .error (.compile e))
    | (log, .ok unit) =>
      let package := if o.package = "" then s.config.package else o.package
      match t.translate package unit with
      | .error e => (log, .error (.render name e))
      | .ok content => (log, .ok ⟨s.outputPath o t.extension, name, content, unit, templates⟩)

/-- The templates are rendered and written beside the file of a draft. -/
def Draft.writeTemplates (draft : Draft) (d : Disk) : Disk × Except GenerateError Generated :=
  match draft.templates with
  | none => (d, .ok ⟨draft.path, [], draft.unit⟩)
  | some folder =>
    match Template.renderAll (d.source folder) draft.unit with
    | .error e => (d, .error (.templates e))
    | .ok rendered =>
      let beside := Path.dir draft.path
      match writeRendered beside d rendered with
      | (d, .error e) => (d, .error (.writeTemplates e))
      | (d, .ok _) =>
        (d, .ok ⟨draft.path, rendered.map fun r => Path.join [beside, r.name], draft.unit⟩)

/-- A draft is written, with the folders on the way to it, and then the templates. Folders that are
made stay where not all can be. -/
def Draft.write (draft : Draft) (d : Disk) :
    Disk × List Log.Entry × Except GenerateError Generated :=
  match d.ensureFolder (Path.dir draft.path) with
  | .error e => (d.withFolders (Path.dir draft.path), [], .error (.makeFolder e))
  | .ok d =>
    match d.write draft.path draft.content with
    | .error e => (d, [], .error (.write draft.path e))
    | .ok d =>
      let entry : Log.Entry :=
        ⟨.info, "wrote output", [("path", .text draft.path), ("format", .text draft.format)]⟩
      let (d, result) := draft.writeTemplates d
      (d, [entry], result)

/-- The files of a project are generated: the disk afterwards, what is logged, and how it ends. -/
def generate (s : Session) (formats : Format.Register) (o : GenerateOptions) (d : Disk) :
    Disk × List Log.Entry × Except GenerateError Generated :=
  match s.draft formats o d with
  | (log, .error e) => (d, log, .error e)
  | (log, .ok draft) =>
    let (d, more, result) := draft.write d
    (d, log ++ more, result)

end Session

end PayloadGen
