import PayloadGen.Build
import PayloadGen.Command.Find
import PayloadGen.Command.Help
import PayloadGen.Json.Writer
import PayloadGen.Program.Tree
import PayloadGen.Project.Docs
import PayloadGen.Project.Init
import PayloadGen.Project.Watch
import PayloadGen.Terminal.Preview
import PayloadGen.Terminal.Table

/-!
# Running the program

`run` carries out a command line: which command is meant, what its flags say, and then its work on
the disk. All that the program sees and does is in the `Surroundings` and the `Outcome`. If the
program goes on watching the disk, then `Outcome.heed` is what follows from an edit.
-/

namespace PayloadGen.Program

open Command Text

/-- What the program finds when it is started. -/
structure Surroundings where
  disk : Disk
  environment : Environment
  /-- The lines that are typed into forms. -/
  typed : List String
  build : Build
  finder : ProgramFinder

/-- Why the program fails. -/
inductive Failure where
  | unknownCommand (cause : UnknownCommand)
  | flag (cause : FlagError)
  | arguments (command : String) (argument : String)
  | session (cause : SessionError)
  | noSession
  | start (cause : InitError)
  | noSuchChoice
  | generate (cause : GenerateError)
  | watch (cause : FileError)
  | compile (cause : CompileError)
  | render (cause : Format.Error)
  | projectFile (cause : ProjectFileError)
  | docs (cause : DocsError)

/-- The wording of a failure. -/
def Failure.text : Failure → Bytes
  | unknownCommand cause => utf8 cause.message
  | flag cause => utf8 cause.message
  | arguments command argument =>
    utf8 ("unknown command " ++ quote argument ++ " for " ++ quote command)
  | session cause => cause.text
  | noSession => utf8 "project context not loaded"
  | start cause => utf8 cause.message
  | noSuchChoice => []
  | generate cause => utf8 cause.message
  | watch cause => utf8 cause.message
  | compile cause => utf8 cause.message
  | render cause => utf8 cause.message
  | projectFile cause => utf8 cause.message
  | docs cause => utf8 cause.message

/-- What helps against a failure. -/
def Failure.hints : Failure → List String
  | generate (.compile cause) | compile cause => cause.hints
  | _ => []

/-- What the program has done. -/
structure Outcome where
  disk : Disk
  /-- What forms wrote. -/
  asked : String
  /-- What commands wrote. -/
  out : Bytes
  /-- Complaints that are no failures. -/
  aside : String
  log : String
  result : Except Failure Unit
  /-- How watching stands, if the program goes on watching, and how the log is written. -/
  watching : Option (Session.Watching × Log.Style)

/-- What has been done after an edit of the disk that the program watches. -/
def Outcome.heed (o : Outcome) (edit : Watch.Edit) : Outcome :=
  match o.watching with
  | none => o
  | some (watching, style) =>
    let (watching, disk, log, out) := watching.heed o.disk edit
    { o with
      disk, out := o.out ++ utf8 out, log := o.log ++ Log.render style log,
      watching := some (watching, style) }

/-- An outcome in which nothing has been done. -/
def Surroundings.nothing (x : Surroundings) (result : Except Failure Unit) : Outcome :=
  ⟨x.disk, "", [], "", "", result, none⟩

/-- An outcome in which only something was written. -/
def Surroundings.print (x : Surroundings) (text : String) : Outcome :=
  { x.nothing (.ok ()) with out := utf8 text }

/-- How the log is written. -/
def logStyle (s : Given) : Log.Style :=
  ⟨s.number "verbose" 0, s.isOn "log-json"⟩

/-- The work of a command on the project in the folder at hand. -/
def withSession (x : Surroundings) (work : Session → Outcome) : Outcome :=
  match Session.load x.disk x.environment x.disk.workingPath with
  | .error e => x.nothing (.error (.session e))
  | .ok s => work s

/-! ## The commands -/

/-- Starts a project. -/
def runInit (x : Surroundings) (f : Given) : Outcome :=
  let o : InitOptions :=
    ⟨⟨f.text "spec" Config.standard.spec, f.text "output" Config.standard.output,
      f.text "format" Config.standard.format, f.text "package" ""⟩, f.text "templates" "",
      !f.isOn "non-interactive"⟩
  let (disk, dialogue, log, result) := o.run x.disk.workingPath ⟨x.typed, ""⟩ x.disk
  let log := Log.render (logStyle f) log
  match result with
  | .ok report => ⟨disk, dialogue.written, utf8 report, "", log, .ok (), none⟩
  | .error .noSuchChoice => ⟨disk, dialogue.written, [], "", log, .error .noSuchChoice, none⟩
  | .error e => ⟨disk, dialogue.written, [], "", log, .error (.start e), none⟩

/-- What is written before watching begins. -/
def watchBanner : String := "Watching for changes. Press Ctrl+C to stop.\n"

/-- Generates files, and begins to watch if asked to. -/
def generateWith (x : Surroundings) (f : Given) (s : Session) (o : GenerateOptions)
    (asked : String) : Outcome :=
  let style := logStyle f
  match s.generate Format.register o x.disk with
  | (disk, log, .error e) => ⟨disk, asked, [], "", Log.render style log, .error (.generate e), none⟩
  | (disk, log, .ok g) =>
    if !f.isOn "watch" then ⟨disk, asked, utf8 g.report, "", Log.render style log, .ok (), none⟩
    else
      let (more, watching) := s.watch o disk g
      let outcome : Outcome :=
        ⟨disk, asked, utf8 (g.report ++ watchBanner), "", Log.render style (log ++ more),
          .ok (), none⟩
      match watching with
      | .ok w => { outcome with watching := some (w, style) }
      | .error e => { outcome with result := .error (.watch e) }

/-- Generates the files of the project. -/
def runGenerate (x : Surroundings) (f : Given) : Outcome :=
  withSession x fun s =>
    let o : GenerateOptions := ⟨f.text "format" "", f.text "output" "", f.text "package" "",
      if f.has "workers" then some (f.number "workers" 0) else none⟩
    if !f.isOn "interactive" then generateWith x f s o ""
    else
      let askOutput := !f.has "output"
      let output := if askOutput && o.output = "" then s.config.output else o.output
      match Prompt.askGenerate ⟨x.typed, ""⟩ (Format.all.map Format.name) o.format output
        askOutput with
      | .error _ => x.nothing (.error .noSuchChoice)
      | .ok (dialogue, format, output) =>
        generateWith x f s { o with format, output } dialogue.written

/-- Lists the topics. -/
def runTopics (x : Surroundings) (f : Given) : Outcome :=
  withSession x fun s =>
    match bindTopics s.spec.channels with
    | .error e => x.nothing (.error (.compile e))
    | .ok topics =>
      if f.isOn "json" then
        let json := Json.ofMembers (topics.entries.map fun (k, v) => (k, Json.ofString v))
        x.print (String.ofList (Json.indented 0 json) ++ "\n")
      else if topics.entries.isEmpty then x.print "No topics defined.\n"
      else x.print ((Terminal.topicsTable topics).render ++ "\n")

/-- Shows what would be generated. -/
def runShow (x : Surroundings) (f : Given) : Outcome :=
  withSession x fun s =>
    let (log, result) := PayloadGen.compile ⟨s.config.workers, false⟩ s.spec
    let outcome := { x.nothing (.ok ()) with log := Log.render (logStyle f) log }
    match result with
    | .error e => { outcome with result := .error (.compile e) }
    | .ok unit =>
      match Format.markdown.render "" (some unit) with
      | .error e => { outcome with result := .error (.render e) }
      | .ok text =>
        let out := if f.isOn "raw" then text else Terminal.preview (f.number "width" 80) text
        { outcome with out := utf8 out }

/-- Makes the documentation. -/
def runDocs (x : Surroundings) (f : Given) : Outcome :=
  withSession x fun s =>
    let style := logStyle f
    match s.docsVersion x.disk (f.text "version" "") with
    | (log, .error e) => { x.nothing (.error (.projectFile e)) with log := Log.render style log }
    | (log, .ok version) =>
      let (more, out, result) := (s.docsJob version (f.text "output" "")).run x.finder
      ⟨x.disk, "", out, "", Log.render style (log ++ more), result.mapError .docs, none⟩

/-- Shows the version. -/
def runVersion (x : Surroundings) (f : Given) : Outcome :=
  x.print ((if f.isOn "short" then x.build.short else x.build.info) ++ "\n")

/-- Shows the help for the command that arguments mean. -/
def runHelp (x : Surroundings) (arguments : List String) : Outcome :=
  match find tree arguments with
  | .ok (l, _) => x.print l.help
  | .error _ =>
    let shown (a : String) := if a.toList.contains '`' then quote a else "`" ++ a ++ "`"
    let names := " ".intercalate (arguments.map shown)
    let usage := Located.usageWith ⟨tree, []⟩ commonFlags
    { x.nothing (.ok ()) with aside := "Unknown help topic [" ++ names ++ "]\n" ++ usage }

/-- The work of a command. -/
def runCommand (x : Surroundings) (l : Located) (f : Given) (arguments : List String) : Outcome :=
  match l.tree.name with
  | "init" => runInit x f
  | "generate" => runGenerate x f
  | "topics" => runTopics x f
  | "show" => runShow x f
  | "docs" => runDocs x f
  | "version" => runVersion x f
  | "help" => runHelp x arguments
  | _ =>
    match arguments with
    | [] => x.nothing (.ok ())
    | a :: _ => x.nothing (.error (.arguments l.path a))

/-- A command line is carried out. -/
def run (x : Surroundings) (arguments : List String) : Outcome :=
  match find tree arguments with
  | .error e => x.nothing (.error (.unknownCommand e))
  | .ok (l, rest) =>
    match readFlags (l.ownFlags ++ l.inherited) rest with
    | .error e => x.nothing (.error (.flag e))
    | .ok (f, arguments) =>
      if f.isOn "help" || !l.tree.about.runnable then x.print l.help else runCommand x l f arguments

end PayloadGen.Program
