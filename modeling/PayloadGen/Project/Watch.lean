import PayloadGen.Project.Generate
import PayloadGen.Watch.Loop

/-!
# Generating again whenever something changes

The folder of the document and the folder of templates are watched; the files that were generated
are not heeded. After each edit that matters the document is read again and the files are generated
again.
-/

namespace PayloadGen

open Text

/-- Why the files were not generated again. -/
inductive RebuildError where
  | session (cause : SessionError)
  | generate (cause : GenerateError)

/-- The wording of an error. -/
def RebuildError.text : RebuildError → Bytes
  | session cause => cause.text
  | generate cause => utf8 cause.message

namespace Session

/-- The watcher of a project whose files have been generated. -/
def watcher (s : Session) (d : Disk) (g : Generated) : Watch.Watcher where
  folders := Path.dir (s.path s.config.spec) ::
    (if s.config.templates = "" then [] else [s.path s.config.templates])
  ignored := g.paths.map d.absolutePath

/-- The document is read again and the files are generated again. If the document cannot be read the
session stays as it is. -/
def rebuild (s : Session) (o : GenerateOptions) (d : Disk) :
    Session × Disk × List Log.Entry × Except RebuildError Generated :=
  match s.reload d with
  | .error e => (s, d, [], .error (.session e))
  | .ok s =>
    let (d, log, result) := s.generate Format.register o d
    (s, d, log, result.mapError .generate)

/-- How watching stands. -/
structure Watching where
  session : Session
  options : GenerateOptions
  watcher : Watch.Watcher
  loop : Watch.Loop

/-- One edit more: the disk afterwards, what is logged and written, and how watching stands. -/
def Watching.heed (x : Watching) (d : Disk) (edit : Watch.Edit) :
    Watching × Disk × List Log.Entry × String :=
  let (d, loop, notes, again) := x.loop.afterEdit x.watcher d edit
  let x := { x with loop }
  let told := notes.map (·.entry)
  if !again then (x, d, told, "")
  else
    match x.session.rebuild x.options d with
    | (session, d, log, .ok g) => ({ x with session }, d, told ++ log, g.report)
    | (session, d, log, .error e) =>
      ({ x with session }, d, told ++ log ++ [(Watch.Note.failed (lossy e.text)).entry], "")

/-- Watching begins: what is logged, and how watching stands. -/
def watch (s : Session) (o : GenerateOptions) (d : Disk) (g : Generated) :
    List Log.Entry × Except FileError Watching :=
  let w := s.watcher d g
  let (registry, notes, result) := Watch.Registry.empty.addTrees d w.folders
  (notes.map (·.entry), result.map fun _ => ⟨s, o, w, .start registry⟩)

end Session

end PayloadGen
