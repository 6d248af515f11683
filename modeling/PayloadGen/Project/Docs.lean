import PayloadGen.Docs.Basic
import PayloadGen.Docs.ProjectVersion
import PayloadGen.Project.Session

/-!
# The documentation of a project

The version that the documentation shows is given, or stands in the project's own file, or in the
document.
-/

namespace PayloadGen

open Text

/-- Why the version of a project cannot be read. -/
inductive ProjectFileError where
  | unreadable (cause : FileError)
  | faulty (path : String) (cause : ProjectError)

/-- The wording of an error. -/
def ProjectFileError.message : ProjectFileError → String
  | unreadable cause => cause.message
  | faulty path cause => path ++ ": " ++ cause.message

/-- Is it only that there is no version? -/
def ProjectFileError.isAbsence : ProjectFileError → Bool
  | unreadable cause => cause.isMissing
  | faulty _ .noVersion => true
  | faulty _ _ => false

/-- The version in the project's own file. -/
def ProjectVersion.ofFile (d : Disk) (path : String) : Except ProjectFileError String := do
  let content ← (d.read path).mapError .unreadable
  (ProjectVersion.ofText (lossy content)).mapError (.faulty path ·)

namespace Session

/-- The version that the documentation shows, and what is logged. -/
def docsVersion (s : Session) (d : Disk) (given : String) :
    List Log.Entry × Except ProjectFileError String :=
  if given ≠ "" then ([], .ok given)
  else if s.config.docs.pyproject = "" then ([], .ok s.spec.info.version)
  else match ProjectVersion.ofFile d (s.path s.config.docs.pyproject) with
    | .ok v => ([], .ok v)
    | .error e =>
      if e.isAbsence then
        ([⟨.debug, "no pyproject version, using document version", [("error", .text e.message)]⟩],
          .ok s.spec.info.version)
      else ([], .error e)

/-- What documentation to make. An empty output overrides nothing. -/
def docsJob (s : Session) (version output : String) : DocsJob :=
  let docs := s.config.docs
  ⟨docs.command, s.path s.config.spec, docs.template,
    s.path (if output = "" then docs.output else output), version, docs.params⟩

end Session

end PayloadGen
