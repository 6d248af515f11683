import PayloadGen.Command.Manual
import PayloadGen.Files.Disk
import PayloadGen.Program.Tree

/-!
# Writing the manual

The pages of the manual are written into a folder. The page of the program itself becomes the index.
-/

namespace PayloadGen.Program

open Command Text

/-- Why the manual cannot be written. -/
inductive ManualError where
  | makeFolder (cause : FileError)
  | write (cause : FileError)
  | rename (old new : String) (cause : FileCause)

/-- The wording of an error. -/
def ManualError.message : ManualError → String
  | makeFolder cause => "error creating output dir: " ++ cause.message
  | write cause => "error generating docs: " ++ cause.message
  | rename old new cause =>
    "error renaming " ++ old ++ " to " ++ new ++ ": rename " ++ old ++ " " ++ new ++ ": " ++
      cause.message

/-- The folder of the manual if none is given. -/
def manualFolder : String := "./docs/cli"

/-- Pages are written into a folder, up to the first that cannot be. -/
def writePages (folder : String) : Disk → List (String × String) → Disk × Except FileError Unit
  | d, [] => (d, .ok ())
  | d, (name, page) :: rest =>
    match d.write (Path.join [folder, name]) (utf8 page) with
    | .error e => (d, .error e)
    | .ok d => writePages folder d rest

/-- The manual is written into a folder. -/
def writeManual (folder : String) (d : Disk) : Disk × Except ManualError Unit :=
  match d.ensureFolder folder with
  | .error e => (d.withFolders folder, .error (.makeFolder e))
  | .ok d =>
    match writePages folder d (pages manualTree) with
    | (d, .error e) => (d, .error (.write e))
    | (d, .ok _) =>
      let old := Path.join [folder, pageName programName]
      let new := Path.join [folder, "index.md"]
      match d.rename old new with
      | .ok d => (d, .ok ())
      | .error cause => (d, if cause = .noEntry then .ok () else .error (.rename old new cause))

/-- What is written when the manual is complete. -/
def manualReport (folder : String) : String :=
  "Documentation generated in " ++ folder ++ "\n"

end PayloadGen.Program
