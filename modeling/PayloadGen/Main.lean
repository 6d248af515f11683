import PayloadGen.Program.Manual
import PayloadGen.Program.Run

/-!
# The program

The files below the working folder are read into a `Disk`, the command line is carried out on it,
and what has changed is written back. While the program watches, the files are read again and again,
and their differences are edits.
-/

open PayloadGen

namespace PayloadGen.Program

/-- The settings that variables of the environment can override. -/
def settingKeys : List String :=
  ["version", "spec", "output", "format", "package", "templates", "workers", "docs.command",
    "docs.output", "docs.template", "docs.pyproject"]

/-- The variables of the environment that override settings. -/
def environment : IO Environment := do
  let found ← settingKeys.filterMapM fun key => do
    let name := Environment.variableOf key
    return (← IO.getEnv name).map fun value => (name, value)
  return Pairs.ofList found

/-- What stands at an entry of a folder, and below it. Folders that are never watched are not looked
into. -/
partial def entriesAt (folder : Place) (e : IO.FS.DirEntry) : IO (List (Place × DiskEntry)) := do
  let place := folder ++ [e.fileName]
  if !(← e.path.isDir) then return [(place, .file (← IO.FS.readBinFile e.path).toList)]
  if Watch.passedOver.contains e.fileName then return [(place, .folder)]
  let below ← (← e.path.readDir).toList.mapM (entriesAt place)
  return (place, .folder) :: below.flatten

/-- The working folder with all that is below it. -/
def readDisk : IO Disk := do
  let folder ← IO.currentDir
  let blank := Disk.blank ((Path.parts folder.toString).filter (· ≠ ""))
  let below ← (← folder.readDir).toList.mapM (entriesAt blank.here)
  return below.flatten.foldl (fun d e => d.add e.1 e.2) blank

/-- What is new or different on a disk is written. -/
def writeChanges (old new : Disk) : IO Unit := do
  for edit in Watch.editsBetween old new do
    match edit with
    | .write path content => IO.FS.writeBinFile path ⟨content.toArray⟩
    | .makeFolder path => IO.FS.createDirAll path
    | _ => pure ()

/-- What an outcome shows is written: forms and results to the output, all else to the error
output. -/
def printOutcome (o : Outcome) : IO Unit := do
  let out ← IO.getStdout
  out.putStr o.asked
  out.write ⟨o.out.toArray⟩
  out.flush
  (← IO.getStderr).putStr (o.log ++ o.aside)

/-- The lines of the input. -/
partial def readLines (input : IO.FS.Stream) : IO (List String) := do
  let line ← input.getLine
  if line.isEmpty then return []
  let rest ← readLines input
  return String.ofList (Text.trimRightWhere (· == '\n') line.toList) :: rest

/-- The disk is looked at again and again, and every difference is an edit. -/
partial def goOn (o : Outcome) : IO Unit := do
  IO.sleep 300
  let now ← readDisk
  let next := (Watch.editsBetween o.disk now).foldl Outcome.heed { o with out := [], log := "" }
  printOutcome { next with asked := "", aside := "" }
  writeChanges now next.disk
  goOn next

/-- Does the command line open a form? -/
def opensForm (arguments : List String) : Bool :=
  let has (words : List String) : Bool := words.any arguments.contains
  (has ["init"] && !has ["--non-interactive"]) || (has ["generate"] && has ["-i", "--interactive"])

/-- The facts about this build. -/
def build : Build := ⟨"dev", "none", "unknown", "unknown"⟩

end PayloadGen.Program

/-- The command line is carried out. -/
def main (arguments : List String) : IO UInt32 := do
  let disk ← Program.readDisk
  let typed ← if Program.opensForm arguments then Program.readLines (← IO.getStdin) else pure []
  let o := Program.run ⟨disk, ← Program.environment, typed, Program.build, .ofSystem⟩ arguments
  Program.writeChanges disk o.disk
  Program.printOutcome o
  match o.result with
  | .error e =>
    let text := "error: " ++ Text.lossy e.text ++ "\n"
    (← IO.getStderr).putStr (text ++ String.join (e.hints.map fun h => "hint: " ++ h ++ "\n"))
    return 1
  | .ok _ =>
    if o.watching.isSome then Program.goOn o
    return 0
