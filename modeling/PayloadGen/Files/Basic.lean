import PayloadGen.Dict
import PayloadGen.Files.Path

/-!
# Files by name

What can go wrong with a file, and a source of files that documents are read from:
`FileSource.ofDict` is one that holds its files itself.
-/

namespace PayloadGen

/-- Why an operation on a file fails. -/
inductive FileCause where
  /-- A source holds no such file. -/
  | absent
  /-- The system has no such file. -/
  | noEntry
  | notDirectory
  | isDirectory
  | invalid
  | taken
  | nameTooLong
  deriving DecidableEq

/-- The wording of a cause. -/
def FileCause.message : FileCause → String
  | absent => "file does not exist"
  | noEntry => "no such file or directory"
  | notDirectory => "not a directory"
  | isDirectory => "is a directory"
  | invalid => "invalid argument"
  | taken => "file exists"
  | nameTooLong => "file name too long"

/-- A failing operation on a file. -/
structure FileError where
  operation : String
  path : String
  cause : FileCause

namespace FileError

/-- The wording of the error. -/
def message (e : FileError) : String :=
  e.operation ++ " " ++ e.path ++ ": " ++ e.cause.message

/-- Is it that the file does not exist? -/
def isMissing (e : FileError) : Bool :=
  e.cause = .absent || e.cause = .noEntry

end FileError

/-- Files that documents are read from. -/
structure FileSource where
  /-- The names at the top, in ascending order. -/
  names : List String
  /-- The text of a file. -/
  read : String → Except FileError String
  /-- What can be read is below the root of the source. -/
  isInner_of_read : ∀ name text, read name = .ok text → Path.isInner name
  /-- Only so many files can be read. -/
  finite : ∃ files : List String, ∀ name text, read name = .ok text → name ∈ files

namespace FileSource

/-- The text of a file of a dictionary. A name is a directory if other names lead through it. -/
def readDict (files : Pairs String) (name : String) : Except FileError String :=
  if !Path.isInner name then .error ⟨"open", name, .absent⟩
  else match files.find? name with
    | some text => .ok text
    | none =>
      if name = "." || files.keys.any (fun k => Text.startsWith k (name ++ "/")) then
        .error ⟨"read", name, .invalid⟩
      else .error ⟨"open", name, .absent⟩

theorem readDict_eq_ok {files : Pairs String} {name text : String} :
    readDict files name = .ok text ↔ Path.isInner name ∧ files.find? name = some text := by
  unfold readDict
  cases Path.isInner name with
  | false => simp
  | true =>
    cases files.find? name with
    | some t => simp
    | none =>
      simp only [Bool.not_true, Bool.false_eq_true, if_false, reduceCtorEq, and_false, iff_false]
      split <;> exact fun h => by cases h

/-- A source that holds its files itself. -/
def ofDict (files : Pairs String) : FileSource where
  names :=
    sortTexts (distinct (files.keys.map fun k => String.ofList (k.toList.takeWhile (· != '/'))))
  read := readDict files
  isInner_of_read _ _ h := (readDict_eq_ok.1 h).1
  finite := ⟨files.keys, fun _ _ h => Pairs.mem_keys_of_find? (readDict_eq_ok.1 h).2⟩

end FileSource

end PayloadGen
