import PayloadGen.Log.Basic

/-!
# Changes of files and what is told about them

An `Event` says what happened to a path. Documents and templates are recognised by the ending of
their names (`isRelevant`). What a watcher has to tell is a list of `Note`s, each of which is one
entry of the log.
-/

namespace PayloadGen.Watch

/-- The endings of names of files whose change asks for a rebuild. -/
def endings : List String := [".yaml", ".yml", ".json", ".tmpl"]

/-- Does a change of the file ask for a rebuild? -/
def isRelevant (name : String) : Bool :=
  endings.any (Text.endsWith name)

/-- What can happen to a path. -/
inductive Happening where
  | create
  | write
  | rename
  | remove
  | chmod
  deriving DecidableEq

/-- The word for what happened. -/
def Happening.word : Happening → String
  | create => "CREATE"
  | write => "WRITE"
  | rename => "RENAME"
  | remove => "REMOVE"
  | chmod => "CHMOD"

/-- Can it change what a file says? A removed file and one with other rights say nothing new. -/
def Happening.counts : Happening → Bool
  | create | write | rename => true
  | remove | chmod => false

/-- Something that happened to a path. -/
structure Event where
  path : String
  what : Happening
  deriving DecidableEq

/-- What a watcher tells. -/
inductive Note where
  /-- A folder is watched from now on. -/
  | watching (folder : String)
  /-- A change that asks for a rebuild. -/
  | change (e : Event)
  /-- A rebuild did not succeed. -/
  | failed (reason : String)
  /-- A folder cannot be watched. -/
  | trouble (reason : String)

/-- The log entry of a note. -/
def Note.entry : Note → Log.Entry
  | watching folder => ⟨.debug, "watching", [("dir", .text folder)]⟩
  | change e => ⟨.debug, "change detected", [("file", .text e.path), ("op", .text e.what.word)]⟩
  | failed reason => ⟨.error, "rebuild failed", [("error", .text reason)]⟩
  | trouble reason => ⟨.warn, "watcher error", [("error", .text reason)]⟩

end PayloadGen.Watch
