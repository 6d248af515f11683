import PayloadGen.Files.Disk
import PayloadGen.Watch.Basic

/-!
# The folders that are watched

A watch sees what happens directly in one folder, so that a tree is watched folder by folder
(`Registry.addTree`). Folders of version control and of installed packages are passed over, unless
they are where the tree begins. A `Registry` remembers every path that was ever registered, and the
watches that are in force.
-/

namespace PayloadGen.Watch

open PayloadGen

/-- The names of folders that are passed over with all that is in them. -/
def passedOver : List String := [".git", "node_modules"]

/-- The folders of a tree with their paths: the folder itself, then the trees of the folders in it
by ascending name. -/
def foldersFrom (d : Disk) : (fuel : Nat) → (path : String) → (place : Place) → List String
  | 0, _, _ => []
  | fuel + 1, path, place =>
    if d.isFolder place then
      path :: (d.names place).flatMap fun name =>
        if passedOver.contains name then []
        else foldersFrom d fuel (Path.join [path, name]) (place ++ [name])
    else []

/-- The folders of the tree at a path. A file has none. -/
def treeFolders (d : Disk) (root : String) : Except FileError (List String) := do
  let refuse (c : FileCause) : FileError := ⟨"lstat", root, c⟩
  let place ← (d.locate root).mapError refuse
  if (d.entryAt? place).isNone then throw (refuse .noEntry)
  return foldersFrom d (d.entries.length + 1) root place

/-- The registered folders. -/
structure Registry where
  /-- Every path that was ever registered. -/
  seen : List String
  /-- The watches in force: the place that is watched, and the path under which events are told. -/
  watches : List (Place × String)

namespace Registry

/-- Nothing is registered. -/
def empty : Registry := ⟨[], []⟩

/-- The path under which the events of a folder are told, if it is watched. -/
def watch? (r : Registry) (place : Place) : Option String :=
  (r.watches.find? (·.1 == place)).map (·.2)

/-- The registry with a watch of a place; a watch that the place has already is told under the new
path. -/
def setWatch (r : Registry) (place : Place) (path : String) : Registry :=
  { r with watches := r.watches.filter (·.1 != place) ++ [(place, path)] }

/-- A folder is registered, unless its path was registered before. -/
def add (d : Disk) (r : Registry) (path : String) : Registry × List Note :=
  if r.seen.contains path then (r, [])
  else
    let r := { r with seen := r.seen ++ [path] }
    match d.locate path with
    | .ok place => (r.setWatch place (Path.clean path), [.watching path])
    | .error _ => (r, [.watching path])

/-- Folders are registered one after the other. -/
def addAll (d : Disk) (r : Registry) (paths : List String) : Registry × List Note :=
  paths.foldl (fun (r, notes) path =>
    let (r, more) := r.add d path
    (r, notes ++ more)) (r, [])

/-- The folders of a tree are registered. -/
def addTree (d : Disk) (r : Registry)
    (root : String) : Except FileError (Registry × List Note) := do
  return r.addAll d (← treeFolders d root)

/-- Several trees are registered in turn, up to the first that cannot be; an empty path stands for
no tree. -/
def addTrees (d : Disk) (r : Registry) : List String → Registry × List Note × Except FileError Unit
  | [] => (r, [], .ok ())
  | "" :: rest => addTrees d r rest
  | root :: rest =>
    match r.addTree d root with
    | .error e => (r, [], .error e)
    | .ok (r, notes) =>
      let (r, more, outcome) := addTrees d r rest
      (r, notes ++ more, outcome)

end Registry

end PayloadGen.Watch
