import PayloadGen.Watch.Tree

/-!
# Edits of a watched disk

An `Edit` changes the disk, and each watched folder tells what happened directly in it. The watch of
a removed or renamed folder ends with it.
-/

namespace PayloadGen.Watch

open PayloadGen Text

/-- A change of the disk by somebody else. -/
inductive Edit where
  /-- A file gets a content, and is made if need be. -/
  | write (path : String) (content : Bytes)
  | makeFolder (path : String)
  /-- A file or a folder goes, with all that is in it. -/
  | remove (path : String)
  | rename (path target : String)
  /-- The rights of a file or a folder change. -/
  | chmod (path : String)

/-- What a watch of the folder that holds the place tells about it. -/
def Registry.told (r : Registry) (place : Place) (what : Happening) : List Event :=
  match place.getLast?, r.watch? place.dropLast with
  | some name, some folder => [⟨folder ++ "/" ++ name, what⟩]
  | _, _ => []

/-- The disk after an edit, the watches that are left, and what the watches tell. Nothing happens if
the edit is not possible. -/
def Edit.apply (d : Disk) (r : Registry) : Edit → Disk × Registry × List Event
  | write path content =>
    match d.locate path, d.write path content with
    | .ok place, .ok after =>
      let events := match d.entryAt? place with
        | some _ => r.told place .write
        | none => r.told place .create ++ (if content.isEmpty then [] else r.told place .write)
      (after, r, events)
    | _, _ => (d, r, [])
  | makeFolder path =>
    match d.locate path, d.makeFolder path with
    | .ok place, .ok after => (after, r, r.told place .create)
    | _, _ => (d, r, [])
  | remove path =>
    match d.locate path with
    | .ok place =>
      if Path.base path = "." || place.isEmpty then (d, r, [])
      else
        let gone := (d.entries.map (·.1)).filter fun q => Place.isWithin q place
        (d.remove path, { r with watches := r.watches.filter fun w => !Place.isWithin w.1 place },
          gone.flatMap fun q => r.told q .remove)
    | .error _ => (d, r, [])
  | rename path target =>
    match d.locate path, d.locate target, d.rename path target with
    | .ok old, .ok new, .ok after =>
      if old == new then (d, r, [])
      else
        let self := match r.watch? old with
          | some folder => [⟨folder, .rename⟩]
          | none => []
        let kept := r.watches.filter fun w => w.1 != old
        let watches := kept.map fun w =>
          if Place.isWithin w.1 old then (new ++ w.1.drop old.length, w.2) else w
        (after, { r with watches }, r.told old .rename ++ r.told new .create ++ self)
    | _, _, _ => (d, r, [])
  | chmod path =>
    match d.locate path with
    | .ok place => (d, r, if (d.entryAt? place).isSome then r.told place .chmod else [])
    | .error _ => (d, r, [])

/-- The edits that lead from one disk to another: what is new or different is made, what is gone is
removed. -/
def editsBetween (old new : Disk) : List Edit :=
  let gone := (old.entries.filter fun e => (new.entryAt? e.1).isNone).map fun e =>
    Edit.remove (Disk.pathOf e.1)
  gone ++ new.entries.filterMap fun (p, e) =>
    match e, old.entryAt? p with
    | .folder, some .folder => none
    | .folder, _ => some (.makeFolder (Disk.pathOf p))
    | .file content, some (.file before) =>
      if content == before then none else some (.write (Disk.pathOf p) content)
    | .file content, _ => some (.write (Disk.pathOf p) content)

end PayloadGen.Watch
