import PayloadGen.Text.Basic

/-!
# Slash-separated paths

The shortest form of a path (`Path.clean`), joining, and the parts of a path.
-/

namespace PayloadGen.Path

open Text

/-- Is the path counted from the root? -/
def isAbsolute (p : String) : Bool :=
  p.toList.head? == some '/'

/-- The parts between slashes, empty ones included. -/
def parts (p : String) : List String :=
  (List.splitOn '/' p.toList).map String.ofList

theorem parts_append_slash (a b : String) : parts (a ++ "/" ++ b) = parts a ++ parts b := by
  simp only [parts, String.toList_append, List.append_assoc]
  exact (congrArg _ (List.splitOn_append_cons_self a.toList b.toList)).trans List.map_append

@[simp] theorem intercalate_parts (p : String) : "/".intercalate (parts p) = p := by
  have htexts : (parts p).map String.toList = List.splitOn '/' p.toList := by
    simp [parts, Function.comp_def, String.toList_ofList]
  rw [← String.toList_inj, String.toList_intercalate, htexts]
  exact List.intercalate_splitOn '/'

theorem not_mem_of_mem_parts {p w : String} (h : w ∈ parts p) : '/' ∉ w.toList := by
  obtain ⟨v, hv, rfl⟩ := List.mem_map.1 h
  simpa using not_mem_of_mem_splitOn hv

theorem mem_of_mem_parts {p w : String} {c : Char} (hw : w ∈ parts p) (hc : c ∈ w.toList) :
    c ∈ p.toList := by
  obtain ⟨v, hv, rfl⟩ := List.mem_map.1 hw
  exact mem_of_mem_splitOn hv (by simpa using hc)

/-- A part that leads one folder or file down. -/
def IsName (w : String) : Prop :=
  w ≠ "" ∧ w ≠ "." ∧ w ≠ ".."

/-- One more part at the end of a shortest path, the last part first. A part `..` takes back the
part before it. -/
def step (absolute : Bool) (done : List String) (part : String) : List String :=
  if part = "" || part = "." then done
  else if part = ".." then
    match done with
    | [] => if absolute then [] else [".."]
    | ".." :: _ => ".." :: done
    | _ :: r => r
  else part :: done

/-- The parts of the shortest path. -/
def cleanParts (p : String) : List String :=
  ((parts p).foldl (step (isAbsolute p)) []).reverse

/-- The shortest path to the same place. -/
def clean (p : String) : String :=
  let body := "/".intercalate (cleanParts p)
  if isAbsolute p then "/" ++ body else if body = "" then "." else body

/-- The shortest path that leads along several paths; empty ones do not count. -/
def join (ps : List String) : String :=
  match ps.filter (· ≠ "") with
  | [] => ""
  | ps => clean ("/".intercalate ps)

/-- The shortest path to what holds the last part. -/
def dir (p : String) : String :=
  clean (String.ofList (p.toList.take (p.toList.length - (afterLast '/' p.toList).length)))

/-- The last part of a path, trailing slashes apart. -/
def base (p : String) : String :=
  if p = "" then "."
  else
    let b := afterLast '/' (trimRightWhere (· == '/') p.toList)
    if b.isEmpty then "/" else String.ofList b

/-- The last dot of the last part and what follows it. -/
def extension (p : String) : String :=
  let name := afterLast '/' p.toList
  if name.contains '.' then String.ofList ('.' :: afterLast '.' name) else ""

/-- Is the path the name of a file below some root: relative, without empty parts and without dots
that lead elsewhere? -/
def isInner (p : String) : Bool :=
  p = "." || (parts p).all fun s => s ≠ "" && s ≠ "." && s ≠ ".."

end PayloadGen.Path
