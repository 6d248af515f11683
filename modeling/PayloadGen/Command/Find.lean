import PayloadGen.Command.Basic
import PayloadGen.Text.CaseMap
import PayloadGen.Text.Utf8

/-!
# Which command is meant

The first argument that is neither a flag nor the value of one names a command below the one at
hand. If the command at the top has no such command below it, names close to the argument are
suggested.
-/

namespace PayloadGen.Command

open Text

/-- Does the argument stand for a flag whose value is the next argument? -/
def takesNext (flags : List Flag) (argument : String) : Bool :=
  let hasImplied (f : Option Flag) : Bool := (f.bind (·.implied?)).isSome
  match argument.toList with
  | '-' :: '-' :: name => !name.contains '=' && !hasImplied (flagOf? flags (String.ofList name))
  | ['-', c] => c.toNat < 0x80 && c != '=' && !hasImplied (shortFlag? flags c)
  | _ => false

/-- The arguments that are neither flags nor values of flags. -/
def plainArguments (flags : List Flag) : List String → List String
  | [] => []
  | "--" :: _ => []
  | a :: rest =>
    if takesNext flags a then
      match rest with
      | _ :: b :: more => plainArguments flags (b :: more)
      | _ => []
    else if a = "" || startsWith a "-" then plainArguments flags rest
    else a :: plainArguments flags rest

/-- The arguments without the one that names a command. -/
def dropName (flags : List Flag) (name : String) : List String → List String
  | [] => []
  | "--" :: rest => "--" :: rest
  | a :: rest =>
    if takesNext flags a then
      match rest with
      | value :: more => a :: value :: dropName flags name more
      | [] => [a]
    else if a = name && !startsWith a "-" then rest
    else a :: dropName flags name rest

/-- One row of the table of distances: the number of changes that lead from a text to each beginning
of another. The row before it belongs to the text without its last byte. -/
def distanceRow (c : UInt8) : (left diagonal : Nat) → List (UInt8 × Nat) → List Nat
  | _, _, [] => []
  | left, diagonal, (d, above) :: rest =>
    let n := if c = d then diagonal else min (min left above) diagonal + 1
    n :: distanceRow c n above rest

/-- How many insertions, deletions and exchanges of bytes lead from a text to another. -/
def distance (s t : Bytes) : Nat :=
  let next (row : List Nat) (c : UInt8) : List Nat :=
    let left := row.headD 0 + 1
    left :: distanceRow c left (row.headD 0) (t.zip (row.drop 1))
  (s.foldl next (List.range (t.length + 1))).getLastD 0

/-- The greatest distance of names that are suggested. -/
def suggestionDistance : Nat := 2

/-- The names of commands that are close to a text, or begin with it. Case does not matter. -/
def suggestions (commands : List Tree) (typed : String) : List String :=
  let low (s : String) : Bytes := utf8 (String.ofList (s.toList.map lower))
  ((commands.filter (·.isOffered)).map (·.name)).filter fun name =>
    distance (low typed) (low name) ≤ suggestionDistance || (low typed).isPrefixOf (low name)

/-- There is no command of this name. -/
structure UnknownCommand where
  name : String
  top : String
  suggested : List String

/-- The wording of the error. -/
def UnknownCommand.message (e : UnknownCommand) : String :=
  "unknown command " ++ quote e.name ++ " for " ++ quote e.top ++
    (if e.suggested.isEmpty then ""
    else "\n\nDid you mean this?\n" ++ String.join (e.suggested.map fun s => "\t" ++ s ++ "\n"))

/-- The command that arguments lead to from a command, and the arguments without the names of
commands. -/
def descend : (fuel : Nat) → Located → List String → Located × List String
  | 0, l, arguments => (l, arguments)
  | fuel + 1, l, arguments =>
    let flags := l.tree.about.flags ++ l.inherited
    match plainArguments flags arguments with
    | [] => (l, arguments)
    | name :: _ =>
      match l.tree.children.find? (·.name == name) with
      | some child => descend fuel ⟨child, l.tree :: l.above⟩ (dropName flags name arguments)
      | none => (l, arguments)

/-- The command that arguments mean, and the arguments without the names of commands. -/
def find (top : Tree) (arguments : List String) : Except UnknownCommand (Located × List String) :=
  let (l, rest) := descend (arguments.length + 1) ⟨top, []⟩ arguments
  match l.above, plainArguments (l.tree.about.flags ++ l.inherited) rest with
  | [], name :: _ => .error ⟨name, top.name, suggestions top.children name⟩
  | _, _ => .ok (l, rest)

end PayloadGen.Command
