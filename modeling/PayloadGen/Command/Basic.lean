import PayloadGen.Command.Flag

/-!
# Commands

A command has a name, texts that describe it, flags, and commands below it. Flags of the command at
the top hold for every command below it as well.
-/

namespace PayloadGen.Command

open Text

/-- What a command says about itself. -/
structure About where
  name : String
  /-- How the command is used, from its name on. -/
  use : String
  short : String
  long : String
  /-- Examples of its use. -/
  examples : String
  /-- The flags of the command itself. -/
  flags : List Flag
  /-- Does the command do something by itself? -/
  runnable : Bool
  /-- Does the line that shows its use mention flags? -/
  mentionsFlags : Bool
  /-- Is it the command that shows help? -/
  isHelp : Bool

/-- A command with the commands below it. -/
inductive Tree where
  | mk (about : About) (children : List Tree)

namespace Tree

/-- What a command says about itself. -/
def about : Tree → About
  | mk a _ => a

/-- The commands below. -/
def children : Tree → List Tree
  | mk _ cs => cs

/-- The name of a command. -/
def name (t : Tree) : String :=
  t.about.name

/-- The commands below by ascending name. -/
def sortedChildren (t : Tree) : List Tree :=
  t.children.mergeSort fun a b => a.name ≤ b.name

/-- Is the command one to be offered? The one that shows help is not. -/
def isOffered (t : Tree) : Bool :=
  !t.about.isHelp && (t.about.runnable || !t.children.isEmpty)

end Tree

/-- A command in its place: the commands above it, the nearest first. -/
structure Located where
  tree : Tree
  above : List Tree

namespace Located

/-- The names of the commands that lead to the command, and its own. -/
def path (l : Located) : String :=
  " ".intercalate ((l.above.map (·.name)).reverse ++ [l.tree.name])

/-- The flags that the command takes from the commands above it. -/
def inherited (l : Located) : List Flag :=
  match l.above.getLast? with
  | some top => top.about.flags
  | none => []

/-- The flag that asks for help. -/
def helpFlag (l : Located) : Flag :=
  ⟨"help", some 'h', .switch, "false", "help for " ++ l.tree.name⟩

/-- The flags of the command itself, with the one that asks for help. -/
def ownFlags (l : Located) : List Flag :=
  l.tree.about.flags ++ [l.helpFlag]

/-- The line that shows how the command is used. -/
def useLine (l : Located) : String :=
  let use := " ".intercalate ((l.above.map (·.name)).reverse ++ [l.tree.about.use])
  if l.tree.about.mentionsFlags then use ++ " [flags]" else use

end Located

end PayloadGen.Command
