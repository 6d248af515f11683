import PayloadGen.Command.Basic
import PayloadGen.Dict

/-!
# Help

The usage of a command lists its flags and the commands below it; help is its description with the
usage.
-/

namespace PayloadGen.Command

open Text

/-- The name of the kind of value in the list of flags. A switch has no value to name. -/
def FlagKind.label : FlagKind → String
  | .switch => ""
  | .count => " count"
  | .number => " int"
  | .text => " string"

/-- The names of a flag as they stand in a list. -/
def Flag.names (f : Flag) : String :=
  (match f.short with
    | some c => "  -" ++ String.singleton c ++ ", --"
    | none => "      --") ++ f.name ++ f.kind.label

/-- The value of a flag that is not given, unless it is an empty one. -/
def Flag.standardNote (f : Flag) : String :=
  match f.kind with
  | .text => if f.standard = "" then "" else " (default " ++ quote f.standard ++ ")"
  | .switch => if f.standard = "false" then "" else " (default " ++ f.standard ++ ")"
  | _ => if f.standard = "0" then "" else " (default " ++ f.standard ++ ")"

/-- A list of flags by ascending name, their descriptions below each other. -/
def flagList (flags : List Flag) : String :=
  let flags := flags.mergeSort fun a b => a.name ≤ b.name
  let width := flags.foldl (fun w f => max w f.names.length) 0
  String.join (flags.map fun f =>
    f.names ++ String.ofList (List.replicate (width + 3 - f.names.length) ' ') ++ f.usage ++
    f.standardNote ++ "\n")

/-- The text without white space at its end. -/
def trimRight (s : String) : String :=
  String.ofList (trimRightWhere isSpace s.toList)

/-- The least width of the names in a list of commands. -/
def nameWidth : Nat := 11

/-- A list of commands by ascending name. -/
def commandList (commands : List Tree) : String :=
  String.join (commands.map fun c =>
    let padding := String.ofList (List.replicate (nameWidth - c.name.length) ' ')
    "\n  " ++ c.name ++ padding ++ " " ++ c.about.short)

namespace Located

/-- The usage of a command with certain flags of its own. -/
def usageWith (l : Located) (own : List Flag) : String :=
  let about := l.tree.about
  let hasOffered := l.tree.children.any (·.isOffered)
  let listed := l.tree.sortedChildren.filter fun c => c.isOffered || c.about.isHelp
  "Usage:" ++ (if about.runnable then "\n  " ++ l.useLine else "") ++
    (if hasOffered then "\n  " ++ l.path ++ " [command]" else "") ++
    (if about.examples = "" then "" else "\n\nExamples:\n" ++ about.examples) ++
    (if hasOffered then "\n\nAvailable Commands:" ++ commandList listed else "") ++
    (if own.isEmpty then "" else "\n\nFlags:\n" ++ trimRight (flagList own)) ++
    (if l.inherited.isEmpty then "" else "\n\nGlobal Flags:\n" ++
      trimRight (flagList l.inherited)) ++
    (if hasOffered then
      "\n\nUse \"" ++ l.path ++ " [command] --help\" for more information about a command."
    else "") ++ "\n"

/-- The help for a command. -/
def help (l : Located) : String :=
  let about := l.tree.about
  let description := trimRight (if about.long = "" then about.short else about.long)
  (if description = "" then "" else description ++ "\n\n") ++ l.usageWith l.ownFlags

end Located

end PayloadGen.Command
