import PayloadGen.Command.Help

/-!
# The pages of the manual

Every command that is offered has a page in Markdown, which leads to the pages of the command above
it and of those below it.
-/

namespace PayloadGen.Command

open Text

/-- The name of the page of a command. -/
def pageName (path : String) : String :=
  replace path " " "_" ++ ".md"

/-- A list of flags under a heading. -/
def flagSection (heading : String) (flags : List Flag) : String :=
  if flags.isEmpty then "" else "### " ++ heading ++ "\n\n```\n" ++ flagList flags ++ "```\n\n"

/-- The line that leads to the page of a command. -/
def pageLink (path short : String) : String :=
  "* [" ++ path ++ "](" ++ pageName path ++ ")\t - " ++ short ++ "\n"

namespace Located

/-- The command above, in its place. -/
def parent? (l : Located) : Option Located :=
  match l.above with
  | [] => none
  | t :: above => some ⟨t, above⟩

/-- The lines that lead to other pages. -/
def links (l : Located) : List String :=
  let up := match l.parent? with
    | some p => [pageLink p.path p.tree.about.short]
    | none => []
  up ++ (l.tree.sortedChildren.filter (·.isOffered)).map fun c =>
    pageLink (l.path ++ " " ++ c.name) c.about.short

/-- The page of a command. -/
def page (l : Located) : String :=
  let about := l.tree.about
  "## " ++ l.path ++ "\n\n" ++ about.short ++ "\n\n" ++
    (if about.long = "" then "" else "### Synopsis\n\n" ++ about.long ++ "\n\n") ++
    (if about.runnable then "```\n" ++ l.useLine ++ "\n```\n\n" else "") ++
    (if about.examples = "" then "" else "### Examples\n\n```\n" ++ about.examples ++
      "\n```\n\n") ++
    flagSection "Options" l.ownFlags ++
    flagSection "Options inherited from parent commands" l.inherited ++
    (if l.links.isEmpty then "" else "### SEE ALSO\n\n" ++ String.join l.links ++ "\n")

end Located

/-- The commands of a tree that have pages, each after those below it. -/
def offered : (above : List Tree) → (fuel : Nat) → Tree → List Located
  | above, 0, t => [⟨t, above⟩]
  | above, fuel + 1, t =>
    ((t.sortedChildren.filter (·.isOffered)).flatMap (offered (t :: above) fuel)) ++ [⟨t, above⟩]

/-- How many commands lie below each other at most. -/
def depthLimit : Nat := 8

/-- The pages of a tree of commands with their names. -/
def pages (top : Tree) : List (String × String) :=
  (offered [] depthLimit top).map fun l => (pageName l.path, l.page)

end PayloadGen.Command
