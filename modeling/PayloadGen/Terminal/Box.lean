import PayloadGen.Text.Basic
import PayloadGen.Text.Width

/-!
# Boxes of text

A box is a list of lines of one width. `Box.ofText` makes one of a text: its lines are filled up
with blanks, and a tab is four blanks.
-/

namespace PayloadGen.Terminal

open Text

/-- The lines of a text; a return before the end of a line does not count. -/
def linesOf (s : String) : List String :=
  (List.splitOn '\n' (replace s "\r\n" "\n").toList).map String.ofList

/-- A text with four blanks for each tab. -/
def expandTabs (s : String) : String :=
  replace s "\t" "    "

/-- The lines of a text, all of the width of the widest. -/
def box (s : String) : List String :=
  let lines := linesOf (expandTabs s)
  lines.map (padRight (widest lines))

/-- The lines of a text, one below the other. -/
def stack (lines : List String) : String :=
  "\n".intercalate lines

end PayloadGen.Terminal
