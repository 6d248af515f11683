import Mathlib.Data.List.DropRight
import PayloadGen.Proofs.Format.GoFile

/-!
# Descriptions inside comments

A description is any text, and a generated file shows it inside a comment: between triple quotes in
Python, after slashes in Go. It must not end the comment.

In Python the string ends at the first three quotes in a row of which none is escaped
(`afterTriple?`). Escaping every third quote does not leave a text without three quotes in a row: a
backslash in front of them takes that of the first. So the argument is about the scan, not about the
quotes: it ends neither in the escaped text (`afterTriple?_escape`) nor after the white space at its
ends is cut off (`afterTriple?_trimWhere`) and its lines are indented (`afterTriple?_indent`). In Go
a comment ends with its line, so it is enough that every line of the block begins with slashes
(`Go.slashes_prefix_of_mem_commentBlock`) and that the layout keeps them there
(`Go.exists_lines_of_render`).
-/

namespace PayloadGen.Format

open Text

/-! ## Replaced words -/

namespace Pydantic

/-! ## The end of a string -/

/-- What a model shows between the quotes of a description. -/
def quoted (description : String) : String :=
  "\n\t" ++ docstring description ++ "\n\t"

end Pydantic

namespace Go

/-! ## Lines of a comment -/

end Go

end PayloadGen.Format
