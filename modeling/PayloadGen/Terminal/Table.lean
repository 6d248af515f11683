import PayloadGen.Dict
import PayloadGen.Payload.Name
import PayloadGen.Terminal.Box

/-!
# Tables with borders

A table has a line of headers and rows of cells. A column is as wide as its widest cell, with a
blank on either side, and a row is as high as its highest cell.
-/

namespace PayloadGen.Terminal

open Text

/-- A table. -/
structure Table where
  headers : List String
  rows : List (List String)

/-- The line up to the last blank that fits the width, or as much of it as fits, and the rest. -/
def breakLine (width : Nat) (s : String) : List String :=
  if displayWidth s ≤ width then [s]
  else
    let words := (List.splitOn ' ' s.toList).map String.ofList
    let place (lines : List String) (word : String) : List String :=
      match lines with
      | [] => [word]
      | l :: r =>
        if displayWidth (l ++ " " ++ word) ≤ width then (l ++ " " ++ word) :: r else word :: l :: r
    ((words.foldl place []).filter (· ≠ "")).reverse

/-- The lines of a cell with so many columns and lines inside its borders. -/
def cellLines (width height : Nat) (s : String) : List String :=
  let lines := ((linesOf (expandTabs s)).flatMap (breakLine width)).take height
  (lines ++ List.replicate (height - lines.length) "").map fun l => " " ++ padRight width l ++ " "

/-- The columns of a cell. -/
def cellWidth (s : String) : Nat :=
  widest (linesOf s)

/-- The lines of a row, its cells between bars. -/
def rowLines (widths : List Nat) (height : Nat) (cells : List String) : List String :=
  let columns := (widths.zip cells).map fun (w, c) => cellLines w height c
  (List.range height).map fun i => "│" ++ "│".intercalate (columns.map fun c => c.getD i "") ++ "│"

/-- A line of a border. -/
def rule (widths : List Nat) (left middle right : String) : String :=
  left ++ middle.intercalate (widths.map fun w => String.join (List.replicate (w + 2) "─")) ++ right

namespace Table

/-- The widths of the columns, without the blanks on either side. -/
def widths (t : Table) : List Nat :=
  t.rows.foldl (fun ws row => (ws.zip row).map fun (w, c) => max w (cellWidth c))
    (t.headers.map cellWidth)

/-- The height of a row. -/
def rowHeight (row : List String) : Nat :=
  row.foldl (fun h c => max h (linesOf c).length) 1

/-- The table with its borders. -/
def render (t : Table) : String :=
  let ws := t.widths
  stack ([rule ws "┌" "┬" "┐"] ++ rowLines ws 1 t.headers ++ [rule ws "├" "┼" "┤"] ++
    t.rows.flatMap (fun row => rowLines ws (rowHeight row) row) ++ [rule ws "└" "┴" "┘"])

end Table

/-- The rows of the table of topics: a topic, its payload class and the name of its handler type. -/
def topicRows (topics : Dict String) : List (List String) :=
  topics.entries.map fun (topic, payload) => [topic, payload, Name.callback payload]

/-- The table of topics. -/
def topicsTable (topics : Dict String) : Table :=
  ⟨["TOPIC", "PAYLOAD", "HANDLER"], topicRows topics⟩

end PayloadGen.Terminal
