/-!
# Rows in columns

Consecutive rows of a listing are laid out in columns: a cell is padded to one blank more than the
widest cell of its column. A column reaches over consecutive rows that have a cell in it.
-/

namespace PayloadGen.Format.Go

/-- A row: cells that stand in columns, and a last text that is not padded. -/
structure Row where
  cells : List String
  last : String

/-- The width of a column at a row: the widest cell of the column in the rows around it. `before`
are the rows above, nearest first. -/
def columnWidth (column : Nat) (before after : List Row) (cell : String) : Nat :=
  let widths (rows : List Row) :=
    (rows.takeWhile fun r => column < r.cells.length).map fun r => (r.cells.getD column "").length
  (cell.length :: widths before ++ widths after).foldl max 0

/-- A cell padded to a width. -/
def pad (cell : String) (width : Nat) : String :=
  String.ofList (cell.toList ++ List.replicate (width - cell.length) ' ')

/-- The text of each of the rows, whose predecessors are `before`, nearest first. -/
def aligned (before : List Row) : List Row → List String
  | [] => []
  | r :: rest =>
    let cells := r.cells.mapIdx fun i cell => pad cell (columnWidth i before rest cell + 1)
    (String.join cells ++ r.last) :: aligned (r :: before) rest

end PayloadGen.Format.Go
