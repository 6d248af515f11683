import PayloadGen.Terminal.Box
import PayloadGen.Terminal.Wrap

/-!
# Tables of a given width

A `Grid` has columns that are ruled off from each other and a head that is ruled off from its rows.
Columns grow or shrink to the width that the table has to have: the narrowest grow first; those that
are widest, or much wider than their usual cells, shrink first. Cells are broken into lines where
they have to be, heads are cut.
-/

namespace PayloadGen.Terminal

open Text

/-- A table. Every row has as many cells as the head. -/
structure Grid where
  head : List String
  rows : List (List String)

namespace Grid

/-- The blanks on both sides of a cell. -/
def padding : Nat := 2

/-- The middle value of numbers; of two, what lies between them. -/
def median (ns : List Nat) : Nat :=
  let ns := ns.mergeSort
  let half := ns.length / 2
  if ns.isEmpty then 0
  else if ns.length % 2 = 0 then (ns.getD (half - 1) 0 + ns.getD half 0) / 2
  else ns.getD half 0

/-- The widths of the cells of a column below its head. -/
def columnOf (g : Grid) (i : Nat) : List Nat :=
  g.rows.map fun row => displayWidth (row.getD i "")

/-- The widths that the columns need, with the blanks in their cells. -/
def naturalWidths (g : Grid) : List Nat :=
  (List.range g.head.length).map fun i =>
    (g.columnOf i).foldl max (displayWidth (g.head.getD i "")) + padding

/-- The usual widths of the cells of each column. -/
def medians (g : Grid) : List Nat :=
  (List.range g.head.length).map fun i => median (g.columnOf i)

/-- The room that is set aside for rules: one for each column and one more. -/
def rules (g : Grid) : Nat :=
  g.head.length + 1

/-- The widths together. -/
def total (ws : List Nat) : Nat :=
  ws.foldl (· + ·) 0

/-- The first position of a least value. -/
def narrowest (ws : List Nat) : Nat :=
  let least := ws.foldl min (ws.headD 0)
  (ws.findIdx? (· == least)).getD 0

/-- The narrowest column grows until the table has its width. -/
def grow (target : Nat) : (fuel : Nat) → List Nat → List Nat
  | 0, ws => ws
  | fuel + 1, ws =>
    if target ≤ total ws then ws
    else grow target fuel (ws.modify (narrowest ws) (· + 1))

/-- The first position at which a measure is greatest, among those that count. -/
def greatest (measure : List Int) (counts : Int → Bool) : Option Nat :=
  let fit := measure.filter counts
  match fit.foldl (fun (m : Option Int) x => some (m.elim x (max x))) none with
  | some most => measure.findIdx? fun x => counts x && x == most
  | none => none

/-- Columns shrink, one by one, as `pick` says, until the table has its width or none is picked. -/
def shrink (target : Nat) (pick : List Nat → Option Nat) : (fuel : Nat) → List Nat → List Nat
  | 0, ws => ws
  | fuel + 1, ws =>
    if total ws ≤ target then ws
    else match pick ws with
      | some i => if ws.getD i 0 = 0 then ws else shrink target pick fuel (ws.modify i (· - 1))
      | none => ws

/-- The widest column, if it has at least so many columns of the terminal. -/
def widestFrom (least : Nat) (ws : List Nat) : Option Nat :=
  greatest (ws.map fun (w : Nat) => (w : Int)) fun w => w ≠ 0 && (least : Int) ≤ w

/-- The column that is widest against its usual cells. The first column is never picked. -/
def unusual (medians : List Nat) (ws : List Nat) : Option Nat :=
  let excess := (ws.zip medians).map fun (w, m) => if w = 0 then 0 else (w : Int) - m
  match greatest excess (0 < ·) with
  | some 0 => none
  | found => found

/-- The widths of the columns of a table of a width. A width of zero lets every column have what it
needs. -/
def widths (g : Grid) (width : Nat) : List Nat :=
  let ws := g.naturalWidths
  let target := width - g.rules
  if width = 0 then ws
  else if total ws ≤ width then grow target (width + 1) ws
  else
    let fuel := total ws + 1
    let ws := shrink target (widestFrom (width / 2)) fuel ws
    let ws := shrink target (unusual g.medians) fuel ws
    shrink target (widestFrom 0) fuel ws

/-- The lines of a cell in a column of a width, so many of them. -/
def cellBlock (width height : Nat) (cell : String) : List String :=
  let inner := width - padding
  let lines := linesOf (fold inner (expandTabs cell))
  let lines := lines ++ List.replicate (height - lines.length) ""
  let common := max inner (widest lines)
  let lines := if lines.length = 1 && inner = 0 then lines else lines.map (padRight common)
  let lines := lines.map fun l => " " ++ l ++ " "
  (lines.map fun l => if width = 0 then l else truncate width "" l).take height

/-- The height of a row: that of its highest cell. -/
def rowHeight (ws : List Nat) (row : List String) : Nat :=
  (ws.zip row).foldl (fun h (w, cell) => max h (linesOf (fold (w - padding) cell)).length) 1

/-- The lines of a row. -/
def rowLines (ws : List Nat) (height : Nat) (row : List String) : List String :=
  let blocks := (ws.zip row).map fun (w, cell) => cellBlock w height cell
  (List.range height).map fun i => "|".intercalate (blocks.map fun b => b.getD i "")

/-- The lines of a table of a width. -/
def lines (g : Grid) (width : Nat) : List String :=
  let ws := g.widths width
  let head := (ws.zip g.head).map fun (w, cell) => truncate ((w : Int) - padding) "…" cell
  let rule := "|".intercalate (ws.map fun w => String.ofList (List.replicate w '-'))
  let all := rowLines ws 1 head ++ [rule] ++ g.rows.flatMap fun row =>
    rowLines ws (rowHeight ws row) row
  let common := widest all
  all.map fun l => (fun l => if width = 0 then l else truncate width "" l) (padRight common l)

end Grid

end PayloadGen.Terminal
