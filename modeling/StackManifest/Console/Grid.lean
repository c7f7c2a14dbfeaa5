import StackManifest.Console.Markup
import StackManifest.Console.Wrap
import StackManifest.Number.DigitCount
import StackManifest.Text.Lines

/-!
# Grids on the console

A grid has a title, a line of headings, and rows of cells between rules. A column is as wide as
its widest cell; when all of them together are too wide, the widest columns give way.

* `Grid`, with `Column`s – a **grid**;
* `Grid.columnWidths` – how wide the columns are;
* `Grid.lines` – the lines of a grid.
-/

namespace StackManifest.Console

open StackManifest.Text

/-- At which side the cells of a column begin. -/
inductive Side where
  | left
  | right
  deriving DecidableEq, Repr

/-- A column: its heading, and its side. -/
structure Column where
  heading : String
  side : Side

/-- A **grid**. -/
structure Grid where
  title : String
  columns : List Column
  rows : List (List String)

/-- The number of cells in a line of the console. -/
def lineWidth : Nat := 300

namespace Grid

/-- The widest line of a text. -/
def naturalWidth (cs : List Char) : Nat := ((splitLines cs).map width).foldl max 0

/-- Takes some cells in all from columns that are equally wide, in turn, at most so many from
each. -/
def reduce (excess : Nat) (shares : List Bool) (most : Nat) : List Nat → List Nat
  | [] => []
  | w :: ws =>
    match shares with
    | true :: shares =>
      let n := shares.count true + 1
      let taken := min most (Number.roundHalfEven excess n)
      (w - taken) :: reduce (excess - taken) shares most ws
    | _ :: shares => w :: reduce excess shares most ws
    | [] => w :: ws

/-- The width of some columns together. -/
def total (ws : List Nat) : Nat := ws.foldr (· + ·) 0

/-- The widths of columns that are together too wide: the **widest give way**, down to the next
widest, until all fit or all are equal. -/
def collapse (fuel : Nat) (limit : Nat) (ws : List Nat) : List Nat :=
  match fuel with
  | 0 => ws
  | fuel + 1 =>
    let excess := total ws - limit
    let widest := ws.foldl max 0
    let second := (ws.filter (· ≠ widest)).foldl max 0
    if excess = 0 ∨ widest = second then ws
    else
      collapse fuel limit
        (reduce excess (ws.map (· = widest)) (min excess (widest - second)) ws)

/-- The widths of the columns, with the blanks beside the cells, for cells of natural widths. -/
def columnWidths (natural : List Nat) : List Nat :=
  let limit := lineWidth - (natural.length + 1)
  let ws := natural.map fun n => min limit (n + 2)
  if total ws ≤ limit then ws
  else
    let narrow := collapse (limit + ws.length) limit ws
    let narrow :=
      if total narrow ≤ limit then narrow
      else reduce (total narrow - limit) (narrow.map (0 < ·)) limit narrow
    (natural.zip narrow).map fun p => min p.2 (p.1 + 2)

/-- A line of a cell, with a blank on both sides. -/
def padded (side : Side) (n : Nat) (cs : List Char) : List Char :=
  let inner := n - 2
  let body := match side with
    | .left => fill inner cs
    | .right =>
      let cs := cut inner .ellipsis (breakWord.dropEnd cs)
      List.replicate (inner - width cs) ' ' ++ cs
  ' ' :: body ++ [' ']

/-- The **lines of a cell** in a column. -/
def cellLines (side : Side) (n : Nat) (cs : List Char) : List (List Char) :=
  (wrap (n - 2) .ellipsis cs).map (padded side n)

/-- Several cells side by side, each with its lines, with rules between them. -/
def beside (rule : Char) (widths : List Nat) (cells : List (List (List Char))) :
    List (List Char) :=
  let height := (cells.map List.length).foldl max 1
  (List.range height).map fun i =>
    let parts := (cells.zip widths).map fun (lines, n) =>
      (lines[i]?).getD (List.replicate n ' ')
    rule :: [rule].intercalate parts ++ [rule]

/-- A rule across the grid, with its characters at the ends, under a column and between two. -/
def rule (left line between right : Char) (widths : List Nat) : List Char :=
  left :: [between].intercalate (widths.map fun n => List.replicate n line) ++ [right]

/-- A title over the middle. -/
def centred (n : Nat) (cs : List Char) : List Char :=
  fill n (List.replicate ((n - width cs) / 2) ' ' ++ cs)

/-- The cells of a grid column by column, each column with its heading. -/
def cellColumns (g : Grid) : List (List String) :=
  (List.range g.columns.length).map fun i =>
    (g.columns[i]?.map Column.heading).toList ++ g.rows.filterMap fun row => row[i]?

/-- A list of columns as a list of rows. -/
def toRows (columns : List (List α)) : List (List α) :=
  (List.range ((columns.head?.map List.length).getD 0)).map fun i =>
    columns.filterMap fun column => column[i]?

/-- The **lines** of a grid, with its marks left out. The marks are read column by column, and
their styles are looked up row by row. -/
def lines (g : Grid) : Except Fault (List (List Char)) := do
  let columns ← g.cellColumns.mapM fun column => column.mapM Marked.read
  let rows ← (toRows columns).mapM fun row => row.mapM Marked.plain
  let natural := columns.map fun column =>
    column.foldl (fun n cell => max n (naturalWidth cell.chars)) 0
  let widths := columnWidths natural
  let sides := g.columns.map Column.side
  let row := fun (bar : Char) (cells : List (List Char)) =>
    beside bar widths ((sides.zip (widths.zip cells)).map fun (s, n, c) => cellLines s n c)
  let whole := total widths + widths.length + 1
  return (wrap whole .fold g.title.toList).map (centred whole)
    ++ [rule '┏' '━' '┳' '┓' widths] ++ (rows.take 1).flatMap (row '┃')
    ++ [rule '┡' '━' '╇' '┩' widths] ++ (rows.drop 1).flatMap (row '│')
    ++ [rule '└' '─' '┴' '┘' widths]

end Grid

end StackManifest.Console
