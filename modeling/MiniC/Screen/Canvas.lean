import MiniC.Screen.Style
import MiniC.Text.Width.Basic

/-!
# Areas and canvases

An area is a rectangle of the screen, the first column and row counted from zero. A canvas is
the grid of cells a frame is drawn on; drawing outside it changes nothing.
-/

namespace MiniC.Screen

structure Area where
  x : Nat
  y : Nat
  width : Nat
  height : Nat
deriving DecidableEq, Inhabited

namespace Area

def isEmpty (a : Area) : Bool := a.width = 0 || a.height = 0

/-- The part that a percentage takes of a size, rounded to the nearest, a half upwards. -/
def share (percent size : Nat) : Nat := (percent * size + 50) / 100

/-- The left part with `percent` of the width, and the rest. -/
def splitColumns (percent : Nat) (a : Area) : Area × Area :=
  let first := share percent a.width
  ({ a with width := first }, { a with x := a.x + first, width := a.width - first })

/-- The upper part with `percent` of the height, and the rest. -/
def splitRows (percent : Nat) (a : Area) : Area × Area :=
  let first := share percent a.height
  ({ a with height := first }, { a with y := a.y + first, height := a.height - first })

/-- All but the last row, and the last row. -/
def splitLastRow (a : Area) : Area × Area :=
  ({ a with height := a.height - 1 },
    { a with y := a.y + (a.height - 1), height := min a.height 1 })

/-- The area without the cells at its edge. -/
def inner (a : Area) : Area :=
  ⟨min (a.x + 1) (a.x + a.width), min (a.y + 1) (a.y + a.height), a.width - 2, a.height - 2⟩

/-- The area without its first columns. -/
def indent (n : Nat) (a : Area) : Area := { a with x := a.x + n, width := a.width - n }

/-- The area's row with index `i`. -/
def row (i : Nat) (a : Area) : Area := { a with y := a.y + i, height := 1 }

end Area

/-- Rows of cells. -/
structure Canvas where
  rows : Array (Array Cell)
deriving DecidableEq, Inhabited

namespace Canvas

def blank (width height : Nat) : Canvas := ⟨Array.replicate height (Array.replicate width {})⟩

/-- Changes one cell. -/
def modify (c : Canvas) (x y : Nat) (f : Cell → Cell) : Canvas :=
  ⟨c.rows.modify y fun row => row.modify x f⟩

/-- Changes every cell of an area. -/
def modifyArea (c : Canvas) (a : Area) (f : Cell → Cell) : Canvas :=
  (List.range a.height).foldl (fun c i =>
    (List.range a.width).foldl (fun c j => c.modify (a.x + j) (a.y + i) f) c) c

/-- Applies a style to an area. -/
def restyle (c : Canvas) (a : Area) (s : Style) : Canvas := c.modifyArea a (Cell.restyle s)

/-- The cells of a row that show: as many as a wide symbol covers beyond its own are hidden behind
it. `covered` of the first cells are hidden already. -/
def visible (covered : Nat) : List Cell → List Cell
  | [] => []
  | c :: rest =>
    match covered with
    | n + 1 => visible n rest
    | 0 => c :: visible (textWidth c.symbol - 1) rest

/-- The cells that show, row by row. -/
def visibleRows (c : Canvas) : List (List Cell) :=
  c.rows.toList.map fun row => visible 0 row.toList

/-- The text of each row. -/
def text (c : Canvas) : List String :=
  c.visibleRows.map fun row => String.ofList (row.flatMap Cell.symbol)

end Canvas

end MiniC.Screen
