import MiniC.Screen.Canvas
import MiniC.Text.Cluster.Basic

/-!
# Boxes, paragraphs and lists

**Text.** A line is a sequence of fragments, each with a style. Every fragment falls into clusters
by itself, and a cluster goes into one cell. A line is cut on the right where it no longer fits,
and a newline is never shown.

**Boxes.** A border with a title in its upper edge.

**Paragraphs.** One line per row, in a style of its own, and aligned to the left or to the right.
A cluster that is wider than the whole width is left out, and so is one that takes no column.

**Lists.** One line per row, each row with a style. A cluster that takes no column goes into the
cell of the one before it.
-/

namespace MiniC.Screen

/-- Text in one style. -/
structure Fragment where
  text : List Char
  style : Style
deriving DecidableEq, Inhabited

def Fragment.ofString (s : String) (style : Style) : Fragment := ⟨s.toList, style⟩

/-- A line of text. -/
abbrev Line := List Fragment

/-- What a line says, without the styles. -/
def Line.text (l : Line) : List Char := l.flatMap Fragment.text

/-- The clusters of a fragment that can be shown. -/
def Fragment.clusters (f : Fragment) : List (List Char) :=
  (MiniC.clusters f.text).filter (· != ['\n'])

/-- The clusters of a line that can be shown, with their styles. -/
def Line.clusters (l : Line) : List (List Char × Style) :=
  l.flatMap fun f => f.clusters.map (·, f.style)

/-- The clusters that fit in `room` columns of a line `width` wide. -/
def fit (width : Nat) : Nat → List (List Char × Style) → List (List Char × Style)
  | _, [] => []
  | room, (g, s) :: rest =>
    let n := textWidth g
    if width < n then fit width room rest
    else if room < n then []
    else (g, s) :: fit width (room - n) rest

/-- The columns that clusters take one by one. -/
def columns (gs : List (List Char × Style)) : Nat := gs.foldl (fun n (g, _) => n + textWidth g) 0

namespace Canvas

/-! ## Writing -/

/-- Writes clusters from a place on, each as many columns after the last as that one takes. Those
that take no column are left out. -/
def write (c : Canvas) (x y : Nat) : List (List Char × Style) → Canvas
  | [] => c
  | (g, s) :: rest =>
    match textWidth g with
    | 0 => c.write x y rest
    | n + 1 => (c.modify x y (Cell.put g s)).write (x + (n + 1)) y rest

/-- Writes the clusters of a fragment after the first into an area of one row, up to the first
that would pass its right edge. A cluster that takes no column, and any as long as the first
column is not passed, is added to a cell that is written already. The cells a wide cluster covers
are blanked. -/
def writeNext (c : Canvas) (a : Area) (s : Style) (x : Nat) : List (List Char) → Canvas
  | [] => c
  | g :: rest =>
    let n := textWidth g
    if a.x + a.width < x + n then c
    else
      let c :=
        if x = a.x then c.modify x a.y (Cell.append g s)
        else if n = 0 then c.modify (x - 1) a.y (Cell.append g s)
        else c.modify x a.y (Cell.put g s)
      (c.modifyArea ⟨x + 1, a.y, n - 1, 1⟩ fun _ => {}).writeNext a s (x + n) rest

/-- Writes a fragment into an area of one row. -/
def writeFragment (c : Canvas) (a : Area) (f : Fragment) : Canvas :=
  match f.clusters with
  | [] => c
  | g :: rest =>
    let n := textWidth g
    if a.width < n then c
    else
      ((c.modify a.x a.y (Cell.put g f.style)).modifyArea ⟨a.x + 1, a.y, n - 1, 1⟩
        fun _ => {}).writeNext a f.style (a.x + n) rest

/-- Writes the fragments of a line into an area of one row, each after the columns of those before
it. Fragments that take no column are left out. -/
def writeLine (c : Canvas) (a : Area) : Line → Canvas
  | [] => c
  | f :: rest =>
    let n := textWidth f.text
    if n = 0 then c.writeLine a rest
    else if a.isEmpty then c
    else (c.writeFragment a f).writeLine (a.indent n) rest

/-! ## Boxes -/

/-- Draws a border around an area, with a title in the style of the border. The sides come
first and the corners last, so that an area of one column or row shows its corners. -/
def box (c : Canvas) (a : Area) (title : String) (s : Style) : Canvas :=
  if a.isEmpty then c
  else
    let right := a.x + (a.width - 1)
    let bottom := a.y + (a.height - 1)
    let side (x : Nat) (c : Canvas) := c.modifyArea ⟨x, a.y, 1, a.height⟩ (Cell.put ['│'] s)
    let edge (y : Nat) (c : Canvas) := c.modifyArea ⟨a.x, y, a.width, 1⟩ (Cell.put ['─'] s)
    let corner (x y : Nat) (char : Char) (c : Canvas) := c.modify x y (Cell.put [char] s)
    let c := edge bottom (side right (edge a.y (side a.x c)))
    let c := corner a.x bottom '└' (corner right a.y '┐' (corner right bottom '┘' c))
    let c := corner a.x a.y '┌' c
    c.writeLine ⟨a.x + 1, a.y, a.width - 2, 1⟩ [.ofString title {}]

/-! ## Lines -/

/-- Writes lines into an area, one per row, as many as there are rows. `start` gives the column
for a line by the columns it takes. -/
def writeLines (c : Canvas) (a : Area) (start : Nat → Nat) (lines : List Line) : Canvas :=
  ((lines.take a.height).zipIdx).foldl (fun c (line, i) =>
    let gs := fit a.width a.width line.clusters
    c.write (a.x + start (columns gs)) (a.y + i) gs) c

/-- A paragraph in its own style. -/
def paragraph (c : Canvas) (a : Area) (s : Style) (lines : List Line) : Canvas :=
  (c.restyle a s).writeLines a (fun _ => 0) lines

/-- A paragraph whose lines end at the right edge. -/
def paragraphRight (c : Canvas) (a : Area) (s : Style) (lines : List Line) : Canvas :=
  (c.restyle a s).writeLines a (a.width - ·) lines

/-- A list of lines, each with a style for its row. -/
def list (c : Canvas) (a : Area) (items : List (Style × Line)) : Canvas :=
  ((items.take a.height).zipIdx).foldl (fun c ((s, line), i) =>
    (c.restyle (a.row i) s).writeLine (a.row i) line) c

end Canvas

end MiniC.Screen
