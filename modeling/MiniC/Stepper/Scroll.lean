import MiniC.Screen.Canvas
import MiniC.Stepper.Contents

/-!
# Laying out and scrolling

**Layout.** The status bar takes the last row. Above it the source has the left side; the token
list stands over the diagnostics on the right.

**Settling.** Keys scroll without knowing how much a pane shows. Before a frame is drawn the view
is settled for its layout: the source keeps the current line on its row, the token list follows
the current token if it is to, and neither then shows less than a full page while there is more to
show above. An end of input below the last line leaves the source as far down as it is. Settling
twice is settling once, and it changes nothing but the offsets and the row.
-/

namespace MiniC

open Screen

/-! ## Layout -/

/-- The parts of the screen. -/
structure Layout where
  source : Area
  tokens : Area
  diagnostics : Area
  status : Area
deriving DecidableEq, Inhabited

namespace Layout

def ofSize (width height : Nat) : Layout :=
  let (main, status) := Area.splitLastRow ⟨0, 0, width, height⟩
  let (source, right) := main.splitColumns 60
  let (tokens, diagnostics) := right.splitRows 70
  { source, tokens, diagnostics, status }

end Layout

/-! ## Offsets -/

/-- The rows of text in a pane with a border, of which one is always counted. -/
def pageSize (a : Area) : Nat := max (a.height - 2) 1

/-- The offset nearest to the given one at which the last page is full. -/
def clampOffset (offset total page : Nat) : Nat :=
  if page < total then min offset (total - page) else 0

/-- The offset nearest to the given one at which row `i` is in view. -/
def showRow (offset i page : Nat) : Nat :=
  if i < offset then i else if offset + page ≤ i then i + 1 - page else offset

namespace Stepper

/-- Puts the current line on its row, as near as the ends of the text allow. Without a row to
keep to, the line goes to the middle. An end of input below the last line moves nothing. -/
def settleSource (s : Stepper) (page : Nat) : SourceScroll :=
  let row := min (s.view.source.row.getD (page / 2)) (page - 1)
  let total := s.sourceLines.length
  let line := s.currentLine
  { offset := if 0 < line ∧ line ≤ total then clampOffset (line - 1 - row) total page
      else s.view.source.offset
    row := some row }

def settleTokens (s : Stepper) (page : Nat) : Nat :=
  let offset := if s.view.following then showRow s.view.tokens s.position page else s.view.tokens
  clampOffset offset s.recording.size page

/-- A pane that has nothing to tell keeps its offset. -/
def settleDiagnostics (s : Stepper) (page : Nat) : Nat :=
  let total := s.diagnosticContent.length
  if total = 0 then s.view.diagnostics else clampOffset s.view.diagnostics total page

/-- Brings the offsets in line with a layout. -/
def settle (s : Stepper) (l : Layout) : Stepper :=
  { s with view := { s.view with
      source := s.settleSource (pageSize l.source)
      tokens := s.settleTokens (pageSize l.tokens)
      diagnostics := s.settleDiagnostics (pageSize l.diagnostics) } }

end Stepper

end MiniC
