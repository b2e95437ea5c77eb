import MiniC.Screen.Widget
import MiniC.Stepper.Scroll

/-!
# Frames

A frame shows a settled stepper. Drawing settles the stepper for the parts of the screen and
gives back both, so that the next key works on what was shown.
-/

namespace MiniC.Stepper

open Screen

/-- The border of the pane `p`. -/
def paneStyle (s : Stepper) (p : Pane) : Style := borderStyle (s.view.focus = p)

def drawSource (s : Stepper) (a : Area) (c : Canvas) : Canvas :=
  (c.box a " Source " (s.paneStyle .source)).paragraph a.inner {} (s.sourceContent (pageSize a))

def drawTokens (s : Stepper) (a : Area) (c : Canvas) : Canvas :=
  (c.box a s!" Tokens ({s.recording.size}) " (s.paneStyle .tokens)).list a.inner
    (s.tokenContent (pageSize a))

/-- The farthest that a paragraph can be scrolled. -/
def maxScroll : Nat := 65535

/-- Draws the diagnostics, one column in from the border. With nothing to tell, the pane says so
in a style that its border takes over where it has none of its own. -/
def drawDiagnostics (s : Stepper) (a : Area) (c : Canvas) : Canvas :=
  let title := " Diagnostics "
  let border := s.paneStyle .diagnostics
  match s.diagnosticContent with
  | [] =>
    let own := Style.fg Palette.dimmed
    ((c.restyle a own).box a title border).paragraph a.inner own [[.ofString "(nothing yet)" {}]]
  | content =>
    (c.box a title border).paragraph (a.inner.indent 1) {}
      (content.drop (min s.view.diagnostics maxScroll))

def drawStatus (s : Stepper) (a : Area) (c : Canvas) : Canvas :=
  let (left, right) := a.splitColumns 50
  (c.paragraph left statusStyle [s.progressLine]).paragraphRight right statusStyle [s.keysLine]

/-- Shows the stepper as it is, each pane in its part of a canvas. -/
def frameOn (s : Stepper) (l : Layout) (c : Canvas) : Canvas :=
  s.drawStatus l.status <| s.drawDiagnostics l.diagnostics <| s.drawTokens l.tokens <|
    s.drawSource l.source c

/-- Settles the stepper for the parts of a canvas and shows it there. -/
def drawOn (s : Stepper) (l : Layout) (c : Canvas) : Canvas × Stepper :=
  let s' := s.settle l
  (s'.frameOn l c, s')

/-- Settles the stepper for a screen and shows it. -/
def draw (s : Stepper) (width height : Nat) : Canvas × Stepper :=
  s.drawOn (.ofSize width height) (.blank width height)

/-- One turn of a session without a key: the stepper is drawn, and it goes on by itself if it is
playing and the next token is due. -/
def turn (s : Stepper) (width height : Nat) (due : Bool) : Stepper :=
  (s.settle (.ofSize width height)).tick due

end MiniC.Stepper
