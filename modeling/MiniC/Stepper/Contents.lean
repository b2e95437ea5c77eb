import MiniC.Stepper.Basic
import MiniC.Stepper.Highlight
import MiniC.Text.Lines
import MiniC.Text.Quoted

/-!
# What the panes say

Every pane is a function of the stepper to lines of text. Where the lines can be many, only those
in view are asked for: `count` of them from the pane's offset on.

**Source.** The text with line numbers. The current line is marked, and once the failing token
is reached its line is marked above all else.

**Tokens.** One row per token: where it is, its kind, its text, and marks for warnings and for
the failure.

**Diagnostics.** The warnings reached so far. The verdict follows at the failing token, or at
the end if there is none.

**Status.** How far the stepper is and what it did last, and on the right the keys.
-/

namespace MiniC.Stepper

open Screen

/-- A label that stands out, on a coloured ground. -/
def badge (c : Color) : Style := ((Style.fg .black).on c).strong

/-! ## Source -/

/-- The span of the current token. -/
def currentSpan? (s : Stepper) : Option Span := (s.recording.get? s.position).map (·.token.span)

/-- The line the current token starts on, or zero if there is no current token. -/
def currentLine (s : Stepper) : Nat := s.currentSpan?.elim 0 (·.start.line)

/-- The line the failing token starts on, once that token is reached. -/
def failedLine? (s : Stepper) : Option Nat :=
  (s.recording.failure?.filter (· ≤ s.position)).bind fun i =>
    (s.recording.get? i).map (·.token.span.start.line)

/-- The lines that the warnings reached so far start on. -/
def warnedLines (s : Stepper) : List Nat :=
  (s.recording.warningsUntil s.position).map (·.span.start.line)

def sourceLines (s : Stepper) : List (List Char) := lines s.source.toList

/-- The lines of the source that are marked. -/
structure Marks where
  failed : Option Nat
  current : Nat
  warned : List Nat
deriving DecidableEq, Inhabited

def marks (s : Stepper) : Marks := ⟨s.failedLine?, s.currentLine, s.warnedLines⟩

namespace Marks

/-- The style of the number of line `n`. -/
def numberStyle (m : Marks) (n : Nat) : Style :=
  if m.failed = some n then (Style.fg Palette.failure).strong
  else if n = m.current then (Style.fg Palette.secondary).strong
  else if m.warned.contains n then .fg Palette.warning
  else .fg Palette.dimmed

/-- The style of a fragment of line `n`. On the failing line no other style shows through; on the
current line a ground of the fragment's own is kept. -/
def textStyle (m : Marks) (n : Nat) (style : Style) : Style :=
  if m.failed = some n then ((Style.fg .white).on Palette.failure).strong
  else if n = m.current && style.background.isNone then style.on Palette.currentLine
  else style

end Marks

/-- Line `n` of the source pane, which holds `text`. -/
def sourceLine (s : Stepper) (m : Marks) (n : Nat) (text : List Char) : Line :=
  .ofString (padLeft 4 (toString n) ++ " ") (m.numberStyle n) ::
    (Highlight.line text n s.recording.tokens s.currentSpan?).map fun f =>
      { f with style := m.textStyle n f.style }

/-- The lines of the source pane in view. -/
def sourceContent (s : Stepper) (count : Nat) : List Line :=
  let m := s.marks
  ((s.sourceLines.zipIdx.drop s.view.source.offset).take count).map fun (text, i) =>
    s.sourceLine m (i + 1) text

/-! ## Tokens -/

/-- Whether the token with index `i` carries the mark of the failure. -/
def marksFailure (s : Stepper) (i : Nat) : Bool :=
  s.recording.failure? = some i && i ≤ s.position

def tokenLine (s : Stepper) (i : Nat) (step : Step) : Line :=
  let t := step.token
  [.ofString (if i = s.position then "▶ " else "  ") (.fg Palette.secondary),
    .ofString (padRight 14 t.span.render) (.fg Palette.dimmed),
    .ofString (padRight 16 t.kind.spelling) t.kind.style] ++
  (if t.lexeme.isEmpty then [] else [.ofString (Quoted.encode t.lexeme) (.fg Palette.text)]) ++
  (if step.warnings.isEmpty then [] else [.ofString " ⚠" (.fg Palette.warning)]) ++
  (if s.marksFailure i then [.ofString " ✗" (Style.fg Palette.failure).strong] else [])

/-- The rows of the token list in view, each with a style for the whole row. -/
def tokenContent (s : Stepper) (count : Nat) : List (Style × Line) :=
  ((s.recording.steps.zipIdx.drop s.view.tokens).take count).map fun (step, i) =>
    (if i = s.position then ({} : Style).on Palette.currentLine else {}, s.tokenLine i step)

/-! ## Diagnostics -/

def warningLine (w : Warning) : Line :=
  [.ofString "warning: " (.fg Palette.warning), .ofString w.message (.fg Palette.text)]

/-- The verdict, as far as it may be told. -/
def verdict? (s : Stepper) : Option Fragment :=
  match s.recording.outcome with
  | .rejected d =>
    if s.tellsEnd || s.atFailure then some (.ofString d.render (Style.fg Palette.failure).strong)
    else none
  | .accepted =>
    if s.tellsEnd then some (.ofString "program accepted" (Style.fg Palette.success).strong)
    else none

/-- All lines of the diagnostics pane; none as long as there is nothing to tell. -/
def diagnosticContent (s : Stepper) : List Line :=
  (s.recording.warningsUntil s.position).map warningLine ++ s.verdict?.toList.map ([·])

/-! ## Status -/

/-- The ground of the status bar. -/
def statusStyle : Style := ({} : Style).on Palette.currentLine

def progressLine (s : Stepper) : Line :=
  let tone (quiet : Color) := if s.atFailure then Palette.failure else quiet
  let warnings := s.recording.warningCount
  [.ofString s!" Token {s.number}/{s.recording.size} " (badge (tone Palette.primary)),
    .ofString " | " ((Style.fg Palette.dimmed).on Palette.currentLine),
    .ofString s!" {s.message} " ((Style.fg (tone Palette.text)).on Palette.currentLine)] ++
  if 0 < warnings then [.ofString s!" ⚠ {warnings} " (badge Palette.warning)] else []

/-- The label at the right end of the status bar. -/
def indicator? (s : Stepper) : Option (String × Color) :=
  if s.playing then some (" ▶ PLAYING ", Palette.secondary)
  else if s.tellsEnd then
    if s.recording.outcome.isAccepted then some (" ACCEPTED ", Palette.success)
    else some (" REJECTED ", Palette.failure)
  else if s.position = 0 then some (" START ", Palette.success)
  else none

def separator : Fragment := .ofString "│" ((Style.fg Palette.dimmed).on Palette.currentLine)

/-- A key and what it is for. -/
def keyHint (key purpose : String) : Line :=
  [.ofString key ((Style.fg .black).on Palette.dimmed),
    .ofString purpose ((Style.fg Palette.text).on Palette.currentLine)]

/-- The keys, and the indicator after them. -/
def keysLine (s : Stepper) : Line :=
  let blank : Fragment := .ofString " " ((Style.fg Palette.text).on Palette.currentLine)
  let hints := [keyHint " ←/→ " " step ", keyHint " ⎵ " " play ",
    keyHint " ↵ / ⌫ " " end/start ", keyHint "q" " quit "]
  [separator, blank].intercalate hints ++
    match s.indicator? with
    | some (label, ground) => [separator, .ofString label (badge ground)]
    | none => []

end MiniC.Stepper
