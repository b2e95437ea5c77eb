import MiniC.Recording

/-!
# Stepping through a recording

The stepper stands at one token of a recording. Keys move it, start and stop playing, move the
focus between the panes and scroll the pane in focus; playing moves it on by itself.

Every move along the tokens turns on following, so that the token list shows the current token
again after it was scrolled by hand.
-/

namespace MiniC

/-- The panes that can have the focus. -/
inductive Pane where
  | source | tokens | diagnostics
deriving DecidableEq, Inhabited

namespace Pane

def next : Pane → Pane
  | source => tokens
  | tokens => diagnostics
  | diagnostics => source

def name : Pane → String
  | source => "Source"
  | tokens => "Tokens"
  | diagnostics => "Diagnostics"

end Pane

/-- The first line shown, and the row on which the current line is kept; the first frame chooses
that row. -/
structure SourceScroll where
  offset : Nat := 0
  row : Option Nat := none
deriving DecidableEq, Inhabited

/-- What the panes show of the recording. -/
structure View where
  focus : Pane := .source
  source : SourceScroll := {}
  tokens : Nat := 0
  diagnostics : Nat := 0
  /-- Whether the token list follows the current token. -/
  following : Bool := true
deriving DecidableEq, Inhabited

structure Stepper where
  recording : Recording
  source : String
  position : Nat := 0
  playing : Bool := false
  quitting : Bool := false
  message : String := "Ready!"
  view : View := {}
deriving DecidableEq, Inhabited

inductive Key where
  | left | right | up | down | tab | enter | backspace | escape | backTab
  | char (c : Char)
deriving DecidableEq, Inhabited

namespace Stepper

def ofText (source : String) : Stepper := { recording := .ofText source, source }

/-- The index of the end of input. -/
def last (s : Stepper) : Nat := s.recording.size - 1

/-- Whether there is no token to go on to. -/
def atEnd (s : Stepper) : Bool := s.last ≤ s.position

/-- The number of the current token as it is told, which is kept in a word of 64 bits. -/
def number (s : Stepper) : Nat := (s.position + 1) % UInt64.size

/-- Whether the number told is that of the last token, or a later one. -/
def tellsEnd (s : Stepper) : Bool := s.recording.size ≤ s.number

/-- Whether the failing token has been reached. -/
def atFailure (s : Stepper) : Bool := s.recording.failedBy s.position

/-! ## Moving along the tokens -/

def jumpTo (s : Stepper) (i : Nat) : Stepper :=
  { s with position := min i s.last, view := { s.view with following := true } }

/-- One token on, unless there is none. -/
def advance? (s : Stepper) : Option Stepper :=
  if s.atEnd then none else some (s.jumpTo (s.position + 1))

/-- Up to `n` tokens on, and how many there were. -/
def advanceBy : Nat → Stepper → Nat × Stepper
  | 0, s => (0, s)
  | n + 1, s =>
    match s.advance? with
    | none => (0, s)
    | some s' =>
      let (count, s'') := advanceBy n s'
      (count + 1, s'')

/-- The message after a move to the current token. -/
def describe (s : Stepper) (action : String) : String :=
  match s.recording.get? s.position with
  | some step => s!"{action}: {step.token.render}"
  | none => action

def stepForward (s : Stepper) : Stepper :=
  match s.advance? with
  | some s' => { s' with message := s'.describe "Stepped forward" }
  | none => { s with message := "Cannot step forward: at end of input" }

def stepBackward (s : Stepper) : Stepper :=
  if s.position = 0 then { s with message := "Cannot step backward: at first token" }
  else
    let s' := s.jumpTo (s.position - 1)
    { s' with message := s'.describe "Stepped backward" }

def stepForwardBy (s : Stepper) (n : Nat) : Stepper :=
  let (count, s') := s.advanceBy n
  { s' with message := s!"Stepped forward {count} token(s)" }

/-! ## Playing -/

def togglePlaying (s : Stepper) : Stepper :=
  if s.playing then { s with playing := false, message := "Paused" }
  else { s with playing := true, message := "Playing..." }

def pause (s : Stepper) : Stepper := { s with playing := false }

/-- One turn of playing by itself: a token on, or the end of playing. -/
def play (s : Stepper) : Stepper :=
  match s.advance? with
  | some s' => { s' with message := "Playing..." }
  | none => { s with playing := false, message := "Playback complete" }

/-- A turn of the clock. `due` says that the time for the next token has come. -/
def tick (s : Stepper) (due : Bool) : Stepper :=
  if !s.quitting && s.playing && due then s.play else s

/-! ## Scrolling -/

/-- One more, up to the greatest word of 64 bits. -/
def saturatingSucc (n : Nat) : Nat := min (n + 1) (UInt64.size - 1)

/-- Towards the start. In the source pane the current line moves down a row. -/
def scrollUp (v : View) : View :=
  match v.focus with
  | .source => { v with source := { v.source with row := v.source.row.map saturatingSucc } }
  | .tokens => { v with following := false, tokens := v.tokens - 1 }
  | .diagnostics => { v with diagnostics := v.diagnostics - 1 }

/-- Towards the end. In the source pane the current line moves up a row. -/
def scrollDown (v : View) : View :=
  match v.focus with
  | .source => { v with source := { v.source with row := v.source.row.map (· - 1) } }
  | .tokens => { v with following := false, tokens := saturatingSucc v.tokens }
  | .diagnostics => { v with diagnostics := saturatingSucc v.diagnostics }

/-! ## Keys -/

/-- Handles a character key. `held` says that it repeats a press just made, which the key for
playing ignores. -/
def pressChar (s : Stepper) (held : Bool) (c : Char) : Stepper :=
  if c = 'q' || c = 'Q' then { s with quitting := true }
  else if c.isDigit && c ≠ '0' then s.pause.stepForwardBy (c.toNat - '0'.toNat)
  else if c = ' ' && !held then s.togglePlaying
  else s

/-- Handles a key. -/
def press (s : Stepper) (held : Bool) : Key → Stepper
  | .char c => s.pressChar held c
  | .tab => { s with view := { s.view with focus := s.view.focus.next } }
  | .left => s.pause.stepBackward
  | .right => s.pause.stepForward
  | .up => { s with view := scrollUp s.view }
  | .down => { s with view := scrollDown s.view }
  | .enter => { s.pause.jumpTo s.last with message := "Jumped to end" }
  | .backspace => { s.pause.jumpTo 0 with message := "Jumped to start" }
  | .escape | .backTab => s

end Stepper

end MiniC
