import MiniC.Screen.Widget
import MiniC.Stepper.Palette
import MiniC.Token.Basic

/-!
# Highlighting a line

A line is cut at the borders of the tokens that start on it. Each token shows in the style of
its kind and what lies between them is dimmed. A tab shows as one blank.

The tokens are taken as they come: one that lies behind the part of the line already shown, or
past its end, is cut to what is left of it. So the fragments together are always the line.
-/

namespace MiniC

open Screen

/-- The style of a token. The current token stands out. -/
def Token.highlight (current : Option Span) (t : Token) : Style :=
  if current = some t.span then (t.kind.style.on Palette.currentToken).strong else t.kind.style

namespace Highlight

/-- The character a line shows for `c`. -/
def showChar (c : Char) : Char := if c = '\t' then ' ' else c

/-- The dimmed fragment of a text, if there is any text. -/
def gap (text : List Char) : Line := if text.isEmpty then [] else [⟨text, gapStyle⟩]

/-- Whether a token starts on line `n` and covers any text. -/
def startsOn (n : Nat) (t : Token) : Bool := t.span.start.line = n && !t.span.isEmpty

/-- The fragments of `rest`, which is what line `n` holds after its first `column` characters. -/
def cut (n : Nat) (current : Option Span) (column : Nat) (rest : List Char) :
    List Token → Line
  | [] => gap rest
  | t :: tokens =>
    let before := rest.take (t.span.start.column - 1 - column)
    let rest := rest.drop before.length
    let column := column + before.length
    let text := if t.span.stop.line = n then rest.take (t.span.stop.column - 1 - column) else rest
    gap before ++ ⟨text, t.highlight current⟩ ::
      cut n current (column + text.length) (rest.drop text.length) tokens

/-- The fragments of line `n`. `current` is the span of the current token. -/
def line (text : List Char) (n : Nat) (tokens : List Token) (current : Option Span) : Line :=
  cut n current 0 (text.map showChar) (tokens.filter (startsOn n))

end Highlight

end MiniC
