/-!
# Colours, styles and cells

A style says what to change: a colour it leaves unset stays as it was, and bold is only ever
added. A cell holds what one place shows, a cluster of characters, and the style it has come to.
-/

namespace MiniC.Screen

inductive Color where
  | rgb (red green blue : UInt8)
  | black
  | white
deriving DecidableEq, Inhabited

structure Style where
  foreground : Option Color := none
  background : Option Color := none
  bold : Bool := false
deriving DecidableEq, Inhabited

namespace Style

/-- The style `s` with the changes of `t` on top. -/
def patch (s t : Style) : Style :=
  ⟨t.foreground <|> s.foreground, t.background <|> s.background, s.bold || t.bold⟩

def fg (c : Color) : Style := { foreground := some c }

def on (s : Style) (c : Color) : Style := { s with background := some c }

def strong (s : Style) : Style := { s with bold := true }

end Style

structure Cell where
  symbol : List Char := [' ']
  style : Style := {}
deriving DecidableEq, Inhabited

namespace Cell

def restyle (s : Style) (c : Cell) : Cell := { c with style := c.style.patch s }

/-- Replaces what is shown, and the style where `s` sets it. -/
def put (symbol : List Char) (s : Style) (c : Cell) : Cell := { c.restyle s with symbol }

/-- Adds to what is shown. -/
def append (symbol : List Char) (s : Style) (c : Cell) : Cell :=
  { c.restyle s with symbol := c.symbol ++ symbol }

end Cell

end MiniC.Screen
