/-!
# Places and spans of a text

**Places.** A place is a line and a column, both counted from one. Reading a character moves
the place on: a newline starts the next line, every other character takes one column.

**Spans.** A span is the half-open range between two places: its last column is one past the
last character it covers.
-/

namespace MiniC

/-- A line and a column, counted from one. -/
structure Place where
  line : Nat
  column : Nat
deriving DecidableEq, Inhabited

namespace Place

/-- Where every text starts. -/
def origin : Place := ⟨1, 1⟩

/-- The place after reading `c`. -/
def step (p : Place) (c : Char) : Place :=
  if c = '\n' then ⟨p.line + 1, 1⟩ else ⟨p.line, p.column + 1⟩

/-- The place after reading all of `text`. -/
def after (p : Place) (text : List Char) : Place := text.foldl step p

@[simp] theorem after_nil (p : Place) : p.after [] = p := rfl

@[simp] theorem after_cons (p : Place) (c : Char) (text : List Char) :
    p.after (c :: text) = (p.step c).after text := rfl

theorem after_append (p : Place) (s t : List Char) : p.after (s ++ t) = (p.after s).after t :=
  List.foldl_append

end Place

/-- The half-open range from `start` to `stop`. -/
structure Span where
  start : Place
  stop : Place
deriving DecidableEq, Inhabited

namespace Span

/-- The empty span at a place. -/
def point (p : Place) : Span := ⟨p, p⟩

/-- The span that carries no place at all, for a token that was never read. -/
def unset : Span := point ⟨0, 0⟩

def isEmpty (s : Span) : Bool := s.start = s.stop

/-- The text `line:column..column` on one line, `line:column..line:column` over several. -/
def render (s : Span) : String :=
  if s.start.line = s.stop.line then s!"{s.start.line}:{s.start.column}..{s.stop.column}"
  else s!"{s.start.line}:{s.start.column}..{s.stop.line}:{s.stop.column}"

end Span

end MiniC
