import MiniC.Piece
import MiniC.Reader

/-!
# The scanner

**Cursors.** A cursor is the text still to be read and the place where it starts. Its next step
skips blanks and comments, reads one lexeme and makes a token of it; at the end of the text the
step is the end of input, again and again. A token other than the end of input leaves less to
read (`length_next_lt`), so the steps of a text are finite.

**Scanners.** A scanner hands out the tokens of a cursor and keeps the warnings until somebody
takes them.
-/

namespace MiniC

/-- The unread text, and the place of its first character. -/
structure Cursor where
  rest : List Char
  place : Place
deriving DecidableEq

namespace Cursor

/-- A reader's text up to the end marker. -/
def ofReader (r : Reader) : Cursor := ⟨r.remaining, .origin⟩

def ofText (s : String) : Cursor := ofReader (.ofText s)

/-- The next token with its warnings, and the cursor after it. A comment that is never closed
is the end of input, with a warning that spans the comment. -/
def next (c : Cursor) : Step × Cursor :=
  match _ : Piece.read? c.rest with
  | none => (⟨.endOfInput c.place, []⟩, c)
  | some (piece, rest) =>
    let after : Cursor := ⟨rest, c.place.after piece.chars⟩
    let span : Span := ⟨c.place, after.place⟩
    match piece with
    | .lexeme l => (⟨l.token span, l.warnings c.place⟩, after)
    | .openComment _ => (⟨.endOfInput after.place, [.unterminatedComment span]⟩, after)
    | .blank _ | .lineComment _ _ | .blockComment _ => after.next
termination_by c.rest.length
decreasing_by all_goals exact Piece.length_lt_of_read? ‹_›

/-- Every token but the end of input shortens the text. -/
theorem length_next_lt (c : Cursor) (h : c.next.1.token.kind ≠ .eof) :
    c.next.2.rest.length < c.rest.length := by
  fun_induction next c with
  | case1 => exact absurd rfl h
  | case2 c rest l hr => exact Piece.length_lt_of_read? hr
  | case3 => exact absurd rfl h
  | case4 c rest b hr _ _ ih => exact Nat.lt_trans (ih h) (Piece.length_lt_of_read? hr)
  | case5 c rest b n hr _ _ ih => exact Nat.lt_trans (ih h) (Piece.length_lt_of_read? hr)
  | case6 c rest b hr _ _ ih => exact Nat.lt_trans (ih h) (Piece.length_lt_of_read? hr)

/-- Every step through the end of input. -/
def steps (c : Cursor) : List Step :=
  if _ : c.next.1.token.kind = .eof then [c.next.1] else c.next.1 :: c.next.2.steps
termination_by c.rest.length
decreasing_by exact c.length_next_lt ‹_›

end Cursor

/-- A cursor and the warnings nobody has taken yet. -/
structure Scanner where
  cursor : Cursor
  warnings : List Warning := []
deriving DecidableEq

namespace Scanner

def ofText (s : String) : Scanner := { cursor := .ofText s }

/-- The next token; its warnings join those that wait. -/
def scan (s : Scanner) : Token × Scanner :=
  let (step, cursor) := s.cursor.next
  (step.token, ⟨cursor, s.warnings ++ step.warnings⟩)

/-- The waiting warnings, and the scanner without them. -/
def takeWarnings (s : Scanner) : List Warning × Scanner := (s.warnings, { s with warnings := [] })

theorem length_scan_lt (s : Scanner) (h : s.scan.1.kind ≠ .eof) :
    s.scan.2.cursor.rest.length < s.cursor.rest.length :=
  s.cursor.length_next_lt h

/-- Scans through the end of input. -/
def scanAll (s : Scanner) : List Token × Scanner :=
  if _ : s.scan.1.kind = .eof then ([s.scan.1], s.scan.2)
  else
    let (tokens, s') := s.scan.2.scanAll
    (s.scan.1 :: tokens, s')
termination_by s.cursor.rest.length
decreasing_by exact s.length_scan_lt ‹_›

end Scanner

/-- The tokens of a text, the end of input included, and all its warnings. -/
def tokenize (source : String) : List Token × List Warning :=
  let (tokens, scanner) := (Scanner.ofText source).scanAll
  (tokens, scanner.warnings)

end MiniC
