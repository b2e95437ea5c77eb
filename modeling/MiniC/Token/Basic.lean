import MiniC.Place
import MiniC.Token.Kind

/-!
# Tokens

A token is a kind, the text it was read from where the kind does not determine that text, and
the span it covers.
-/

namespace MiniC

structure Token where
  kind : Kind
  /-- The text of the token; empty for operators, punctuation and the end of input, and without
  the quotes for a string. -/
  lexeme : String
  span : Span
deriving DecidableEq, Inhabited

namespace Token

/-- The end of input stands at the first column of its line, whatever that line holds. -/
def endOfInput (p : Place) : Token := ⟨.eof, "", .point ⟨p.line, 1⟩⟩

/-- The lookahead of a recogniser that has read nothing. -/
def unread : Token := ⟨.eof, "", .unset⟩

/-- What a diagnostic calls the token: its text, or its kind's spelling if it has none. -/
def text (t : Token) : String := if t.lexeme.isEmpty then t.kind.spelling else t.lexeme

/-- The token as a listing shows it. -/
def render (t : Token) : String :=
  match t.kind with
  | .stringLiteral => s!"{t.kind.spelling} \"{t.lexeme}\""
  | .identifier | .intLiteral | .floatLiteral | .boolLiteral | .error =>
    s!"{t.kind.spelling} '{t.lexeme}'"
  | _ => s!"'{t.kind.spelling}'"

end Token

end MiniC
