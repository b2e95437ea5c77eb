import MiniC.Token.Basic

/-!
# Lexical warnings

Conditions the scanner heals by itself. A warning never stops scanning; it belongs to the token
during whose reading it arose, and a token with its warnings is a step of the scan.
-/

namespace MiniC

inductive Warning where
  /-- A backslash before a character other than `n`. -/
  | illegalEscape (c : Char) (span : Span)
  /-- A string cut short by the end of its line. -/
  | unterminatedString (span : Span)
  /-- A block comment that runs into the end of input. -/
  | unterminatedComment (span : Span)
deriving DecidableEq, Inhabited

namespace Warning

def span : Warning → Span
  | illegalEscape _ s | unterminatedString s | unterminatedComment s => s

def message : Warning → String
  | illegalEscape c s => s!"illegal escape sequence '\\{c}' at {s.render}"
  | unterminatedString s => s!"unterminated string literal at {s.render}"
  | unterminatedComment s => s!"unterminated multi-line comment at {s.render}"

end Warning

/-- One token and the warnings raised while it was read, in order. -/
structure Step where
  token : Token
  warnings : List Warning
deriving DecidableEq, Inhabited

end MiniC
