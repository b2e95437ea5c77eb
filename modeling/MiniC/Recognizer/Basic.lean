import MiniC.Recognizer.Table
import MiniC.Scanner

/-!
# The recogniser

The recogniser pulls tokens from a scanner, one of lookahead at a time, and follows the
prediction table. A run either uses up its stack, or stops at the first token that does not
fit, with one report at that token and nothing read after it.

A run ends because a shift leaves less input behind the lookahead, and an expansion leaves a
lighter stack.
-/

namespace MiniC

/-- The verdict on a program. -/
inductive Outcome where
  | accepted
  | rejected (d : Diagnostic)
deriving DecidableEq, Inhabited

namespace Outcome

def isAccepted : Outcome → Bool
  | accepted => true
  | rejected _ => false

def diagnostic? : Outcome → Option Diagnostic
  | accepted => none
  | rejected d => some d

end Outcome

/-- The scanner that supplies the tokens, the token looked at, and the reporter. -/
structure Recognizer (ρ : Type) where
  scanner : Scanner
  lookahead : Token
  reporter : ρ

namespace Recognizer

variable {ρ : Type}

/-- A recogniser that has read nothing of `source`. -/
def ofText (source : String) (reporter : ρ) : Recognizer ρ := ⟨.ofText source, .unread, reporter⟩

/-- Looks at the next token. -/
def advance (r : Recognizer ρ) : Recognizer ρ :=
  let (token, scanner) := r.scanner.scan
  { r with scanner, lookahead := token }

/-- The lexical warnings that wait, and the recogniser without them. -/
def takeWarnings (r : Recognizer ρ) : List Warning × Recognizer ρ :=
  let (warnings, scanner) := r.scanner.takeWarnings
  (warnings, { r with scanner })

/-- A bound on the tokens still to be taken. At the end of input there are none. -/
def remaining (r : Recognizer ρ) : Nat :=
  if r.lookahead.kind = .eof then 0 else r.scanner.cursor.rest.length + 1

theorem remaining_advance_lt (r : Recognizer ρ) (h : r.lookahead.kind ≠ .eof) :
    r.advance.remaining < r.remaining := by
  have hr : r.remaining = r.scanner.cursor.rest.length + 1 := if_neg h
  by_cases ht : r.advance.lookahead.kind = .eof
  · have : r.advance.remaining = 0 := if_pos ht
    omega
  · have hlt : r.advance.scanner.cursor.rest.length < r.scanner.cursor.rest.length :=
      r.scanner.length_scan_lt ht
    have : r.advance.remaining = r.advance.scanner.cursor.rest.length + 1 := if_neg ht
    omega

variable [Reporter ρ]

/-- Reports that the lookahead does not fit. -/
def reject (r : Recognizer ρ) (e : Expectation) : Outcome × Recognizer ρ :=
  let report := e.report r.lookahead
  (.rejected report.diagnostic, { r with reporter := Reporter.report r.reporter report })

/-- Follows the table until the stack is used up or a token does not fit. -/
def run (r : Recognizer ρ) (stack : List Symbol) : Outcome × Recognizer ρ :=
  match stack with
  | [] => (.accepted, r)
  | x :: stack =>
    match _ : predict x r.lookahead.kind with
    | .shift rest => r.advance.run (rest ++ stack)
    | .expand rest => r.run (rest ++ stack)
    | .fail e => r.reject e
termination_by (r.remaining, weight stack)
decreasing_by
  · exact Prod.Lex.left _ _ (r.remaining_advance_lt (ne_of_shift ‹_›).1)
  · have := weight_lt_of_expand ‹_›
    exact Prod.Lex.right _ (by simp only [weight_append, weight_cons]; omega)

/-- Recognises one program from the next token on. -/
def recognize (r : Recognizer ρ) : Outcome × Recognizer ρ := r.advance.run [.definitions, .finish]

end Recognizer

end MiniC
