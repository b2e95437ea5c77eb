import MiniC.Logged

/-!
# Recorded sessions

A recording holds every token of a source with its warnings, and the verdict of a recogniser
that read the source again on its own. The two passes meet in the failing token: it is found by
the span of the diagnostic.
-/

namespace MiniC

/-- All steps of a scan through the end of input, and the verdict. -/
structure Recording where
  steps : List Step
  outcome : Outcome
deriving DecidableEq, Inhabited

namespace Recording

def ofText (source : String) : Recording where
  steps := (Cursor.ofText source).steps
  outcome := (Recognizer.ofText source ({} : Collected)).recognize.1

/-- Records a source and keeps a log of it. The second pass logs no tokens, but raises again the
warnings of those that it reaches. -/
def record (verbose : Bool) (source : String) : Recording × List Event :=
  let (steps, scanner) := Logged.steps { state := .ofText source, verbose }
  let (outcome, recognizer) := Logged.recognize
    { state := .ofText source ({} : Collected), events := scanner.events }
  (⟨steps, outcome⟩, (recognizer.note (.recorded steps.length outcome.isAccepted)).log)

def size (r : Recording) : Nat := r.steps.length

def get? (r : Recording) (i : Nat) : Option Step := r.steps[i]?

def tokens (r : Recording) : List Token := r.steps.map Step.token

/-- The index of the token the diagnostic points at. -/
def failure? (r : Recording) : Option Nat :=
  r.outcome.diagnostic?.bind fun d => r.steps.findIdx? fun s => s.token.span = d.span

/-- Whether stepping to `position` has reached the failing token. -/
def failedBy (r : Recording) (position : Nat) : Bool := r.failure?.any (· ≤ position)

/-- The warnings of the steps through index `i`. -/
def warningsUntil (r : Recording) (i : Nat) : List Warning :=
  (r.steps.take (i + 1)).flatMap Step.warnings

def warningCount (r : Recording) : Nat := (r.steps.flatMap Step.warnings).length

end Recording

end MiniC
