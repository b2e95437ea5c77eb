import MiniC.Log

/-!
# Passes that keep a log

The scanner and the recogniser with a log. An event is logged where it happens: a warning as it is
raised, a token when it has been read, a rejection when the recogniser has come back with it. In all
else the passes are those without a log (`scan_eq`, `advance_eq`), which is also why they end.
-/

namespace MiniC

/-- A state, and what has been logged so far. -/
structure Logged (σ : Type) where
  state : σ
  /-- Whether every token is logged. -/
  verbose : Bool := false
  events : Array Event := #[]

namespace Logged

/-- The events, the first one first. -/
def log {σ : Type} (l : Logged σ) : List Event := l.events.toList

def note {σ : Type} (l : Logged σ) (e : Event) : Logged σ := { l with events := l.events.push e }

/-! ## Scanning -/

/-- Logs a warning and lets it wait with the others. -/
def raise (s : Logged Scanner) (w : Warning) : Logged Scanner :=
  { s.note (.warning w) with state := { s.state with warnings := s.state.warnings ++ [w] } }

/-- The next token. Its warnings are raised while it is read. -/
def scan (s : Logged Scanner) : Token × Logged Scanner :=
  let (step, cursor) := s.state.cursor.next
  let s' := step.warnings.foldl raise { s with state := { s.state with cursor } }
  (step.token, if s.verbose then s'.note (.token step.token) else s')

theorem state_foldl_raise (s : Logged Scanner) (ws : List Warning) :
    (ws.foldl raise s).state = ⟨s.state.cursor, s.state.warnings ++ ws⟩ := by
  induction ws generalizing s with
  | nil => rw [List.append_nil]; rfl
  | cons w ws ih =>
    rw [List.foldl_cons, ih, List.append_cons]
    rfl

/-- A log changes nothing in what is scanned. -/
theorem scan_eq (s : Logged Scanner) : s.scan.1 = s.state.scan.1 ∧
    s.scan.2.state = s.state.scan.2 := by
  refine ⟨rfl, ?_⟩
  rw [scan]
  dsimp only
  split <;> exact state_foldl_raise _ _

/-- Takes the waiting warnings. -/
def takeWarnings (s : Logged Scanner) : List Warning × Logged Scanner :=
  let (ws, scanner) := s.state.takeWarnings
  (ws, { s with state := scanner })

/-- Scans through the end of input, one step after another. -/
def steps (s : Logged Scanner) : List Step × Logged Scanner :=
  let step : Step := ⟨s.scan.1, s.scan.2.takeWarnings.1⟩
  if _ : s.scan.1.kind = .eof then ([step], s.scan.2.takeWarnings.2)
  else
    let (steps, s') := s.scan.2.takeWarnings.2.steps
    (step :: steps, s')
termination_by s.state.cursor.rest.length
decreasing_by
  obtain ⟨htoken, hstate⟩ := s.scan_eq
  have hlt := s.state.length_scan_lt (htoken ▸ ‹_›)
  rwa [← hstate] at hlt

/-! ## Recognising -/

variable {ρ : Type}

/-- Looks at the next token. -/
def advance (r : Logged (Recognizer ρ)) : Logged (Recognizer ρ) :=
  let (token, s) := scan { r with state := r.state.scanner }
  { s with state := { r.state with scanner := s.state, lookahead := token } }

theorem advance_eq (r : Logged (Recognizer ρ)) : r.advance.state = r.state.advance := by
  obtain ⟨htoken, hstate⟩ := scan_eq { r with state := r.state.scanner }
  rw [advance, Recognizer.advance]
  dsimp only
  rw [htoken, hstate]

variable [Reporter ρ]

/-- Follows the table until the stack is used up or a token does not fit. -/
def run (r : Logged (Recognizer ρ)) (stack : List Symbol) : Outcome × Logged (Recognizer ρ) :=
  match stack with
  | [] => (.accepted, r)
  | x :: stack =>
    match _ : predict x r.state.lookahead.kind with
    | .shift rest => r.advance.run (rest ++ stack)
    | .expand rest => r.run (rest ++ stack)
    | .fail e =>
      let (outcome, state) := r.state.reject e
      (outcome, { r with state })
termination_by (r.state.remaining, weight stack)
decreasing_by
  · rw [advance_eq]
    exact Prod.Lex.left _ _ (r.state.remaining_advance_lt (ne_of_shift ‹_›).1)
  · have := weight_lt_of_expand ‹_›
    exact Prod.Lex.right _ (by simp only [weight_append, weight_cons]; omega)

/-- Recognises one program from the next token on, and logs its rejection. -/
def recognize (r : Logged (Recognizer ρ)) : Outcome × Logged (Recognizer ρ) :=
  match r.advance.run [.definitions, .finish] with
  | (.accepted, r') => (.accepted, r')
  | (.rejected d, r') => (.rejected d, r'.note (.rejected d))

end Logged

end MiniC
