import MiniC.Proofs.Run

/-!
# What a recognition does to the outside

A recogniser touches two things: it scans tokens and it makes reports. `effects` lists what a run
does, in order, along the same recursion as `run`, and `recognition` what a whole recognition does.

**Theorem (`recognize_eq_replay`).** Carrying out these effects one after another gives the state
in which the recognition ends, so nothing is done that the list does not show.

**Theorem (`recognize_cases`).** A recognition scans the tokens it takes and the lookahead at which
it stops. If it accepts, that is all; otherwise one report about that lookahead comes last.

The effects depend on the tokens to come alone (`recognition_congr`): two recognisers that differ in
their reporters do the same.
-/

namespace MiniC

/-- One thing that a recogniser does: it looks at a new token, or it makes a report. -/
inductive Effect where
  | scan (t : Token)
  | report (r : Report)

def Effect.token? : Effect → Option Token
  | scan t => some t
  | report _ => none

namespace Recognizer

variable {ρ σ : Type}

/-- What a run does, in order. -/
def effects (r : Recognizer ρ) (stack : List Symbol) : List Effect :=
  match stack with
  | [] => []
  | x :: stack =>
    match _ : predict x r.lookahead.kind with
    | .shift rest => .scan r.advance.lookahead :: r.advance.effects (rest ++ stack)
    | .expand rest => r.effects (rest ++ stack)
    | .fail e => [.report (e.report r.lookahead)]
termination_by (r.remaining, weight stack)
decreasing_by
  · exact Prod.Lex.left _ _ (r.remaining_advance_lt (ne_of_shift ‹_›).1)
  · have := weight_lt_of_expand ‹_›
    exact Prod.Lex.right _ (by simp only [weight_append, weight_cons]; omega)

/-- What the recognition of one program does, in order. -/
def recognition (r : Recognizer ρ) : List Effect :=
  .scan r.advance.lookahead :: r.advance.effects [.definitions, .finish]

/-- The tokens that the recognition of one program scans. -/
def scanned (r : Recognizer ρ) : List Token := r.recognition.filterMap Effect.token?

/-! ## One step of a run -/

theorem effects_nil (r : Recognizer ρ) : r.effects [] = [] := by rw [effects]

theorem effects_of_shift {r : Recognizer ρ} {x : Symbol} {rest : List Symbol} (s : List Symbol)
    (h : predict x r.lookahead.kind = .shift rest) :
    r.effects (x :: s) = .scan r.advance.lookahead :: r.advance.effects (rest ++ s) := by
  rw [effects]
  split <;> simp_all

theorem effects_of_expand {r : Recognizer ρ} {x : Symbol} {rest : List Symbol} (s : List Symbol)
    (h : predict x r.lookahead.kind = .expand rest) :
    r.effects (x :: s) = r.effects (rest ++ s) := by
  rw [effects]
  split <;> simp_all

theorem effects_of_fail {r : Recognizer ρ} {x : Symbol} {e : Expectation} (s : List Symbol)
    (h : predict x r.lookahead.kind = .fail e) :
    r.effects (x :: s) = [.report (e.report r.lookahead)] := by
  rw [effects]
  split <;> simp_all

/-! ## The tokens of a run -/

section Tokens

variable {r r' : Recognizer ρ} {s s' : List Symbol} {ts : List Token}

theorem Reaches.take_pending (h : Reaches r s ts r' s') : r.pending.take ts.length = ts := by
  rw [h.pending_eq, List.take_left]

/-- Where a run stands, its lookahead comes right after the tokens taken. -/
theorem Reaches.getElem?_pending (h : Reaches r s ts r' s') :
    r.pending[ts.length]? = some r'.lookahead := by
  rw [h.pending_eq, List.getElem?_append_right le_rfl, Nat.sub_self, ← List.head?_eq_getElem?]
  exact r'.head?_pending

theorem Reaches.take_succ_pending (h : Reaches r s ts r' s') :
    r.pending.take (ts.length + 1) = ts ++ [r'.lookahead] := by
  rw [List.take_add_one, h.take_pending, h.getElem?_pending, Option.toList_some]

end Tokens

/-! ## The effects of a whole run -/

/-- Along a run the effects are the scans of the tokens looked at, one after another. The first
lookahead was scanned before the run. -/
theorem Reaches.effects_eq {r r' : Recognizer ρ} {s s' : List Symbol} {ts : List Token}
    (h : Reaches r s ts r' s') :
    Effect.scan r.lookahead :: r.effects s =
      (ts ++ [r'.lookahead]).map .scan ++ r'.effects s' := by
  induction h with
  | refl r s => rfl
  | shift hp _ ih => rw [effects_of_shift _ hp, ih, List.cons_append, List.map_cons,
      List.cons_append]
  | expand hp _ ih => rw [effects_of_expand _ hp, ih]

theorem lookahead_congr {r : Recognizer ρ} {r' : Recognizer σ} (h : r'.pending = r.pending) :
    r'.lookahead = r.lookahead := by
  have hhead := r'.head?_pending
  rw [h, r.head?_pending] at hhead
  exact (Option.some.inj hhead).symm

/-- The effects of a run depend on the tokens to come alone. -/
theorem effects_congr (r : Recognizer ρ) (r' : Recognizer σ) (s : List Symbol)
    (h : r'.pending = r.pending) : r'.effects s = r.effects s := by
  fun_induction effects r s generalizing r' with
  | case1 r => exact effects_nil r'
  | case2 r x s rest hp ih =>
    have hne := (ne_of_shift hp).1
    have hadvance : r'.advance.pending = r.advance.pending :=
      pending_advance_of_pending (h.trans (pending_eq_cons hne)) hne
    rw [effects_of_shift s (lookahead_congr h ▸ hp), lookahead_congr hadvance,
      ih r'.advance hadvance]
  | case3 r x s rest hp ih => rw [effects_of_expand s (lookahead_congr h ▸ hp), ih r' h]
  | case4 r x s e hp => rw [effects_of_fail s (lookahead_congr h ▸ hp), lookahead_congr h]

theorem recognition_congr (r : Recognizer ρ) (r' : Recognizer σ)
    (h : r'.scanner.scanAll.1 = r.scanner.scanAll.1) : r'.recognition = r.recognition := by
  have hpending : r'.advance.pending = r.advance.pending := by
    rw [pending_advance, pending_advance, h]
  rw [recognition, recognition, lookahead_congr hpending, effects_congr _ _ _ hpending]

theorem recognition_eq (r : Recognizer ρ) (r' : Recognizer σ) (h : r'.scanner = r.scanner) :
    r'.recognition = r.recognition :=
  recognition_congr r r' (by rw [h])

/-! ## Replaying the effects -/

variable [Reporter ρ]

/-- The recogniser after an effect. -/
def apply (r : Recognizer ρ) : Effect → Recognizer ρ
  | .scan t => { r with scanner := r.scanner.scan.2, lookahead := t }
  | .report report => { r with reporter := Reporter.report r.reporter report }

theorem run_eq_replay (r : Recognizer ρ) (s : List Symbol) :
    (r.run s).2 = (r.effects s).foldl apply r := by
  fun_induction run r s with
  | case1 r => rw [effects_nil]; rfl
  | case2 r x s rest hp ih => rw [effects_of_shift s hp, List.foldl_cons, ih]; rfl
  | case3 r x s rest hp ih => rw [effects_of_expand s hp, ih]
  | case4 r x s e hp => rw [effects_of_fail s hp]; rfl

/-- A recognition does what its list of effects shows, and nothing else. -/
theorem recognize_eq_replay (r : Recognizer ρ) :
    r.recognize.2 = r.recognition.foldl apply r := by
  rw [recognize, run_eq_replay, recognition, List.foldl_cons]
  rfl

/-- **A recognition, from outside.** It scans the tokens it takes and the lookahead where it stops.
Then it accepts, or it makes one report about that lookahead. -/
theorem recognize_cases (r : Recognizer ρ) : ∃ ts r' s',
    Reaches r.advance [.definitions, .finish] ts r' s' ∧
      ((s' = [] ∧ r.recognition = (ts ++ [r'.lookahead]).map .scan ∧
          r.recognize = (.accepted, r')) ∨
        ∃ x t e, s' = x :: t ∧ predict x r'.lookahead.kind = .fail e ∧
          r.recognition = (ts ++ [r'.lookahead]).map .scan ++ [.report (e.report r'.lookahead)] ∧
          r.recognize = r'.reject e) := by
  obtain ⟨ts, r', s', hr, hend⟩ := run_cases r.advance [.definitions, .finish]
  have heffects : r.recognition = (ts ++ [r'.lookahead]).map .scan ++ r'.effects s' :=
    hr.effects_eq
  refine ⟨ts, r', s', hr, ?_⟩
  rcases hend with ⟨rfl, hrun⟩ | ⟨x, t, e, rfl, hp, hrun⟩
  · left
    rw [effects_nil, List.append_nil] at heffects
    exact ⟨rfl, heffects, hrun⟩
  · right
    rw [effects_of_fail t hp] at heffects
    exact ⟨x, t, e, rfl, hp, heffects, hrun⟩

/-! ## What the effects tell -/

theorem filterMap_scan (ts : List Token) : (ts.map Effect.scan).filterMap Effect.token? = ts := by
  rw [List.filterMap_map]
  exact List.filterMap_some

/-- The state in which a recognition ends has the last token scanned as its lookahead. Where it
accepts, the stack is used up; where it rejects, the diagnostic points at that token. -/
theorem recognize_scans (r : Recognizer ρ) : ∃ ts r' s',
    Reaches r.advance [.definitions, .finish] ts r' s' ∧ r.scanned = ts ++ [r'.lookahead] ∧
      r.recognize.2.scanner = r'.scanner ∧ r.recognize.2.lookahead = r'.lookahead ∧
      match r.recognize.1 with
        | .accepted => s' = []
        | .rejected d => d.span = r'.lookahead.span := by
  obtain ⟨ts, r', s', hr, ⟨hs, heffects, hrec⟩ | ⟨x, t, e, -, -, heffects, hrec⟩⟩ :=
    r.recognize_cases
  · refine ⟨ts, r', s', hr, ?_, ?_⟩
    · rw [scanned, heffects, filterMap_scan]
    · rw [hrec]
      exact ⟨rfl, rfl, hs⟩
  · refine ⟨ts, r', s', hr, ?_, ?_⟩
    · rw [scanned, heffects, List.filterMap_append, filterMap_scan]
      exact List.append_nil _
    · rw [hrec]
      refine ⟨rfl, rfl, ?_⟩
      cases e <;> rfl

/-- The verdict can be read off the last effect. -/
theorem recognize_fst (r : Recognizer ρ) :
    r.recognize.1 = match r.recognition.getLast? with
      | some (.report report) => .rejected report.diagnostic
      | _ => .accepted := by
  obtain ⟨ts, r', s', -, ⟨-, heffects, hrec⟩ | ⟨x, t, e, -, -, heffects, hrec⟩⟩ :=
    r.recognize_cases
  · rw [heffects, hrec, List.getLast?_map, List.getLast?_concat]
    rfl
  · rw [heffects, hrec, List.getLast?_concat]
    rfl

/-- The verdict is the same whatever the reporter. -/
theorem recognize_fst_eq [Reporter σ] (r : Recognizer ρ) (r' : Recognizer σ)
    (h : r'.scanner = r.scanner) : r'.recognize.1 = r.recognize.1 := by
  rw [recognize_fst, recognize_fst, recognition_eq r r' h]

end Recognizer

end MiniC
