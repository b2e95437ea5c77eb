import MiniC.Proofs.EndOfInput
import MiniC.Proofs.Passes
import MiniC.Proofs.Verdict

/-!
# Recognising again and again

A recogniser can be called repeatedly. Its scanner goes on where it stands, so the token at which a
call stops is not seen by the next one.

**Theorem (`recognitions_resume`).** Each call does what a fresh recogniser would do on the tokens
after that lookahead: it scans the same tokens, makes the same report, and adds the warnings of the
tokens that it scans. Every call goes on by at least one token. After as many calls as there are
tokens the end of input is reached, and from then on a call accepts and changes nothing.

**Steps to come.** What a scanner still has to give is a suffix of the steps of the source; after
the last of them it is the end of input, again and again and without warnings (`stepsAfter`).
-/

namespace MiniC

/-! ## Steps to come -/

/-- What follows after the first `n` of the steps. After all of them the last token comes again,
without its warnings. -/
def stepsAfter (steps : List Step) (n : Nat) : List Step :=
  if n < steps.length then steps.drop n else steps.getLast?.toList.map fun s => ⟨s.token, []⟩

theorem stepsAfter_of_lt {steps : List Step} {n : Nat} (h : n < steps.length) :
    stepsAfter steps n = steps.drop n := if_pos h

theorem stepsAfter_of_ge {steps : List Step} {n : Nat} (h : steps.length ≤ n) :
    stepsAfter steps n = steps.getLast?.toList.map fun s => ⟨s.token, []⟩ :=
  if_neg (Nat.not_lt.2 h)

theorem stepsAfter_zero (steps : List Step) : stepsAfter steps 0 = steps := by
  cases steps <;> rfl

/-- Going on by one more step. -/
theorem stepsAfter_succ (steps : List Step) (n : Nat) :
    stepsAfter steps (n + 1) = stepsAfter (stepsAfter steps n) 1 := by
  by_cases hn : n < steps.length
  · rw [stepsAfter_of_lt hn]
    by_cases hsucc : n + 1 < steps.length
    · rw [stepsAfter_of_lt hsucc, stepsAfter_of_lt (by rw [List.length_drop]; omega),
        List.drop_drop]
    · rw [stepsAfter_of_ge (Nat.not_lt.1 hsucc),
        stepsAfter_of_ge (by rw [List.length_drop]; omega), List.getLast?_drop,
        if_neg (Nat.not_le.2 hn)]
  · rw [stepsAfter_of_ge (by omega), stepsAfter_of_ge (Nat.not_lt.1 hn)]
    cases steps.getLast? <;> rfl

theorem stepsAfter_add (steps : List Step) (m n : Nat) :
    stepsAfter (stepsAfter steps m) n = stepsAfter steps (m + n) := by
  induction n with
  | zero => exact stepsAfter_zero _
  | succ n ih => rw [stepsAfter_succ, ih, ← stepsAfter_succ, Nat.add_assoc]

theorem stepsAfter_min (steps : List Step) (n : Nat) :
    stepsAfter steps (min steps.length n) = stepsAfter steps n := by
  by_cases h : n ≤ steps.length
  · rw [min_eq_right h]
  · rw [min_eq_left (by omega), stepsAfter_of_ge le_rfl, stepsAfter_of_ge (by omega)]

/-- The token that comes `k` steps on, by its index in the source. -/
theorem token_stepsAfter {steps : List Step} {m k : Nat} (hk : 0 < k)
    (hle : k ≤ (stepsAfter steps m).length) :
    ((stepsAfter steps m)[k - 1]?).map Step.token =
      (steps[min steps.length (m + k) - 1]?).map Step.token := by
  by_cases hm : m < steps.length
  · rw [stepsAfter_of_lt hm, List.length_drop] at hle
    rw [stepsAfter_of_lt hm, List.getElem?_drop, min_eq_right (by omega), Nat.add_sub_assoc hk]
  · rw [stepsAfter_of_ge (Nat.not_lt.1 hm)] at hle ⊢
    rw [min_eq_left (by omega), ← List.getLast?_eq_getElem?]
    cases hlast : steps.getLast? with
    | none =>
      rw [hlast] at hle
      exact absurd hle (Nat.not_le.2 hk)
    | some step =>
      rw [hlast] at hle
      obtain rfl : k = 1 := le_antisymm hle hk
      rfl

namespace Cursor

/-- The last step is the end of input, and no other. -/
theorem kind_getElem?_steps (c : Cursor) {i : Nat} {step : Step} (h : c.steps[i]? = some step) :
    step.token.kind = .eof ↔ i + 1 = c.steps.length := by
  fun_induction steps c generalizing i with
  | case1 c heof =>
    cases i with
    | zero =>
      obtain rfl : c.next.1 = step := Option.some.inj h
      exact iff_of_true heof rfl
    | succ i => simp at h
  | case2 c hne ih =>
    have hpos := c.next.2.length_steps_pos
    cases i with
    | zero =>
      obtain rfl : c.next.1 = step := Option.some.inj h
      exact iff_of_false hne (by rw [List.length_cons]; omega)
    | succ i => rw [ih h, List.length_cons, Nat.add_right_cancel_iff]

/-- After one scan there is one step less to come. -/
theorem steps_next (c : Cursor) : c.next.2.steps = stepsAfter c.steps 1 := by
  by_cases h : c.next.1.token.kind = .eof
  · have hend : c.next.2.AtEnd c.next.1.token := atEnd_next h
    have hnext : c.next.2.next.1 = ⟨c.next.1.token, []⟩ := congrArg Prod.fst hend
    rw [steps_of_eof h, steps_of_eof (by rw [hnext]; exact h), hnext]
    rfl
  · have hlength := c.next.2.length_steps_pos
    rw [steps_of_ne_eof h, stepsAfter_of_lt (by simpa using hlength), List.drop_one, List.tail_cons]

theorem steps_iterate_next (c : Cursor) (n : Nat) :
    ((fun c => c.next.2)^[n] c).steps = stepsAfter c.steps n := by
  induction n with
  | zero => exact (stepsAfter_zero c.steps).symm
  | succ n ih => rw [Function.iterate_succ_apply', steps_next, ih, ← stepsAfter_succ]

end Cursor

namespace Recognizer

variable {ρ : Type}

/-! ## One call -/

theorem cursor_iterate_advance (r : Recognizer ρ) (n : Nat) :
    (advance^[n] r).scanner.cursor = (fun c => c.next.2)^[n] r.scanner.cursor := by
  induction n with
  | zero => rfl
  | succ n ih =>
    rw [Function.iterate_succ_apply', Function.iterate_succ_apply', ← ih]
    rfl

variable [Reporter ρ]

/-- A call scans a first part of the tokens to come, and stops at the last token it has scanned. -/
theorem scanned_spec (r : Recognizer ρ) :
    0 < r.scanned.length ∧ r.scanned.length ≤ r.scanner.cursor.steps.length ∧
      r.scanned = (r.scanner.cursor.steps.take r.scanned.length).map Step.token ∧
      r.scanned.getLast? = some r.recognize.2.lookahead ∧
      r.recognize.2.scanner = (advance^[r.scanned.length] r).scanner := by
  obtain ⟨ts, r', s', hr, hscanned, hscanner, hlookahead, -⟩ := r.recognize_scans
  have hpending : r.advance.pending = r.scanner.cursor.steps.map Step.token := by
    rw [pending_advance, Scanner.tokens_scanAll]
  have hlength : r.scanned.length = ts.length + 1 := by rw [hscanned, List.length_append]; rfl
  refine ⟨by omega, ?_, ?_, ?_, ?_⟩
  · have hget := hr.getElem?_pending
    rw [hpending] at hget
    have hlt := (List.getElem?_eq_some_iff.1 hget).1
    rw [List.length_map] at hlt
    omega
  · rw [hlength, List.map_take, ← hpending, hr.take_succ_pending, hscanned]
  · rw [hscanned, List.getLast?_concat, hlookahead]
  · rw [hscanner, hlength, hr.eq_iterate, Function.iterate_succ_apply]

/-- **A call on the steps `suffix`.** It does what every fresh recogniser does that has their tokens
before it, and there are such recognisers. It scans a first part of the steps, through the lookahead
where it stops, and adds the warnings of this part. -/
structure CallsOn (r : Recognizer ρ) (suffix : List Step) : Prop where
  supply : ∃ cursor : Cursor, cursor.steps = suffix
  verdict : ∀ {σ : Type} [Reporter σ] (fresh : Recognizer σ),
    fresh.scanner.scanAll.1 = suffix.map Step.token →
      r.recognize.1 = fresh.recognize.1 ∧ r.recognition = fresh.recognition ∧
        r.recognize.2.lookahead = fresh.recognize.2.lookahead
  scanned : r.scanned = (suffix.take r.scanned.length).map Step.token
  lookahead : r.scanned.getLast? = some r.recognize.2.lookahead
  warnings : r.recognize.2.scanner.warnings =
    r.scanner.warnings ++ (suffix.take r.scanned.length).flatMap Step.warnings

theorem callsOn_steps (r : Recognizer ρ) : r.CallsOn r.scanner.cursor.steps := by
  obtain ⟨-, hle, hscanned, hlast, hscanner⟩ := r.scanned_spec
  refine ⟨⟨_, rfl⟩, ?_, hscanned, hlast, ?_⟩
  · intro σ _ fresh htokens
    have hrecognition : r.recognition = fresh.recognition := by
      apply recognition_congr
      rw [htokens, Scanner.tokens_scanAll]
    have hlast' := fresh.scanned_spec.2.2.2.1
    rw [Recognizer.scanned, ← hrecognition, ← Recognizer.scanned, hlast] at hlast'
    refine ⟨?_, hrecognition, Option.some.inj hlast'⟩
    rw [recognize_fst, recognize_fst, hrecognition]
  · rw [hscanner, r.warnings_iterate_advance hle]

/-- A call that stops at the end of input leaves the scanner there. -/
theorem atEnd_recognize {r : Recognizer ρ} (h : r.recognize.2.lookahead.kind = .eof) :
    r.recognize.2.scanner.cursor.AtEnd r.recognize.2.lookahead := by
  obtain ⟨ts, r', s', hr, -, hscanner, hlookahead, -⟩ := r.recognize_scans
  obtain ⟨r₁, rfl⟩ : ∃ r₁, r' = advance r₁ :=
    ⟨advance^[ts.length] r, by rw [hr.eq_iterate, ← Function.iterate_succ_apply,
      Function.iterate_succ_apply']⟩
  rw [hlookahead] at h
  rw [hscanner, hlookahead]
  exact Cursor.atEnd_next h

/-- A call at the end of input accepts and changes nothing. -/
theorem recognize_of_atEnd {r : Recognizer ρ} (h : r.scanner.cursor.AtEnd r.lookahead)
    (heof : r.lookahead.kind = .eof) : r.recognize = (.accepted, r) := by
  have hadvance : r.advance = r := by
    rw [advance, Scanner.scan_of_atEnd h]
  have hdefinitions : predict .definitions r.lookahead.kind = .expand [] := by rw [heof]; rfl
  have hfinish : predict .finish r.lookahead.kind = .expand [] := by rw [heof]; rfl
  rw [recognize, hadvance, run_of_expand _ hdefinitions, List.nil_append,
    run_of_expand _ hfinish, List.nil_append, run_nil]

/-! ## One call after another -/

/-- The recogniser after `n` calls. -/
def afterCalls (r : Recognizer ρ) (n : Nat) : Recognizer ρ := (fun r => r.recognize.2)^[n] r

/-- How many of `total` tokens have been scanned after `n` calls. -/
def seen (r : Recognizer ρ) (total : Nat) : Nat → Nat
  | 0 => 0
  | n + 1 => min total (r.seen total n + (r.afterCalls n).scanned.length)

theorem afterCalls_succ (r : Recognizer ρ) (n : Nat) :
    r.afterCalls (n + 1) = (r.afterCalls n).recognize.2 := Function.iterate_succ_apply' ..

theorem seen_le (r : Recognizer ρ) (total n : Nat) : r.seen total n ≤ total := by
  cases n with
  | zero => exact Nat.zero_le _
  | succ n => exact Nat.min_le_left _ _

section Calls

variable {r : Recognizer ρ} {steps : List Step} (hr : r.scanner.cursor.steps = steps)

include hr

/-- What is still to come after `n` calls are the steps after those that were seen. -/
theorem steps_afterCalls (n : Nat) :
    (r.afterCalls n).scanner.cursor.steps = stepsAfter steps (r.seen steps.length n) := by
  induction n with
  | zero => exact hr.trans (stepsAfter_zero steps).symm
  | succ n ih =>
    obtain ⟨-, -, -, -, hscanner⟩ := (r.afterCalls n).scanned_spec
    rw [afterCalls_succ, hscanner, cursor_iterate_advance, Cursor.steps_iterate_next, ih,
      stepsAfter_add, seen, stepsAfter_min]

/-- As long as there are tokens left, a call scans some of them and no others. -/
theorem seen_succ_of_lt {n : Nat} (h : r.seen steps.length n < steps.length) :
    r.seen steps.length (n + 1) = r.seen steps.length n + (r.afterCalls n).scanned.length := by
  obtain ⟨-, hle, -⟩ := (r.afterCalls n).scanned_spec
  rw [steps_afterCalls hr, stepsAfter_of_lt h, List.length_drop] at hle
  rw [seen]
  omega

theorem seen_lt_seen_succ {n : Nat} (h : r.seen steps.length n < steps.length) :
    r.seen steps.length n < r.seen steps.length (n + 1) := by
  have hpos := (r.afterCalls n).scanned_spec.1
  have hsucc := seen_succ_of_lt hr h
  omega

/-- After as many calls as there are tokens, all of them were seen. -/
theorem seen_eq_length {n : Nat} (h : steps.length ≤ n) : r.seen steps.length n = steps.length := by
  have hprogress : ∀ n, min n steps.length ≤ r.seen steps.length n := by
    intro n
    induction n with
    | zero => exact Nat.min_le_left _ _
    | succ n ih =>
      by_cases hlt : r.seen steps.length n < steps.length
      · have := seen_lt_seen_succ hr hlt
        omega
      · rw [seen]
        omega
  have hle := r.seen_le steps.length n
  have hge := hprogress n
  omega

/-- The lookahead is the last of the tokens that were seen. -/
theorem lookahead_afterCalls (n : Nat) :
    (steps[r.seen steps.length (n + 1) - 1]?).map Step.token =
      some (r.afterCalls (n + 1)).lookahead := by
  obtain ⟨hpos, hle, hscanned, hlast, -⟩ := (r.afterCalls n).scanned_spec
  rw [steps_afterCalls hr] at hle hscanned
  rw [hscanned, List.getLast?_map, List.getLast?_take, if_neg hpos.ne', ← afterCalls_succ] at hlast
  have hget := List.getElem?_eq_getElem (l := stepsAfter steps (r.seen steps.length n))
    (i := (r.afterCalls n).scanned.length - 1) (by omega)
  rw [hget, Option.some_or, ← hget] at hlast
  rw [seen, ← token_stepsAfter hpos hle, hlast]

/-- The lookahead is the end of input when all tokens were seen, and not before. -/
theorem lookahead_eof_iff (n : Nat) :
    (r.afterCalls (n + 1)).lookahead.kind = .eof ↔
      r.seen steps.length (n + 1) = steps.length := by
  obtain ⟨step, hstep, htoken⟩ := Option.map_eq_some_iff.1 (lookahead_afterCalls hr n)
  have hpos : 0 < r.seen steps.length (n + 1) := by
    have hlength : 0 < steps.length := hr ▸ r.scanner.cursor.length_steps_pos
    have hscanned := (r.afterCalls n).scanned_spec.1
    rw [seen]
    omega
  rw [← hr] at hstep hpos ⊢
  rw [← htoken, r.scanner.cursor.kind_getElem?_steps hstep, Nat.sub_add_cancel hpos]

/-- Where all tokens were seen, nothing more happens. -/
theorem recognize_afterCalls {n : Nat} (h : r.seen steps.length n = steps.length) :
    (r.afterCalls n).recognize = (.accepted, r.afterCalls n) := by
  cases n with
  | zero =>
    have hlength : 0 < steps.length := hr ▸ r.scanner.cursor.length_steps_pos
    exact absurd h hlength.ne
  | succ n =>
    have heof := (lookahead_eof_iff hr n).2 h
    rw [afterCalls_succ] at heof ⊢
    exact recognize_of_atEnd (atEnd_recognize heof) heof

end Calls

end Recognizer

variable {ρ : Type} [Reporter ρ]

/-- **Every call resumes after the lookahead of the one before.** `seen n` tokens were scanned by
the first `n` calls, the lookahead of the last of them included. -/
theorem recognitions_resume (source : String) (reporter : ρ) :
    let steps := (Recording.ofText source).steps
    let r := Recognizer.ofText source reporter
    let seen := r.seen steps.length
    steps.map Step.token = (tokenize source).1 ∧
    (∀ n, (r.afterCalls n).CallsOn (stepsAfter steps (seen n)) ∧
      (steps[seen (n + 1) - 1]?).map Step.token = some (r.afterCalls (n + 1)).lookahead ∧
      ((r.afterCalls (n + 1)).lookahead.kind = .eof ↔ seen (n + 1) = steps.length) ∧
      (seen n < steps.length → seen n < seen (n + 1)) ∧
      (seen n = steps.length → (r.afterCalls n).recognize = (.accepted, r.afterCalls n))) ∧
    ∀ n, steps.length ≤ n → seen n = steps.length := by
  intro steps r seen
  have hr : r.scanner.cursor.steps = steps := rfl
  refine ⟨Recording.tokens_ofText source, ?_, fun n => Recognizer.seen_eq_length hr⟩
  intro n
  refine ⟨?_, Recognizer.lookahead_afterCalls hr n, Recognizer.lookahead_eof_iff hr n,
    Recognizer.seen_lt_seen_succ hr, Recognizer.recognize_afterCalls hr⟩
  rw [← Recognizer.steps_afterCalls hr]
  exact (r.afterCalls n).callsOn_steps

/-- A declaration without a name is rejected at its semicolon. The next call accepts what follows,
as a recogniser does that starts there, and the one after it stays at the end of input. -/
theorem recognitions_resume_declaration :
    let r := Recognizer.ofText "int ; int y;" ({} : Collected)
    let fresh := Recognizer.ofText "      int y;" ({} : Console)
    (r.afterCalls 1).reporter.diagnostics.length = 1 ∧
      (r.afterCalls 1).recognize.1 = fresh.recognize.1 ∧ fresh.recognize.1 = .accepted ∧
      (r.afterCalls 6).recognize = (.accepted, r.afterCalls 6) := by
  intro r fresh
  obtain ⟨-, hcalls, hend⟩ := recognitions_resume "int ; int y;" ({} : Collected)
  have hlength : (Recording.ofText "int ; int y;").steps.length = 6 := by cbv
  rw [hlength] at hcalls hend
  have htokens : fresh.scanner.scanAll.1 =
      (stepsAfter (Recording.ofText "int ; int y;").steps (r.seen 6 1)).map Step.token := by cbv
  refine ⟨by cbv, ((hcalls 1).1.verdict fresh htokens).1, by cbv, ?_⟩
  exact (hcalls 6).2.2.2.2 (hend 6 le_rfl)

end MiniC
