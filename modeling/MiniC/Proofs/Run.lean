import MiniC.Recognizer.Basic
import Mathlib

/-!
# Runs of the recogniser, step by step

A run is a sequence of shifts and expansions that ends on an empty stack or at a symbol that
refuses the lookahead (`run_cases`). The relation `Reaches` lists the tokens that were taken on
the way, so that what holds of a run is proved by induction over its steps.

**Tokens.** The tokens still to come are the lookahead and all that the scanner will hand out
(`pending`). A run takes a first part of them, in order and without gaps
(`Reaches.pending_eq`), and it looks at the scanner only through `advance`
(`Reaches.eq_iterate`).
-/

namespace MiniC

/-! ## All tokens of a scanner -/

theorem Scanner.scanAll_of_eof {s : Scanner} (h : s.scan.1.kind = .eof) :
    s.scanAll = ([s.scan.1], s.scan.2) := by
  rw [scanAll, dif_pos h]

theorem Scanner.scanAll_of_ne_eof {s : Scanner} (h : s.scan.1.kind ≠ .eof) :
    s.scanAll = (s.scan.1 :: s.scan.2.scanAll.1, s.scan.2.scanAll.2) := by
  rw [scanAll, dif_neg h]

theorem Scanner.scanAll_ne_nil (s : Scanner) : s.scanAll.1 ≠ [] := by
  by_cases h : s.scan.1.kind = .eof
  · simp [scanAll_of_eof h]
  · simp [scanAll_of_ne_eof h]

namespace Recognizer

variable {ρ : Type}

/-! ## Tokens to come -/

/-- The lookahead and the tokens after it, through the end of input. -/
def pending (r : Recognizer ρ) : List Token :=
  if r.lookahead.kind = .eof then [r.lookahead] else r.lookahead :: r.scanner.scanAll.1

theorem pending_of_eof {r : Recognizer ρ} (h : r.lookahead.kind = .eof) :
    r.pending = [r.lookahead] := if_pos h

theorem pending_advance (r : Recognizer ρ) : r.advance.pending = r.scanner.scanAll.1 := by
  by_cases h : r.scanner.scan.1.kind = .eof
  · rw [pending_of_eof h, Scanner.scanAll_of_eof h]
    rfl
  · rw [Scanner.scanAll_of_ne_eof h]
    exact if_neg h

theorem pending_eq_cons {r : Recognizer ρ} (h : r.lookahead.kind ≠ .eof) :
    r.pending = r.lookahead :: r.advance.pending := by
  rw [pending_advance]
  exact if_neg h

theorem head?_pending (r : Recognizer ρ) : r.pending.head? = some r.lookahead := by
  unfold pending
  split <;> rfl

theorem lookahead_of_pending {r : Recognizer ρ} {t : Token} {ts : List Token}
    (h : r.pending = t :: ts) : r.lookahead = t := by
  have hhead := r.head?_pending
  rw [h] at hhead
  exact (Option.some.inj hhead).symm

theorem pending_advance_of_pending {r : Recognizer ρ} {t : Token} {ts : List Token}
    (h : r.pending = t :: ts) (ht : t.kind ≠ .eof) : r.advance.pending = ts := by
  rw [← lookahead_of_pending h] at ht
  rw [pending_eq_cons ht] at h
  exact (List.cons.inj h).2

/-- The kinds of the tokens to come, without the end of input. -/
def kinds (r : Recognizer ρ) : List Kind := (r.pending.map Token.kind).dropLast

theorem kinds_of_eof {r : Recognizer ρ} (h : r.lookahead.kind = .eof) : r.kinds = [] := by
  simp [kinds, pending_of_eof h]

theorem kinds_eq_cons {r : Recognizer ρ} (h : r.lookahead.kind ≠ .eof) :
    r.kinds = r.lookahead.kind :: r.advance.kinds := by
  have hne : r.advance.pending ≠ [] := by
    rw [pending_advance]
    exact r.scanner.scanAll_ne_nil
  simp [kinds, pending_eq_cons h, List.dropLast_cons_of_ne_nil, hne]

theorem headD_kinds (r : Recognizer ρ) : r.kinds.headD .eof = r.lookahead.kind := by
  by_cases h : r.lookahead.kind = .eof
  · rw [kinds_of_eof h, h]
    rfl
  · rw [kinds_eq_cons h]
    rfl

/-! ## Steps -/

/-- From `r` with one stack, taking the given tokens, to another recogniser and stack. -/
inductive Reaches : Recognizer ρ → List Symbol → List Token → Recognizer ρ → List Symbol → Prop
  | refl (r : Recognizer ρ) (s : List Symbol) : Reaches r s [] r s
  | shift {r r' : Recognizer ρ} {x : Symbol} {rest s s' : List Symbol} {ts : List Token} :
      predict x r.lookahead.kind = .shift rest → Reaches r.advance (rest ++ s) ts r' s' →
      Reaches r (x :: s) (r.lookahead :: ts) r' s'
  | expand {r r' : Recognizer ρ} {x : Symbol} {rest s s' : List Symbol} {ts : List Token} :
      predict x r.lookahead.kind = .expand rest → Reaches r (rest ++ s) ts r' s' →
      Reaches r (x :: s) ts r' s'

/-! ## One step of a run -/

section Steps

variable [Reporter ρ] {r r' : Recognizer ρ} {x : Symbol} {rest s s' : List Symbol}

theorem run_nil (r : Recognizer ρ) : r.run [] = (.accepted, r) := by rw [run]

theorem run_of_shift (s : List Symbol) (h : predict x r.lookahead.kind = .shift rest) :
    r.run (x :: s) = r.advance.run (rest ++ s) := by
  rw [run]
  split <;> simp_all

theorem run_of_expand (s : List Symbol) (h : predict x r.lookahead.kind = .expand rest) :
    r.run (x :: s) = r.run (rest ++ s) := by
  rw [run]
  split <;> simp_all

theorem run_of_fail {e : Expectation} (s : List Symbol)
    (h : predict x r.lookahead.kind = .fail e) : r.run (x :: s) = r.reject e := by
  rw [run]
  split <;> simp_all

/-- A run can be joined at any state that it reaches. -/
theorem Reaches.run_eq {ts : List Token} (h : Reaches r s ts r' s') : r.run s = r'.run s' := by
  induction h with
  | refl => rfl
  | shift hp _ ih => rw [run_of_shift _ hp, ih]
  | expand hp _ ih => rw [run_of_expand _ hp, ih]

end Steps

variable {r r' : Recognizer ρ} {s s' : List Symbol} {ts : List Token}

/-- **A run is its steps.** They lead to an empty stack and acceptance, or to a symbol that
refuses the lookahead and its report. -/
theorem run_cases [Reporter ρ] (r : Recognizer ρ) (s : List Symbol) :
    ∃ ts r' s', Reaches r s ts r' s' ∧
      ((s' = [] ∧ r.run s = (.accepted, r')) ∨
        ∃ x t e, s' = x :: t ∧ predict x r'.lookahead.kind = .fail e ∧ r.run s = r'.reject e) := by
  fun_induction run r s with
  | case1 r => exact ⟨[], r, [], .refl r [], .inl ⟨rfl, rfl⟩⟩
  | case2 r x s rest h ih =>
    obtain ⟨ts, r', s', hr, hend⟩ := ih
    exact ⟨_, r', s', .shift h hr, hend⟩
  | case3 r x s rest h ih =>
    obtain ⟨ts, r', s', hr, hend⟩ := ih
    exact ⟨ts, r', s', .expand h hr, hend⟩
  | case4 r x s e h => exact ⟨[], r, x :: s, .refl r _, .inr ⟨x, s, e, rfl, h, rfl⟩⟩

theorem Reaches.pending_eq (h : Reaches r s ts r' s') : r.pending = ts ++ r'.pending := by
  induction h with
  | refl => rfl
  | shift hp _ ih => rw [pending_eq_cons (ne_of_shift hp).1, ih, List.cons_append]
  | expand _ _ ih => exact ih

theorem Reaches.kinds_eq (h : Reaches r s ts r' s') :
    r.kinds = ts.map Token.kind ++ r'.kinds := by
  induction h with
  | refl => rfl
  | shift hp _ ih => rw [kinds_eq_cons (ne_of_shift hp).1, ih, List.map_cons, List.cons_append]
  | expand _ _ ih => exact ih

/-- Every token taken is one advance, and nothing else touches the recogniser. -/
theorem Reaches.eq_iterate (h : Reaches r s ts r' s') : r' = advance^[ts.length] r := by
  induction h with
  | refl => rfl
  | shift _ _ ih => rw [ih, List.length_cons, Function.iterate_succ_apply]
  | expand _ _ ih => exact ih

/-- The end of the program is only left at the end of input. -/
theorem Reaches.getLast?_eq (h : Reaches r s ts r' s') (hs : s.getLast? = some .finish) :
    s'.getLast? = some .finish ∨ (s' = [] ∧ r'.lookahead.kind = .eof) := by
  induction h with
  | refl => exact .inl hs
  | @shift r r' x rest s s' ts hp _ ih =>
    cases s with
    | nil =>
      obtain rfl : x = .finish := by simpa using hs
      have hne : predict .finish r.lookahead.kind ≠ .shift rest := by
        simp only [predict]
        split <;> simp [Move.skip]
      exact absurd hp hne
    | cons y s => exact ih (by simpa using hs)
  | @expand r r' x rest s s' ts hp hr ih =>
    cases s with
    | nil =>
      obtain rfl : x = .finish := by simpa using hs
      simp only [predict] at hp
      split at hp
      · next hk =>
        cases hp
        cases hr
        exact .inr ⟨rfl, hk⟩
      · cases hp
    | cons y s => exact ih (by simpa using hs)

end Recognizer

end MiniC
