import MiniC.Recognizer.Procedure
import MiniC.Proofs.Run

/-!
# What the procedures take

The procedures of the recogniser could go on for ever: a loop whose body takes nothing goes round
at the same lookahead, and so do procedures that call each other in a circle. Neither happens.

**Tokens first.** Some instructions cannot be completed without taking a token (`consumes`). A run
that takes nothing keeps such an instruction among those still to be done
(`Performs.consumes_of_nil`), so it never completes a procedure that consumes, nor the body of a
loop (`Performs.ne_nil_of_consumes`).

**Calls.** Before anything is taken, a procedure calls only procedures of smaller rank
(`rank_lt_of_mem_early`). A run that takes nothing keeps to them (`Performs.below_of_nil`), so a
procedure that calls itself, directly or through others, has taken a token
(`Performs.ne_nil_of_call`).
-/

namespace MiniC

/-! ## Runs of instructions -/

namespace Recognizer

variable {ρ : Type}

/-- From `r` with some instructions, taking the given tokens, to another recogniser with those
that are still to be done. -/
inductive Performs :
    Recognizer ρ → List Instruction → List Token → Recognizer ρ → List Instruction → Prop
  | refl (r : Recognizer ρ) (s : List Instruction) : Performs r s [] r s
  | take {r r' : Recognizer ρ} {c : Instruction} {s s' : List Instruction} {ts : List Token} :
      c.act r.lookahead.kind = .takes → Performs r.advance s ts r' s' →
      Performs r (c :: s) (r.lookahead :: ts) r' s'
  | go {r r' : Recognizer ρ} {c : Instruction} {code s s' : List Instruction} {ts : List Token} :
      c.act r.lookahead.kind = .goes code → Performs r (code ++ s) ts r' s' →
      Performs r (c :: s) ts r' s'

variable {r r' r'' : Recognizer ρ} {s s' s'' : List Instruction} {ts ts' : List Token}

theorem Performs.trans (h : Performs r s ts r' s') (h' : Performs r' s' ts' r'' s'') :
    Performs r s (ts ++ ts') r'' s'' := by
  induction h with
  | refl => exact h'
  | take hc _ ih => exact .take hc (ih h')
  | go hc _ ih => exact .go hc (ih h')

/-- Every token taken is one advance. -/
theorem Performs.eq_iterate (h : Performs r s ts r' s') : r' = advance^[ts.length] r := by
  induction h with
  | refl => rfl
  | take _ _ ih => rw [ih, List.length_cons, Function.iterate_succ_apply]
  | go _ _ ih => exact ih

/-- **There is one way to go on.** Where a run cannot, every other run from the same start is a
first part of it. -/
theorem Performs.exists_rest (h : Performs r s ts r' s')
    (hend : ∀ c t, s' = c :: t → ∃ e, c.act r'.lookahead.kind = .fails e)
    (h' : Performs r s ts' r'' s'') : ∃ rest, ts = ts' ++ rest ∧ Performs r'' s'' rest r' s' := by
  induction h' generalizing ts with
  | refl r s => exact ⟨ts, rfl, h⟩
  | take hc _ ih =>
    cases h with
    | refl =>
      obtain ⟨e, he⟩ := hend _ _ rfl
      cases hc.symm.trans he
    | take _ h =>
      obtain ⟨rest, rfl, hrest⟩ := ih h
      exact ⟨rest, rfl, hrest⟩
    | go hc' _ => cases hc.symm.trans hc'
  | go hc _ ih =>
    cases h with
    | refl =>
      obtain ⟨e, he⟩ := hend _ _ rfl
      cases hc.symm.trans he
    | take hc' _ => cases hc.symm.trans hc'
    | go hc' h =>
      cases hc.symm.trans hc'
      exact ih h

end Recognizer

open Instruction

/-! ## Tokens first -/

/-- The procedures that cannot be completed without taking a token. -/
def Procedure.consumes : Procedure → Bool
  | program | arraySize | forAssignment | operandRun => false
  | _ => true

mutual

/-- Whether an instruction cannot be completed without taking a token. One that fails is never
completed at all. -/
def Instruction.consumes : Instruction → Bool
  | advance | accept _ | fail _ => true
  | call p => p.consumes
  | choice _ yes no => consumesAny yes && consumesAny no
  | loop _ _ => false

/-- Whether some instruction consumes. -/
def consumesAny : List Instruction → Bool
  | [] => false
  | c :: s => c.consumes || consumesAny s

end

theorem consumesAny_append (s t : List Instruction) :
    consumesAny (s ++ t) = (consumesAny s || consumesAny t) := by
  induction s with
  | nil => rfl
  | cons c s ih => rw [List.cons_append, consumesAny, ih, consumesAny, Bool.or_assoc]

theorem consumesAny_body (p : Procedure) : consumesAny p.body = p.consumes := by
  cases p <;> rfl

/-- An instruction that consumes is replaced by some that do. -/
theorem consumesAny_of_goes {c : Instruction} {k : Kind} {code : List Instruction}
    (h : c.act k = .goes code) (hc : c.consumes) : consumesAny code := by
  cases c with
  | advance => cases h
  | fail e => cases h
  | accept want =>
    simp only [act] at h
    split at h <;> cases h
  | call p =>
    cases h
    exact (consumesAny_body p).trans hc
  | choice test yes no =>
    cases h
    obtain ⟨hyes, hno⟩ := (Bool.and_eq_true _ _).mp hc
    split
    · exact hyes
    · exact hno
  | loop test body => cases hc

namespace Recognizer

variable {ρ : Type} {r r' : Recognizer ρ} {s s' : List Instruction} {ts : List Token}

/-- As long as nothing is taken, what has to take a token is still to be done. -/
theorem Performs.consumes_of_nil (h : Performs r s [] r' s') (hs : consumesAny s) :
    consumesAny s' := by
  generalize hts : ([] : List Token) = ts at h
  induction h with
  | refl => exact hs
  | take => cases hts
  | @go r r' c code s s' ts hc _ ih =>
    refine ih ?_ hts
    rw [consumesAny_append]
    rw [consumesAny] at hs
    rcases (Bool.or_eq_true _ _).mp hs with hs | hs
    · rw [consumesAny_of_goes hc hs, Bool.true_or]
    · rw [hs, Bool.or_true]

theorem Performs.ne_nil_of_consumes (h : Performs r s ts r' []) (hs : consumesAny s) :
    ts ≠ [] := by
  rintro rfl
  exact Bool.false_ne_true (h.consumes_of_nil hs)

end Recognizer

/-! ## Loops -/

mutual

/-- The bodies of the loops in an instruction. -/
def Instruction.loops : Instruction → List (List Instruction)
  | choice _ yes no => loopsIn yes ++ loopsIn no
  | loop _ body => body :: loopsIn body
  | _ => []

/-- The bodies of all loops. -/
def loopsIn : List Instruction → List (List Instruction)
  | [] => []
  | c :: s => c.loops ++ loopsIn s

end

/-- Every loop of a procedure has a body that consumes. -/
theorem consumesAny_of_mem_loopsIn {p : Procedure} {body : List Instruction}
    (h : body ∈ loopsIn p.body) : consumesAny body := by
  have hall : ((loopsIn p.body).all consumesAny) = true := by cases p <;> rfl
  exact List.all_eq_true.1 hall body h

/-! ## Calls -/

mutual

/-- The procedures that an instruction can call before it has taken anything. -/
def Instruction.early : Instruction → List Procedure
  | call p => [p]
  | choice _ yes no => earlyIn yes ++ earlyIn no
  | loop _ body => earlyIn body
  | _ => []

/-- The procedures that can be called before anything is taken. -/
def earlyIn : List Instruction → List Procedure
  | [] => []
  | c :: s => c.early ++ if c.consumes then [] else earlyIn s

end

/-- How deep a procedure can call others before anything is taken. -/
def Procedure.rank : Procedure → Nat
  | paramsList | varPart | initDecl | stmt | unary => 1
  | expr => 2
  | initializer => 3
  | _ => 0

/-- Before it has taken anything, a procedure calls only those of smaller rank. -/
theorem rank_lt_of_mem_early {p q : Procedure} (h : q ∈ earlyIn p.body) : q.rank < p.rank := by
  have hall : ((earlyIn p.body).all (·.rank < p.rank)) = true := by cases p <;> rfl
  exact of_decide_eq_true (List.all_eq_true.1 hall q h)

theorem mem_earlyIn_cons {q : Procedure} {c : Instruction} {s : List Instruction} :
    q ∈ earlyIn (c :: s) ↔ q ∈ c.early ∨ (c.consumes = false ∧ q ∈ earlyIn s) := by
  rw [earlyIn, List.mem_append]
  cases hc : c.consumes <;> simp

theorem mem_earlyIn_append {q : Procedure} {s t : List Instruction} (h : q ∈ earlyIn (s ++ t)) :
    q ∈ earlyIn s ∨ (consumesAny s = false ∧ q ∈ earlyIn t) := by
  induction s with
  | nil => exact .inr ⟨rfl, h⟩
  | cons c s ih =>
    rw [List.cons_append, mem_earlyIn_cons] at h
    rw [mem_earlyIn_cons, consumesAny, Bool.or_eq_false_iff]
    rcases h with h | ⟨hc, h⟩
    · exact .inl (.inl h)
    · exact (ih h).imp (fun h => .inr ⟨hc, h⟩) fun ⟨hs, h⟩ => ⟨⟨hc, hs⟩, h⟩

/-- What can be called after an instruction was replaced could be called before, or is called by
what could. -/
theorem mem_earlyIn_of_goes {c : Instruction} {k : Kind} {code s : List Instruction}
    {q : Procedure} (h : c.act k = .goes code) (hq : q ∈ earlyIn (code ++ s)) :
    q ∈ earlyIn (c :: s) ∨ ∃ p ∈ earlyIn (c :: s), q ∈ earlyIn p.body := by
  cases c with
  | advance => cases h
  | fail e => cases h
  | accept want =>
    simp only [act] at h
    split at h <;> cases h
  | call p =>
    cases h
    rcases mem_earlyIn_append hq with hq | ⟨hp, hq⟩
    · exact .inr ⟨p, mem_earlyIn_cons.2 (.inl List.mem_cons_self), hq⟩
    · exact .inl (mem_earlyIn_cons.2 (.inr ⟨(consumesAny_body p).symm.trans hp, hq⟩))
  | choice test yes no =>
    cases h
    left
    rw [mem_earlyIn_cons, early, consumes, List.mem_append, Bool.and_eq_false_iff]
    rcases mem_earlyIn_append hq with hq | ⟨hcode, hq⟩
    · left
      split at hq
      · exact .inl hq
      · exact .inr hq
    · refine .inr ⟨?_, hq⟩
      split at hcode
      · exact .inl hcode
      · exact .inr hcode
  | loop test body =>
    cases h
    left
    split at hq
    · rw [List.append_assoc, List.singleton_append] at hq
      rcases mem_earlyIn_append hq with hq | ⟨-, hq⟩
      · exact mem_earlyIn_cons.2 (.inl hq)
      · exact hq
    · exact mem_earlyIn_cons.2 (.inr ⟨rfl, hq⟩)

namespace Recognizer

variable {ρ : Type} {r r' : Recognizer ρ} {s s' : List Instruction} {ts : List Token}

/-- As long as nothing is taken, only procedures of small rank are called. -/
theorem Performs.below_of_nil {n : Nat} (h : Performs r s [] r' s')
    (hs : ∀ q ∈ earlyIn s, q.rank < n) : ∀ q ∈ earlyIn s', q.rank < n := by
  generalize hts : ([] : List Token) = ts at h
  induction h with
  | refl => exact hs
  | take => cases hts
  | go hc _ ih =>
    refine ih ?_ hts
    intro q hq
    rcases mem_earlyIn_of_goes hc hq with hq | ⟨p, hp, hq⟩
    · exact hs q hq
    · exact (rank_lt_of_mem_early hq).trans (hs p hp)

/-- **No circle of calls without a token.** What leads from the body of a procedure to another
call of it takes a token. -/
theorem Performs.ne_nil_of_call {p : Procedure} (h : Performs r p.body ts r' (.call p :: s)) :
    ts ≠ [] := by
  rintro rfl
  have hlt := h.below_of_nil (fun q hq => rank_lt_of_mem_early hq) p
    (mem_earlyIn_cons.2 (.inl List.mem_cons_self))
  exact hlt.false

end Recognizer

end MiniC
