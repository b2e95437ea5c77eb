import MiniC.Proofs.Residual
import MiniC.Proofs.Run

/-!
# The recogniser decides the grammar

Along a run the stack stands for exactly what the grammar still allows: the tokens taken so far,
followed by a sequence that begins with the lookahead, are in the language of the first stack if
and only if that sequence is in the language of the present one (`Reaches.mem_iff`).

**Theorem (`recognize_accepted_iff`).** A source is accepted if and only if the kinds of its
tokens are a program of the grammar.

**Theorem (`rejected_at_first_defect`).** A source is rejected at the first token that no program
can have in its place: the tokens before it begin some program, and with it they begin none.

The first theorem needs the invariant in both directions at the end of the run only. The second
also needs that a stack never stands for nothing at all (`exists_mem_lang_stackForm`), so that
what was taken can always be completed.
-/

namespace MiniC

open Grammar Grammar.Form

variable {ρ : Type}

/-! ## Every stack can be completed -/

theorem exists_mem_lang_stackForm {s : List Symbol} (h : ∀ x ∈ s, ∃ w, w ∈ x.form.lang) :
    ∃ w, w ∈ (stackForm s).lang := by
  induction s with
  | nil => exact ⟨[], nil_mem_lang_iff.2 rfl⟩
  | cons x s ih =>
    rw [List.forall_mem_cons] at h
    obtain ⟨u, hu⟩ := h.1
    obtain ⟨v, hv⟩ := ih h.2
    exact ⟨u ++ v, lang_stackForm_cons x s ▸ Language.append_mem_mul hu hv⟩

/-- Tokens, and the symbols that may stand for nothing. -/
def Symbol.isSimple : Symbol → Bool
  | token _ => true
  | x => x.form.nullable

theorem exists_mem_lang_of_isSimple {x : Symbol} (h : x.isSimple) : ∃ w, w ∈ x.form.lang := by
  cases x with
  | token k => exact ⟨[k], .token k⟩
  | _ => exact ⟨[], nil_mem_lang_iff.2 h⟩

theorem exists_mem_lang_of_shift {x : Symbol} (k : Kind) {rest : List Symbol} (hx : x.isProper)
    (h : predict x k = .shift rest) (hr : ∀ y ∈ rest, ∃ w, w ∈ y.form.lang) :
    ∃ w, w ∈ x.form.lang := by
  have hxk : (Move.shift rest).Agrees x.form k := h ▸ agrees_predict hx k
  obtain ⟨w, hw⟩ := exists_mem_lang_stackForm hr
  exact ⟨k :: w, (hxk w).2 hw⟩

theorem exists_mem_lang_of_simple {x : Symbol} (k : Kind) {rest : List Symbol} (hx : x.isProper)
    (h : predict x k = .shift rest) (hr : ∀ y ∈ rest, y.isSimple) : ∃ w, w ∈ x.form.lang :=
  exists_mem_lang_of_shift k hx h fun y hy => exists_mem_lang_of_isSimple (hr y hy)

theorem exists_mem_lang_block : ∃ w, w ∈ (Symbol.form .block).lang :=
  exists_mem_lang_of_simple .leftBrace rfl rfl (by decide)

/-- Every symbol stands for something. -/
theorem exists_mem_lang (x : Symbol) : ∃ w, w ∈ x.form.lang := by
  cases x with
  | definitionTail =>
    refine exists_mem_lang_of_shift .leftParen rfl rfl ?_
    simp only [List.forall_mem_cons]
    exact ⟨exists_mem_lang_of_isSimple rfl, exists_mem_lang_of_isSimple rfl,
      exists_mem_lang_block, nofun⟩
  | param => exact exists_mem_lang_of_simple .int rfl rfl (by decide)
  | block => exact exists_mem_lang_block
  | statement => exact exists_mem_lang_of_simple .kwReturn rfl rfl (by decide)
  | nameTail => exact exists_mem_lang_of_simple .leftParen rfl rfl (by decide)
  | initializer => exact exists_mem_lang_of_simple .identifier rfl rfl (by decide)
  | expr => exact exists_mem_lang_of_simple .identifier rfl rfl (by decide)
  | unary => exact exists_mem_lang_of_simple .identifier rfl rfl (by decide)
  | _ => exact exists_mem_lang_of_isSimple rfl

/-! ## The language along a run -/

namespace Recognizer

variable {r r' : Recognizer ρ} {s s' : List Symbol} {ts : List Token} {w : List Kind}

theorem Reaches.headD_eq (h : Reaches r s ts r' s') (hw : w.headD .eof = r'.lookahead.kind) :
    (ts.map Token.kind ++ w).headD .eof = r.lookahead.kind := by
  induction h with
  | refl => exact hw
  | shift => rfl
  | expand _ _ ih => exact ih hw

/-- What the present stack stands for completes the tokens taken. -/
theorem Reaches.mem (h : Reaches r s ts r' s') {after : Kind → Bool} (hs : fits after s)
    (hw : w ∈ (stackForm s').lang) : ts.map Token.kind ++ w ∈ (stackForm s).lang := by
  induction h with
  | refl => exact hw
  | shift hp _ ih => exact mem_of_shift (fits_cons_iff.1 hs).1 hp (ih (fits_of_shift hs hp) hw)
  | expand hp _ ih => exact mem_of_expand (fits_cons_iff.1 hs).1 hp (ih (fits_of_expand hs hp) hw)

/-- **The stack is exact.** What can complete the tokens taken, from the lookahead on, is what
the present stack stands for. -/
theorem Reaches.mem_iff (h : Reaches r s ts r' s') {after : Kind → Bool} (hs : fits after s)
    (hw : w.headD .eof = r'.lookahead.kind) :
    ts.map Token.kind ++ w ∈ (stackForm s).lang ↔ w ∈ (stackForm s').lang := by
  induction h with
  | refl => rfl
  | shift hp _ ih =>
    rw [List.map_cons, List.cons_append, shift_iff hs hp]
    exact ih (fits_of_shift hs hp) hw
  | expand hp hr ih =>
    rw [expand_iff hs hp (hr.headD_eq hw)]
    exact ih (fits_of_expand hs hp) hw

theorem Reaches.fits (h : Reaches r s ts r' s') {after : Kind → Bool} (hs : fits after s) :
    fits after s' := by
  induction h with
  | refl => exact hs
  | shift hp _ ih => exact ih (fits_of_shift hs hp)
  | expand hp _ ih => exact ih (fits_of_expand hs hp)

/-- **Failure is exact.** Where a run fails, nothing from the lookahead on can complete the
tokens taken. -/
theorem Reaches.notMem_of_fail {x : Symbol} {t : List Symbol} {e : Expectation}
    (h : Reaches r s ts r' (x :: t)) (hp : predict x r'.lookahead.kind = .fail e)
    {after : Kind → Bool} (hs : MiniC.fits after s) (hw : w.headD .eof = r'.lookahead.kind) :
    ts.map Token.kind ++ w ∉ (stackForm s).lang := by
  rw [h.mem_iff hs hw]
  exact MiniC.notMem_of_fail (h.fits hs) hp hw

theorem Reaches.exists_mem (h : Reaches r s ts r' s') {after : Kind → Bool}
    (hs : MiniC.fits after s) : ∃ w, ts.map Token.kind ++ w ∈ (stackForm s).lang := by
  obtain ⟨w, hw⟩ := exists_mem_lang_stackForm (s := s') fun x _ => exists_mem_lang x
  exact ⟨w, h.mem hs hw⟩

theorem Reaches.reporter_eq (h : Reaches r s ts r' s') : r'.reporter = r.reporter := by
  induction h with
  | refl => rfl
  | shift _ _ ih => exact ih
  | expand _ _ ih => exact ih

theorem span_report (e : Expectation) (t : Token) : (e.report t).span = t.span := by
  cases e <;> rfl

variable [Reporter ρ]

/-- A run accepts exactly when the tokens to come are in the language of the stack. -/
theorem run_accepted_iff {after : Kind → Bool} (hs : MiniC.fits after s)
    (hlast : s.getLast? = some .finish) :
    (r.run s).1 = .accepted ↔ r.kinds ∈ (stackForm s).lang := by
  obtain ⟨ts, r', s', hr, ⟨rfl, hrun⟩ | ⟨x, t, e, rfl, hp, hrun⟩⟩ := run_cases r s
  · have hk : r'.lookahead.kind = .eof := by simpa using hr.getLast?_eq hlast
    have hmem := hr.mem hs (w := []) (nil_mem_lang_iff.2 rfl)
    rw [hr.kinds_eq, kinds_of_eof hk, hrun]
    exact iff_of_true rfl hmem
  · rw [hr.kinds_eq, hrun]
    exact iff_of_false nofun (hr.notMem_of_fail hp hs r'.headD_kinds)

/-- A rejecting run stops at the lookahead its diagnostic points at. -/
theorem run_rejected {r₁ : Recognizer ρ} {d : Diagnostic} (h : r.run s = (.rejected d, r₁)) :
    ∃ ts x t e, Reaches r s ts { r₁ with reporter := r.reporter } (x :: t) ∧
      predict x r₁.lookahead.kind = .fail e ∧ d.span = r₁.lookahead.span := by
  obtain ⟨ts, r', s', hr, ⟨rfl, hrun⟩ | ⟨x, t, e, rfl, hp, hrun⟩⟩ := run_cases r s
  · cases hrun.symm.trans h
  · cases hrun.symm.trans h
    have hrep : r'.reporter = r.reporter := hr.reporter_eq
    refine ⟨ts, x, t, e, ?_, hp, span_report e r'.lookahead⟩
    rw [← hrep]
    exact hr

end Recognizer

/-! ## Programs -/

theorem lang_program_stack : (stackForm [.definitions, .finish]).lang = {w | Sentence w} := by
  simp only [lang_stackForm_cons, lang_stackForm_nil, Symbol.form, lang_nothing, mul_one]
  rfl

theorem fits_program_stack : fits (fun _ => false) [.definitions, .finish] := rfl

theorem pending_ofText (source : String) (reporter : ρ) :
    (Recognizer.ofText source reporter).advance.pending = (tokenize source).1 :=
  Recognizer.pending_advance _

variable [Reporter ρ]

/-- **Exact language.** The recogniser accepts a source if and only if the kinds of its tokens,
without the end of input, are a program of the grammar. -/
theorem recognize_accepted_iff (source : String) (reporter : ρ) :
    (Recognizer.ofText source reporter).recognize.1 = .accepted ↔
      Sentence ((tokenize source).1.map Token.kind).dropLast := by
  rw [Recognizer.recognize, Recognizer.run_accepted_iff fits_program_stack rfl,
    lang_program_stack, Recognizer.kinds, pending_ofText]
  rfl

/-- **The first defect, exactly located.** A rejected source has a token `i`, the lookahead of
the recogniser after `i + 1` scans, where its diagnostic points. The kinds before it begin some
program. Together with it they are no part of the beginning of a program and its end of input;
at the end of input, the kinds before it are not a program. -/
theorem rejected_at_first_defect (source : String) (reporter : ρ) {d : Diagnostic}
    {r : Recognizer ρ}
    (h : (Recognizer.ofText source reporter).recognize = (.rejected d, r)) :
    ∃ i, (tokenize source).1[i]? = some r.lookahead ∧
      r.scanner = (Recognizer.advance^[i + 1] (Recognizer.ofText source reporter)).scanner ∧
      d.span = r.lookahead.span ∧
      Viable (((tokenize source).1.take i).map Token.kind) ∧
      (∀ w, Sentence w → ¬ ((tokenize source).1.take (i + 1)).map Token.kind <+: w ++ [.eof]) ∧
      (r.lookahead.kind = .eof → ¬ Sentence (((tokenize source).1.take i).map Token.kind)) := by
  obtain ⟨ts, x, t, e, hr, hp, hspan⟩ := Recognizer.run_rejected h
  have htokens : (tokenize source).1 = ts ++ { r with reporter := reporter }.pending := by
    rw [← pending_ofText source reporter]
    exact hr.pending_eq
  have hget : (tokenize source).1[ts.length]? = some r.lookahead := by
    rw [htokens, List.getElem?_append_right le_rfl, Nat.sub_self, ← List.head?_eq_getElem?]
    exact Recognizer.head?_pending _
  have htake : (tokenize source).1.take ts.length = ts := by
    rw [htokens, List.take_left]
  have hdefect {w : List Kind} (hw : w.headD .eof = r.lookahead.kind) :
      ¬ Sentence (ts.map Token.kind ++ w) := by
    have := hr.notMem_of_fail hp fits_program_stack hw
    rwa [lang_program_stack] at this
  refine ⟨ts.length, hget, ?_, hspan, ?_, ?_, ?_⟩
  · rw [Function.iterate_succ_apply, ← hr.eq_iterate]
  · obtain ⟨w, hw⟩ := hr.exists_mem fits_program_stack
    rw [lang_program_stack] at hw
    exact htake.symm ▸ ⟨w, hw⟩
  · rintro w hw ⟨v, hv⟩
    rw [List.take_add_one, htake, hget, Option.toList_some, List.map_append,
      List.append_assoc] at hv
    cases v using List.reverseRecOn with
    | nil =>
      -- The whole of `w` was read, and the lookahead is the end of input.
      obtain ⟨rfl, hk⟩ := List.append_inj' hv rfl
      refine hdefect (w := []) ?_ (by simpa using hw)
      exact (List.cons.inj hk).1.symm
    | append_singleton v k =>
      have hv' : (ts.map Token.kind ++ r.lookahead.kind :: v) ++ [k] = w ++ [.eof] := by
        simpa using hv
      obtain ⟨rfl, -⟩ := List.append_inj' hv' rfl
      exact hdefect rfl hw
  · intro hk
    rw [htake]
    simpa using hdefect (w := []) hk.symm

/-- The defect of a comparison without its right-hand side is the token after the operator, not
the comma that no definition could begin with. -/
theorem rejected_at_missing_operand :
    let source := "int a = 1 < ; ,"
    let d : Diagnostic := ⟨"expression expected here, found \";\"", ⟨⟨1, 13⟩, ⟨1, 14⟩⟩⟩
    (Recognizer.ofText source ({} : Collected)).recognize.1 = .rejected d ∧
      ∃ i t, (tokenize source).1[i]? = some t ∧ d.span = t.span ∧
        Viable (((tokenize source).1.take i).map Token.kind) := by
  intro source d
  have h : (Recognizer.ofText source ({} : Collected)).recognize.1 = .rejected d := by cbv
  obtain ⟨i, hi, -, hspan, hv, -⟩ :=
    rejected_at_first_defect source ({} : Collected) (Prod.ext h rfl)
  exact ⟨h, i, _, hi, hspan, hv⟩

end MiniC
