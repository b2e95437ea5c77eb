import MiniC.Proofs.Prediction

/-!
# A stack is what is left of the grammar

The stack of the recogniser stands for a set of sequences: what the rest of the program may be.
This file shows that a move changes that set exactly as the lookahead demands.

**Theorem (`shift_iff`, `expand_iff`, `notMem_of_fail`).** On a stack that fits, a shift of `k`
leads to the sequences that may come after `k`, an expansion loses no sequence that begins with
the lookahead, and a failure means that there is no such sequence.

**Ambiguity.** A symbol that may stand for nothing gives up the lookahead to a symbol below it
only if it cannot begin with it. Where both can, greed decides for the upper one, and that is
only safe because the lower one is then the same symbol again (`eq_of_first`): what `elses` or
`operands` could have taken further down, it can also take here (`mem_of_greedy`).

**Fitting.** Which symbols can stand below which is kept as a set of kinds for each symbol, those
that may come after it (`Symbol.follow`). A stack fits when everything that can begin what stands
below a symbol may come after it; every move keeps that (`fits_append`, `fits_predict`).
-/

namespace MiniC

open Grammar Grammar.Form Move

/-! ## What may come after a symbol -/

/-- The kinds that end an expression. -/
def Kind.closesExpr : Kind → Bool
  | rightParen | rightBracket | rightBrace | comma | semicolon => true
  | _ => false

/-- The kinds that can come after a symbol. After a token anything can. -/
def Symbol.follow (x : Symbol) (k : Kind) : Bool :=
  match x with
  | token _ => true
  | definitions | finish => false
  | definitionTail => k.isTypeSpecifier
  | optParams | moreParams | optArgs => k = .rightParen
  | param => k = .comma || k = .rightParen
  | optArraySize => k = .assign || k = .comma || k = .semicolon || k = .rightParen
  | optInitializer | initializer => k = .comma || k = .semicolon
  | moreDeclarators | nameTail | optExpr => k = .semicolon
  | moreExprs => k = .rightParen || k = .rightBrace
  | block => k.isTypeSpecifier || k.startsStmt || k = .kwElse || k = .rightBrace
  | locals => k.startsStmt || k = .rightBrace
  | statements => k = .rightBrace
  | statement | elses => k.startsStmt || k = .kwElse || k = .rightBrace
  | optAssignment => k = .semicolon || k = .rightParen
  | expr | optComparison => k.closesExpr || k.isBinaryOp
  | operands | unary | optSelector => k.closesExpr || k.isBinaryOp || k.isRelationalOp

/-- The kinds that can come first when the stack is followed by something of `after`. -/
def begins (after : Kind → Bool) : List Symbol → Kind → Bool
  | [], k => after k
  | x :: s, k => x.form.first k || (x.form.nullable && begins after s k)

/-- Every symbol stands above something that may come after it, when the whole stack is followed
by something of `after`. -/
def fits (after : Kind → Bool) : List Symbol → Bool
  | [] => true
  | x :: s => x.isProper && fits after s && Kind.all.all fun k => !begins after s k || x.follow k

theorem Kind.mem_all (k : Kind) : k ∈ Kind.all := by
  cases k <;> decide

variable {x y : Symbol} {k : Kind} {after after' : Kind → Bool} {rest s t : List Symbol}
  {w : List Kind}

theorem begins_append : begins after (s ++ t) k = begins (begins after t) s k := by
  induction s with
  | nil => rfl
  | cons x s ih => simp only [List.cons_append, begins, ih]

theorem begins_mono (h : ∀ k, after k → after' k) (hk : begins after s k) : begins after' s k := by
  induction s with
  | nil => exact h k hk
  | cons x s ih =>
    simp only [begins, Bool.or_eq_true, Bool.and_eq_true] at hk ⊢
    exact hk.imp_right (And.imp_right ih)

theorem begins_of_cons_mem (h : k :: w ∈ (stackForm s).lang) : begins after s k := by
  induction s with
  | nil => exact absurd (lang_stackForm_nil ▸ h) cons_mem_one
  | cons x s ih =>
    simp only [begins, Bool.or_eq_true, Bool.and_eq_true]
    rcases cons_mem_mul_iff.1 (lang_stackForm_cons x s ▸ h) with ⟨u, v, -, hu, -⟩ | ⟨hx, hs⟩
    · exact .inl (first_of_cons_mem_lang hu)
    · exact .inr ⟨nil_mem_lang_iff.1 hx, ih hs⟩

theorem fits_cons_iff : fits after (x :: s) ↔
    x.isProper ∧ fits after s ∧ ∀ k, begins after s k → x.follow k := by
  simp only [fits, Bool.and_eq_true, List.all_eq_true, Bool.or_eq_true, Bool.not_eq_true',
    and_assoc]
  refine and_congr_right fun _ => and_congr_right fun _ => ?_
  constructor
  · intro h k hk
    exact (h k k.mem_all).resolve_left (by simp [hk])
  · intro h k _
    cases hk : begins after s k with
    | false => exact .inl rfl
    | true => exact .inr (h k hk)

/-- What fits above the things that may come after `x` fits in the place of `x`. -/
theorem fits_append (hr : fits x.follow rest) (hs : fits after (x :: s)) :
    fits after (rest ++ s) := by
  obtain ⟨-, hs', hx⟩ := fits_cons_iff.1 hs
  induction rest with
  | nil => exact hs'
  | cons r rest ih =>
    obtain ⟨hr1, hr2, hr3⟩ := fits_cons_iff.1 hr
    rw [List.cons_append]
    refine fits_cons_iff.2 ⟨hr1, ih hr2, fun k hk => hr3 k ?_⟩
    rw [begins_append] at hk
    exact begins_mono hx hk

def Move.fits (after : Kind → Bool) : Move → Bool
  | shift rest | expand rest => MiniC.fits after rest
  | fail _ => true

/-- Every move of the table fits in the place of its symbol. -/
theorem fits_predict (x : Symbol) (k : Kind) : (predict x k).fits x.follow := by
  cases x with
  | token t =>
    simp only [predict]
    split <;> rfl
  | _ => cases k <;> rfl

theorem fits_of_shift (hs : fits after (x :: s)) (h : predict x k = shift rest) :
    fits after (rest ++ s) := by
  have hr := fits_predict x k
  rw [h] at hr
  exact fits_append hr hs

theorem fits_of_expand (hs : fits after (x :: s)) (h : predict x k = expand rest) :
    fits after (rest ++ s) := by
  have hr := fits_predict x k
  rw [h] at hr
  exact fits_append hr hs

/-! ## Greedy choices -/

/-- The only places where a symbol and something below it compete for the lookahead. -/
theorem greedy_cases (hn : x.form.nullable) (h : predict x k = shift rest) (hk : x.follow k) :
    (x = .elses ∧ k = .kwElse) ∨ (x = .operands ∧ k.isBinaryOp) := by
  cases x with
  | elses => cases k <;> first | cases h; done | exact .inl ⟨rfl, rfl⟩
  | operands => cases k <;> first | cases h; done | exact .inr ⟨rfl, rfl⟩
  | _ => cases k <;> first | cases hn; done | cases hk; done | cases h

/-- A symbol that could take the lookahead from the greedy one above is the same symbol. -/
theorem eq_of_first (hy : y.isProper) (hf : ∀ k, y.form.first k → x.follow k)
    (hn : x.form.nullable) (h : predict x k = shift rest) (hk : y.form.first k) : y = x := by
  rcases greedy_cases hn h (hf k hk) with ⟨rfl, rfl⟩ | ⟨rfl, hb⟩
  · cases y with
    | elses => rfl
    | token t =>
      obtain rfl : Kind.kwElse = t := by simpa [Symbol.form, first] using hk
      cases hy
    | _ => cases hk
  · cases y with
    | operands => rfl
    | token t =>
      obtain rfl : k = t := by simpa [Symbol.form, first] using hk
      cases k <;> first | cases hb; done | cases hy
    -- A sign begins an operand too, but so does `!`, which cannot come after one.
    | unary | expr | optExpr | optArgs | initializer => exact absurd (hf .not rfl) (by decide)
    | _ => cases k <;> first | cases hb; done | cases hk

/-- **Greed loses nothing.** What may come after a symbol that stands for nothing, the symbol can
take itself. -/
theorem mem_of_greedy (hs : fits after (x :: s)) (hn : x.form.nullable)
    (h : predict x k = shift rest) (hw : k :: w ∈ (stackForm s).lang) :
    w ∈ (stackForm (rest ++ s)).lang := by
  obtain ⟨hx, -, -⟩ := fits_cons_iff.1 hs
  have hxk : (shift rest).Agrees x.form k := h ▸ agrees_predict hx k
  induction s with
  | nil => exact absurd (lang_stackForm_nil ▸ hw) cons_mem_one
  | cons y s ih =>
    obtain ⟨-, hys, hf⟩ := fits_cons_iff.1 hs
    obtain ⟨hy, hs', -⟩ := fits_cons_iff.1 hys
    rw [lang_stackForm_append, lang_stackForm_cons]
    rw [lang_stackForm_cons] at hw
    rcases cons_mem_mul_iff.1 hw with ⟨u, v, rfl, hu, hv⟩ | ⟨hnil, hw'⟩
    · -- The symbol below takes the lookahead, so it is the one above once more.
      obtain rfl : y = x := by
        refine eq_of_first hy (fun k' hk' => hf k' ?_) hn h (first_of_cons_mem_lang hu)
        simp [begins, hk']
      exact Language.append_mem_mul ((hxk u).1 hu)
        (Language.append_mem_mul (nil_mem_lang_iff.2 hn) hv)
    · -- The symbol below stands for nothing and is passed over.
      have hxs : fits after (x :: s) := by
        refine fits_cons_iff.2 ⟨hx, hs', fun k' hk' => hf k' ?_⟩
        simp [begins, nil_mem_lang_iff.1 hnil, hk']
      have hmem : w ∈ (stackForm rest).lang * (stackForm s).lang :=
        lang_stackForm_append rest s ▸ ih hxs hw'
      obtain ⟨u, hu, v, hv, rfl⟩ := Language.mem_mul.1 hmem
      exact Language.append_mem_mul hu (Language.append_mem_mul hnil hv)

/-! ## Moves on a stack -/

/-- A shift adds nothing, whatever the stack. -/
theorem mem_of_shift (hx : x.isProper) (h : predict x k = shift rest)
    (hw : w ∈ (stackForm (rest ++ s)).lang) : k :: w ∈ (stackForm (x :: s)).lang := by
  have hxk : (shift rest).Agrees x.form k := h ▸ agrees_predict hx k
  rw [lang_stackForm_append] at hw
  obtain ⟨u, hu, v, hv, rfl⟩ := Language.mem_mul.1 hw
  rw [lang_stackForm_cons]
  exact Language.append_mem_mul ((hxk u).2 hu) hv

/-- An expansion adds nothing, whatever the stack and the lookahead. -/
theorem mem_of_expand (hx : x.isProper) (h : predict x k = expand rest)
    (hw : w ∈ (stackForm (rest ++ s)).lang) : w ∈ (stackForm (x :: s)).lang := by
  have hxk : (expand rest).Agrees x.form k := h ▸ agrees_predict hx k
  rw [lang_stackForm_append] at hw
  obtain ⟨u, hu, v, hv, rfl⟩ := Language.mem_mul.1 hw
  rw [lang_stackForm_cons]
  exact Language.append_mem_mul (hxk.1 hu) hv

/-- **Shifts.** What may come after the lookahead is what the stack stands for after the shift. -/
theorem shift_iff (hs : fits after (x :: s)) (h : predict x k = shift rest) :
    k :: w ∈ (stackForm (x :: s)).lang ↔ w ∈ (stackForm (rest ++ s)).lang := by
  obtain ⟨hx, -, -⟩ := fits_cons_iff.1 hs
  have hxk : (shift rest).Agrees x.form k := h ▸ agrees_predict hx k
  refine ⟨fun hw => ?_, mem_of_shift hx h⟩
  rw [lang_stackForm_cons] at hw
  rcases cons_mem_mul_iff.1 hw with ⟨u, v, rfl, hu, hv⟩ | ⟨hnil, hw'⟩
  · rw [lang_stackForm_append]
    exact Language.append_mem_mul ((hxk u).1 hu) hv
  · exact mem_of_greedy hs (nil_mem_lang_iff.1 hnil) h hw'

/-- **Expansions.** No sequence that begins with the lookahead is lost. At the end of input that
is the empty sequence. -/
theorem expand_iff (hs : fits after (x :: s)) (h : predict x k = expand rest)
    (hk : w.headD .eof = k) :
    w ∈ (stackForm (x :: s)).lang ↔ w ∈ (stackForm (rest ++ s)).lang := by
  obtain ⟨hx, -, -⟩ := fits_cons_iff.1 hs
  have hxk : (expand rest).Agrees x.form k := h ▸ agrees_predict hx k
  refine ⟨fun hw => ?_, mem_of_expand hx h⟩
  rw [lang_stackForm_cons] at hw
  obtain ⟨u, hu, v, hv, rfl⟩ := Language.mem_mul.1 hw
  have huk : u.headD k = k := by
    cases u with
    | nil => rfl
    | cons k' u => exact hk
  rw [lang_stackForm_append]
  exact Language.append_mem_mul (hxk.2 u huk hu) hv

/-- Only the end of the program may stand for nothing and still refuse the lookahead. -/
theorem finish_of_fail {e : Expectation} (h : predict x k = fail e) (hn : x.form.nullable) :
    x = .finish ∧ k ≠ .eof := by
  cases x with
  | finish =>
    refine ⟨rfl, ?_⟩
    rintro rfl
    cases h
  | _ => cases k <;> first | cases hn; done | cases h

/-- **Failures.** Nothing that the stack stands for begins with the lookahead. -/
theorem notMem_of_fail {e : Expectation} (hs : fits after (x :: s)) (h : predict x k = fail e)
    (hk : w.headD .eof = k) : w ∉ (stackForm (x :: s)).lang := by
  obtain ⟨hx, -, hf⟩ := fits_cons_iff.1 hs
  have hxk : (fail e).Agrees x.form k := h ▸ agrees_predict hx k
  intro hw
  rw [lang_stackForm_cons] at hw
  cases w with
  | nil =>
    obtain ⟨u, hu, v, hv, huv⟩ := Language.mem_mul.1 hw
    obtain ⟨rfl, rfl⟩ := List.append_eq_nil_iff.1 huv
    exact (finish_of_fail h (nil_mem_lang_iff.1 hu)).2 hk.symm
  | cons k' w =>
    obtain rfl : k' = k := hk
    rcases cons_mem_mul_iff.1 hw with ⟨u, v, -, hu, -⟩ | ⟨hnil, hw'⟩
    · exact hxk u hu
    · obtain ⟨rfl, -⟩ := finish_of_fail h (nil_mem_lang_iff.1 hnil)
      exact absurd (hf k' (begins_of_cons_mem hw')) Bool.false_ne_true

end MiniC
