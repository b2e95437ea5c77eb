import MiniC.Proofs.Alternation
import MiniC.Proofs.Verdict

/-!
# The recogniser takes flat expressions

The recogniser looks for an expression as the grammar is written: operands, a comparison, an
expression again on its right-hand side, and then a second run of operators.

**Theorem (`run_expr_flat`).** What it takes is flat: operands with operators between them, as many
as there are. The second run is always empty, since the expression before it has taken every
operator. And every flat sequence is taken as it stands, when what follows it can neither go on
with it nor make a call or an element of its last name.

*Nothing runs long.* No expression begins with what was taken and the lookahead, for an empty stack
allows nothing more (`Reaches.not_flat_append`). So the lookahead is no operator: with an operand
after it, it would make the expression longer.

*Nothing stops short.* The kinds of a flat sequence can be taken one after the other
(`exists_takes`), and then nothing on the stack needs a token: what is left are operators and a
selector that might have come (`predict_eq_skip_of_nullable`).
-/

namespace MiniC

open Grammar

/-! ## Stacks take what they stand for -/

variable {after : Kind → Bool} {s s' : List Symbol} {ks w : List Kind} {k : Kind}

/-- After some kinds the stack stands for what may come after them. -/
theorem Takes.mem_iff (h : Takes s ks s') (hs : fits after s) :
    ks ++ w ∈ (stackForm s).lang ↔ w ∈ (stackForm s').lang := by
  induction h with
  | nil => rfl
  | shift hp _ ih =>
    rw [List.cons_append, shift_iff hs hp]
    exact ih (fits_of_shift hs hp)
  | expand hp _ ih =>
    rw [expand_iff hs hp rfl]
    exact ih (fits_of_expand hs hp)

theorem Takes.fits (h : Takes s ks s') (hs : fits after s) : MiniC.fits after s' := by
  induction h with
  | nil => exact hs
  | shift hp _ ih => exact ih (fits_of_shift hs hp)
  | expand hp _ ih => exact ih (fits_of_expand hs hp)

/-- Whatever can begin what a stack stands for can be taken. -/
theorem exists_takes {s : List Symbol} {ks : List Kind} (hs : fits after s)
    (h : ks ++ w ∈ (stackForm s).lang) : ∃ s', Takes s ks s' := by
  match ks, s with
  | [], s => exact ⟨s, .nil s⟩
  | k :: ks, [] => exact absurd (lang_stackForm_nil ▸ h) cons_mem_one
  | k :: ks, x :: s =>
    cases hp : predict x k with
    | shift rest =>
      obtain ⟨s', hs'⟩ := exists_takes (fits_of_shift hs hp) ((shift_iff hs hp).1 h)
      exact ⟨s', .shift hp hs'⟩
    | expand rest =>
      obtain ⟨s', hs'⟩ := exists_takes (fits_of_expand hs hp) ((expand_iff hs hp rfl).1 h)
      exact ⟨s', .expand hp hs'⟩
    | fail e => exact absurd h (notMem_of_fail hs hp rfl)
termination_by (ks.length, weight s)
decreasing_by
  · exact Prod.Lex.left _ _ (Nat.lt_succ_self _)
  · have := weight_lt_of_expand hp
    exact Prod.Lex.right _ (by simp only [weight_append, weight_cons]; omega)

/-! ## Where an expression can end -/

/-- Whether a kind that comes after an expression can belong to it. -/
def Kind.extendsExpr (k : Kind) : Bool :=
  k.isBinaryOp || k.isRelationalOp || k = leftParen || k = leftBracket

/-- What may stand for nothing within an expression passes over a token that does not extend
it. -/
theorem predict_eq_skip {x : Symbol} (hn : x.form.nullable) (hx : x.follow .rightBracket)
    (hk : k.extendsExpr = false) : predict x k = .skip := by
  cases x with
  | token | expr | unary => cases hn
  | optComparison | operands | optSelector => cases k <;> first | rfl | cases hk
  | _ => cases hx

theorem nullable_stackForm_cons (x : Symbol) (s : List Symbol) :
    (stackForm (x :: s)).nullable = (x.form.nullable && (stackForm s).nullable) := rfl

theorem begins_of_nullable (h : (stackForm s).nullable) (hk : after k) : begins after s k := by
  induction s with
  | nil => exact hk
  | cons x s ih =>
    rw [nullable_stackForm_cons, Bool.and_eq_true] at h
    simp [begins, h.1, ih h.2]

theorem predict_eq_skip_of_nullable (hs : fits (Symbol.follow .expr) s) (h : (stackForm s).nullable)
    (hk : k.extendsExpr = false) : ∀ x ∈ s, predict x k = .skip := by
  induction s with
  | nil => nofun
  | cons x s ih =>
    obtain ⟨-, hs', hx⟩ := fits_cons_iff.1 hs
    rw [nullable_stackForm_cons, Bool.and_eq_true] at h
    rw [List.forall_mem_cons]
    exact ⟨predict_eq_skip h.1 (hx _ (begins_of_nullable h.2 rfl)) hk, ih hs' h.2⟩

theorem lang_expr_stack : (stackForm [.expr]).lang = expr.lang := by
  rw [lang_stackForm_cons, lang_stackForm_nil, mul_one]
  rfl

theorem fits_expr_stack : fits (Symbol.follow .expr) [.expr] := rfl

namespace Recognizer

variable {ρ : Type} {r r' : Recognizer ρ} {ts : List Token}

/-! ## What was taken as an expression -/

theorem Reaches.flat (h : Reaches r [.expr] ts r' []) : Flat .expr (ts.map Token.kind) := by
  rw [← mem_lang_expr_iff, ← lang_expr_stack, ← List.append_nil (ts.map Token.kind)]
  exact h.mem fits_expr_stack (nil_mem_lang_iff.2 rfl)

/-- **Nothing runs long.** From the lookahead on, nothing makes an expression longer. -/
theorem Reaches.not_flat_append (h : Reaches r [.expr] ts r' []) (w : List Kind) :
    ¬ Flat .expr (ts.map Token.kind ++ r'.lookahead.kind :: w) := by
  rw [← mem_lang_expr_iff, ← lang_expr_stack, h.mem_iff fits_expr_stack rfl, lang_stackForm_nil]
  exact cons_mem_one

/-- An operator would make the expression longer, as an operand can come after it. -/
theorem Reaches.not_operator (h : Reaches r [.expr] ts r' []) :
    ¬ (r'.lookahead.kind.isBinaryOp ∨ r'.lookahead.kind.isRelationalOp) := by
  intro hk
  have hname : Flat .operations (r'.lookahead.kind :: ([.identifier] ++ [])) :=
    .operation hk (.primary .name) .last
  exact h.not_flat_append [.identifier] (h.flat.append_operations hname)

/-- What was taken is the longest expression that the tokens to come begin with. -/
theorem Reaches.length_le_of_flat (h : Reaches r [.expr] ts r' []) {w : List Kind}
    (hw : Flat .expr w) (hw' : w <+: r.pending.map Token.kind) : w.length ≤ ts.length := by
  by_contra! hlt
  rw [h.pending_eq, List.map_append] at hw'
  obtain ⟨v, rfl⟩ : ts.map Token.kind <+: w :=
    List.prefix_of_prefix_length_le (List.prefix_append _ _) hw' (by simpa using hlt.le)
  obtain ⟨rest, hrest⟩ := (List.prefix_append_right_inj _).1 hw'
  cases v with
  | nil => simp at hlt
  | cons k v =>
    have hhead := congrArg List.head? hrest
    obtain rfl : k = r'.lookahead.kind := by simpa [r'.head?_pending] using hhead
    exact h.not_flat_append v hw

variable [Reporter ρ]

theorem exists_reaches_of_accepted {s : List Symbol} (h : r.run s = (.accepted, r')) :
    ∃ ts, Reaches r s ts r' [] := by
  obtain ⟨ts, r₁, s', hr, ⟨rfl, hrun⟩ | ⟨x, t, e, rfl, -, hrun⟩⟩ := run_cases r s
  · cases hrun.symm.trans h
    exact ⟨ts, hr⟩
  · cases hrun.symm.trans h

/-! ## Runs one after the other -/

/-- A run on two stacks is a run on the first, and then, if that accepts, on the second. -/
theorem run_append (r : Recognizer ρ) (s t : List Symbol) :
    r.run (s ++ t) =
      match r.run s with
      | (.accepted, r') => r'.run t
      | (.rejected d, r') => (.rejected d, r') := by
  fun_induction run r s with
  | case1 r => rfl
  | case2 r x s rest hp ih => rw [List.cons_append, run_of_shift _ hp, ← List.append_assoc, ih]
  | case3 r x s rest hp ih => rw [List.cons_append, run_of_expand _ hp, ← List.append_assoc, ih]
  | case4 r x s e hp =>
    rw [List.cons_append, run_of_fail _ hp]
    rfl

theorem run_of_skips {s : List Symbol} (h : ∀ x ∈ s, predict x r.lookahead.kind = .skip) :
    r.run s = (.accepted, r) := by
  induction s with
  | nil => exact run_nil r
  | cons x s ih =>
    rw [List.forall_mem_cons] at h
    rw [run_of_expand _ h.1, List.nil_append, ih h.2]

/-! ## Expressions -/

/-- Operators after an expression are never found. -/
theorem run_expr_operands (r : Recognizer ρ) (s : List Symbol) :
    r.run (.expr :: .operands :: s) = r.run (.expr :: s) := by
  have happend := r.run_append [.expr]
  simp only [List.singleton_append] at happend
  rw [happend (.operands :: s), happend s]
  match h : r.run [.expr] with
  | (.rejected d, r') => rfl
  | (.accepted, r') =>
    obtain ⟨ts, hr⟩ := exists_reaches_of_accepted h
    have hskip : predict .operands r'.lookahead.kind = .skip := if_neg (not_or.1 hr.not_operator).1
    exact run_of_expand s hskip

/-- **Nothing stops short.** -/
theorem run_expr_of_flat {t : Token} {later : List Token} (h : r.pending = ts ++ t :: later)
    (hts : Flat .expr (ts.map Token.kind)) (ht : t.kind.extendsExpr = false) :
    r.run [.expr] = (.accepted, advance^[ts.length] r) ∧
      (advance^[ts.length] r).pending = t :: later := by
  have hmem : ts.map Token.kind ++ [] ∈ (stackForm [.expr]).lang := by
    rw [List.append_nil, lang_expr_stack, mem_lang_expr_iff]
    exact hts
  obtain ⟨s, htakes⟩ := exists_takes fits_expr_stack hmem
  obtain ⟨r', hr, hpending⟩ := reaches_of_takes htakes rfl h
  have hs : (stackForm s).nullable :=
    nil_mem_lang_iff.1 ((htakes.mem_iff fits_expr_stack).1 hmem)
  have hskip : ∀ x ∈ s, predict x r'.lookahead.kind = .skip := by
    rw [lookahead_of_pending hpending]
    exact predict_eq_skip_of_nullable (htakes.fits fits_expr_stack) hs ht
  rw [← hr.eq_iterate, hr.run_eq, run_of_skips hskip]
  exact ⟨rfl, hpending⟩

/-- **Expressions are taken flat.** Whenever an expression is accepted, the lookahead is no
operator, and the tokens taken are the longest flat sequence that the tokens to come begin with.
So the operators that could follow the right-hand side of a comparison never do. And a flat
sequence before a token that cannot belong to it is accepted as it stands. -/
theorem run_expr_flat (r : Recognizer ρ) :
    (∀ r', r.run [.expr] = (.accepted, r') →
      ¬ r'.lookahead.kind.isBinaryOp ∧ ¬ r'.lookahead.kind.isRelationalOp ∧
        ∃ ts, r.pending = ts ++ r'.pending ∧ r' = advance^[ts.length] r ∧
          Flat .expr (ts.map Token.kind) ∧
          ∀ w, Flat .expr w → w <+: r.pending.map Token.kind → w.length ≤ ts.length) ∧
      (∀ s, r.run (.expr :: .operands :: s) = r.run (.expr :: s)) ∧
      ∀ ts t later, r.pending = ts ++ t :: later → Flat .expr (ts.map Token.kind) →
        ¬ t.kind.isBinaryOp → ¬ t.kind.isRelationalOp → t.kind ≠ .leftParen →
        t.kind ≠ .leftBracket →
        r.run [.expr] = (.accepted, advance^[ts.length] r) ∧
          (advance^[ts.length] r).pending = t :: later := by
  refine ⟨fun r' h => ?_, run_expr_operands r, fun ts t later h hts hb hr hp hl => ?_⟩
  · obtain ⟨ts, hreaches⟩ := exists_reaches_of_accepted h
    obtain ⟨hb, hr⟩ := not_or.1 hreaches.not_operator
    exact ⟨hb, hr, ts, hreaches.pending_eq, hreaches.eq_iterate, hreaches.flat,
      fun w => hreaches.length_le_of_flat⟩
  · exact run_expr_of_flat h hts (by simp [Kind.extendsExpr, hb, hr, hp, hl])

/-- Signs after an operator, a call, and operators on both sides of a comparison. All of it is
taken, up to the semicolon. -/
theorem run_expr_flat_comparison :
    let r := (ofText "a - -f(b) < c[1] * 2;" ({} : Collected)).advance
    ∃ ts r', r.run [.expr] = (.accepted, r') ∧ r.pending = ts ++ r'.pending ∧
      r'.lookahead.kind = .semicolon ∧
      ∀ w, Flat .expr w → w <+: r.pending.map Token.kind → w.length ≤ ts.length := by
  intro r
  obtain ⟨hlong, -, hshort⟩ := run_expr_flat r
  have hb : Flat .expr [.identifier] := .expr (.primary .name) .last
  have hone : Flat .expr [.intLiteral] := .expr (.primary (.literal rfl)) .last
  have hcall : Flat .primary [.identifier, .leftParen, .identifier, .rightParen] :=
    .call (.args hb .noMoreArgs)
  have helement : Flat .primary [.identifier, .leftBracket, .intLiteral, .rightBracket] :=
    .element hone
  have hflat : Flat .expr ((r.pending.take 14).map Token.kind) := by
    have hkinds : (r.pending.take 14).map Token.kind =
        [.identifier, .minus, .minus, .identifier, .leftParen, .identifier, .rightParen, .less,
          .identifier, .leftBracket, .intLiteral, .rightBracket, .times, .intLiteral] := by
      cbv
    rw [hkinds]
    exact .expr (.primary .name) (.operation (.inl rfl) (.sign rfl (.primary hcall))
      (.operation (.inr rfl) (.primary helement)
        (.operation (.inl rfl) (.primary (.literal rfl)) .last)))
  have hpending : r.pending = r.pending.take 14 ++
      ⟨.semicolon, "", ⟨⟨1, 21⟩, ⟨1, 22⟩⟩⟩ :: [.endOfInput ⟨1, 22⟩] := by
    cbv
  obtain ⟨hrun, hrest⟩ :=
    hshort _ _ _ hpending hflat (by decide) (by decide) (by decide) (by decide)
  obtain ⟨-, -, ts, hts, -, -, hlongest⟩ := hlong _ hrun
  exact ⟨ts, _, hrun, hts, by rw [lookahead_of_pending hrest], hlongest⟩

end Recognizer

end MiniC
