import MiniC.Recognizer.Table
import MiniC.Proofs.Derivation

/-!
# The prediction table agrees with the grammar

**Stacks.** Each symbol of the recogniser stands for a part of the grammar (`Symbol.form`), and a
stack for its symbols one after the other (`stackForm`).

**Agreement.** A move is right for a form at a lookahead when it loses no sequence that begins with
the lookahead and adds none (`Move.Agrees`). That says nothing about what follows the form: whether
an optional part may be left out is settled in `MiniC.Proofs.Residual`.

**Theorem (`agrees_predict`).** Every entry of the table agrees with the form of its symbol. Most
entries enter an optional part exactly at the kinds that can begin it (`agrees_ite_skip`).
-/

namespace MiniC

open Grammar Grammar.Form Computability

/-! ## What a stack expects -/

/-- Derives the empty sequence only. -/
def Grammar.Form.nothing : Form := opt (oneOf fun _ => false)

/-- The part of the grammar that a symbol stands for. -/
def Symbol.form : Symbol → Form
  | token k => .token k
  | definitions => rule .program
  | finish => .nothing
  | definitionTail => rule .funPart ||| rule .varPart
  | optParams => opt (rule .paramsList)
  | moreParams => many (.token .comma ++ rule .paramDecl)
  | param => rule .paramDecl
  | optArraySize => opt arraySize
  | optInitializer => opt (assigned (rule .initializer))
  | moreDeclarators => many (.token .comma ++ rule .initDecl)
  | initializer => rule .initializer
  | moreExprs => many (.token .comma ++ Grammar.expr)
  | block => rule .compoundStmt
  | locals => many (typeSpec ++ identifier ++ rule .varPart)
  | statements => many stmt
  | statement => stmt
  | nameTail =>
    assigned Grammar.expr ||| (brackets Grammar.expr ++ assigned Grammar.expr) ||| rule .arglist
  | elses => many (.token .kwElse ++ stmt)
  | optAssignment => opt (identifier ++ assigned Grammar.expr)
  | optExpr => opt Grammar.expr
  | optArgs => opt (list Grammar.expr)
  | expr => Grammar.expr
  | optComparison => opt (relOp ++ Grammar.expr ++ many (binOp ++ Grammar.unary))
  | operands => many (binOp ++ Grammar.unary)
  | unary => Grammar.unary
  | optSelector => opt (rule .arglist ||| brackets Grammar.expr)

/-- The symbols of a stack, one after the other. -/
def stackForm (stack : List Symbol) : Form := stack.foldr (fun x a => x.form ++ a) .nothing

@[simp] theorem lang_nothing : Form.nothing.lang = 1 := by
  ext w
  rw [Form.nothing, lang_opt, Language.mem_add]
  refine or_iff_left ?_
  rintro ⟨⟩
  contradiction

@[simp] theorem lang_stackForm_nil : (stackForm []).lang = 1 := lang_nothing

@[simp] theorem lang_stackForm_cons (x : Symbol) (s : List Symbol) :
    (stackForm (x :: s)).lang = x.form.lang * (stackForm s).lang := lang_append _ _

theorem lang_stackForm_append (s t : List Symbol) :
    (stackForm (s ++ t)).lang = (stackForm s).lang * (stackForm t).lang := by
  induction s with
  | nil => rw [List.nil_append, lang_stackForm_nil, one_mul]
  | cons x s ih => rw [List.cons_append, lang_stackForm_cons, lang_stackForm_cons, ih, mul_assoc]

/-! ## Agreement of a move -/

/-- The move `m` is right for the form `a` at a lookahead of kind `k`. A shift leads to exactly
what `a` allows after `k`; an expansion keeps everything that is empty or begins with `k` and
adds nothing; a failure means that `k` cannot come first. -/
def Move.Agrees (m : Move) (a : Form) (k : Kind) : Prop :=
  match m with
  | shift rest => ∀ w, k :: w ∈ a.lang ↔ w ∈ (stackForm rest).lang
  | expand rest =>
    (stackForm rest).lang ≤ a.lang ∧
      ∀ w, w.headD k = k → w ∈ a.lang → w ∈ (stackForm rest).lang
  | fail _ => ∀ w, k :: w ∉ a.lang

section Agrees

variable {a b : Form} {k : Kind} {m : Move} {more : List Symbol}

theorem agrees_skip (hn : a.nullable) (hk : a.first k = false) : Move.skip.Agrees a k := by
  constructor
  · rw [lang_stackForm_nil]
    rintro w rfl
    exact nil_mem_lang_iff.2 hn
  · intro w hw h
    cases w with
    | nil => simp
    | cons k' w =>
      obtain rfl : k' = k := hw
      rw [first_of_cons_mem_lang h] at hk
      cases hk

theorem agrees_fail (e : Expectation) (hk : a.first k = false) : (Move.fail e).Agrees a k := by
  intro w h
  rw [first_of_cons_mem_lang h] at hk
  cases hk

/-- An optional part is entered exactly when the lookahead can begin it. -/
theorem agrees_ite_skip {c : Prop} [Decidable c] (hn : a.nullable) (hk : a.first k = decide c)
    (hm : c → m.Agrees a k) : (if c then m else Move.skip).Agrees a k := by
  by_cases hc : c
  · rw [if_pos hc]
    exact hm hc
  · rw [if_neg hc]
    exact agrees_skip hn (by rw [hk, decide_eq_false hc])

/-- Without expansions only the sequences that begin with the lookahead matter. -/
theorem Move.Agrees.congr (h : m.Agrees a k) (hm : ∀ rest, m ≠ .expand rest)
    (hb : ∀ w, k :: w ∈ b.lang ↔ k :: w ∈ a.lang) : m.Agrees b k := by
  cases m with
  | shift rest => exact fun w => (hb w).trans (h w)
  | expand rest => exact absurd rfl (hm rest)
  | fail e => exact fun w hw => h w ((hb w).1 hw)

theorem Move.Agrees.followedBy (h : m.Agrees a k) (hm : ∀ rest, m ≠ .expand rest)
    (hn : a.nullable = false)
    (hb : ∀ w, k :: w ∈ b.lang ↔ k :: w ∈ a.lang * (stackForm more).lang) :
    (m.followedBy more).Agrees b k := by
  have hnil : [] ∉ a.lang := by simp [nil_mem_lang_iff, hn]
  cases m with
  | shift rest =>
    intro w
    rw [hb, cons_mem_mul_iff, or_iff_left fun hw => hnil hw.1, lang_stackForm_append,
      Language.mem_mul]
    constructor
    · rintro ⟨u, v, rfl, hu, hv⟩
      exact ⟨u, (h u).1 hu, v, hv, rfl⟩
    · rintro ⟨u, hu, v, hv, rfl⟩
      exact ⟨u, v, rfl, (h u).2 hu, hv⟩
  | expand rest => exact absurd rfl (hm rest)
  | fail e =>
    intro w hw
    rcases cons_mem_mul_iff.1 ((hb w).1 hw) with ⟨u, v, -, hu, -⟩ | ⟨hu, -⟩
    · exact h u hu
    · exact hnil hu

end Agrees

/-! ## Expressions -/

theorem agrees_primaryMove (k : Kind) : (primaryMove k).Agrees (rule .primary) k := by
  have hb (w : List Kind) : k :: w ∈ (rule .primary).lang ↔
      (k = .identifier ∧ w ∈ (Symbol.form .optSelector).lang) ∨
      (k = .leftParen ∧ w ∈ (stackForm [.expr, .token .rightParen]).lang) ∨
      (k.isLiteral ∧ w = []) := by
    simp [lang_rule .primary, body, Symbol.form, identifier, literal, brackets, parens, mul_assoc,
      lang_opt, lang_or, Language.mem_add, -add_eq_sup, or_assoc, and_or_left]
  unfold primaryMove
  split
  · intro w
    simp [hb, Kind.isLiteral]
  · intro w
    simp [hb, Kind.isLiteral]
  · next h1 h2 =>
    replace h1 : k ≠ .identifier := h1
    replace h2 : k ≠ .leftParen := h2
    split
    · next hk =>
      intro w
      simp [hb, h1, h2, hk]
    · next hk => exact agrees_fail _ (by simp [first, Nonterminal.first, h1, h2, hk])

theorem agrees_unaryMove (k : Kind) : (unaryMove k).Agrees Grammar.unary k := by
  have hb (w : List Kind) : k :: w ∈ Grammar.unary.lang ↔
      (k.isUnaryOp ∧ w ∈ Grammar.unary.lang) ∨ k :: w ∈ (rule .primary).lang := by
    simp [Grammar.unary, lang_rule .unary, body, unaryOp, or_comm]
  unfold unaryMove
  split
  · next hk =>
    have hp : (rule .primary).first k = false := by cases k <;> first | rfl | cases hk
    intro w
    have hw : k :: w ∉ (rule .primary).lang := agrees_fail .expression hp w
    simp [hb, hk, hw, Symbol.form]
  · next hk => exact (agrees_primaryMove k).congr (by simp) fun w => by simp [hb, hk]

theorem lang_expr : Grammar.expr.lang =
    Grammar.unary.lang * (stackForm [.operands, .optComparison]).lang := by
  simp [Grammar.expr, lang_rule .expr, body, Symbol.form, mul_assoc]

theorem agrees_exprMove (k : Kind) : (exprMove k).Agrees Grammar.expr k :=
  (agrees_unaryMove k).followedBy (by simp) rfl fun w => by rw [lang_expr]

/-! ## Definitions and statements -/

theorem agrees_paramMove (k : Kind) : (paramMove k).Agrees (rule .paramDecl) k := by
  unfold paramMove
  split
  · next hk =>
    intro w
    simp [lang_rule .paramDecl, lang_rule .declarator, body, Symbol.form, typeSpec, identifier, hk]
  · next hk => exact agrees_fail _ (by simpa [first, Nonterminal.first] using hk)

theorem cons_mem_block_iff (k : Kind) (w : List Kind) : k :: w ∈ (rule .compoundStmt).lang ↔
    k = .leftBrace ∧ w ∈ (stackForm [.locals, .statements, .token .rightBrace]).lang := by
  simp [lang_rule .compoundStmt, body, braces, Symbol.form, mul_assoc]

theorem cons_mem_if_iff (k : Kind) (w : List Kind) : k :: w ∈ (rule .ifStmt).lang ↔
    k = .kwIf ∧
      w ∈ (stackForm [.token .leftParen, .expr, .token .rightParen, .statement, .elses]).lang := by
  simp [lang_rule .ifStmt, body, parens, Symbol.form, mul_assoc]

theorem cons_mem_while_iff (k : Kind) (w : List Kind) : k :: w ∈ (rule .whileStmt).lang ↔
    k = .kwWhile ∧
      w ∈ (stackForm [.token .leftParen, .expr, .token .rightParen, .statement]).lang := by
  simp [lang_rule .whileStmt, body, parens, Symbol.form, mul_assoc]

theorem cons_mem_for_iff (k : Kind) (w : List Kind) : k :: w ∈ (rule .forStmt).lang ↔
    k = .kwFor ∧ w ∈ (stackForm [.token .leftParen, .optAssignment, .token .semicolon, .optExpr,
      .token .semicolon, .optAssignment, .token .rightParen, .statement]).lang := by
  simp [lang_rule .forStmt, body, parens, semicolon, Symbol.form, mul_assoc]

/-- How a statement goes on after the kind it begins with. -/
theorem cons_mem_stmt_iff (k : Kind) (w : List Kind) : k :: w ∈ stmt.lang ↔
    k :: w ∈ (rule .compoundStmt).lang ∨ k :: w ∈ (rule .ifStmt).lang ∨
      k :: w ∈ (rule .whileStmt).lang ∨ k :: w ∈ (rule .forStmt).lang ∨
      (k = .kwReturn ∧ w ∈ (stackForm [.optExpr, .token .semicolon]).lang) ∨
      (k = .identifier ∧ w ∈ (stackForm [.nameTail, .token .semicolon]).lang) := by
  simp [stmt, lang_rule .stmt, body, semicolon, Symbol.form, lang_or, -add_eq_sup, add_mul,
    Language.mem_add, or_assoc, identifier, mul_assoc, and_or_left]

theorem agrees_blockMove (k : Kind) : (blockMove k).Agrees (rule .compoundStmt) k := by
  unfold blockMove
  split
  · next hk =>
    intro w
    rw [cons_mem_block_iff, and_iff_right hk]
  · next hk => exact agrees_fail _ (by simpa [first, Nonterminal.first] using hk)

theorem agrees_statementMove (k : Kind) : (statementMove k).Agrees stmt k := by
  have hb (w : List Kind) := cons_mem_stmt_iff k w
  simp only [cons_mem_if_iff, cons_mem_while_iff, cons_mem_for_iff] at hb
  unfold statementMove
  split
  · refine (agrees_blockMove _).congr (by simp) fun w => ?_
    simp [hb]
  · intro w
    simp [hb, cons_mem_block_iff]
  · intro w
    simp [hb, cons_mem_block_iff]
  · intro w
    simp [hb, cons_mem_block_iff]
  · intro w
    simp [hb, cons_mem_block_iff]
  · intro w
    simp [hb, cons_mem_block_iff]
  · refine agrees_fail _ ?_
    cases k <;> first | rfl | contradiction

theorem agrees_definitionTail (k : Kind) :
    (predict .definitionTail k).Agrees (Symbol.form .definitionTail) k := by
  have hv : (stackForm [.optArraySize, .optInitializer, .moreDeclarators, .token .semicolon]).lang =
      (rule .varPart).lang := by
    simp [Symbol.form, lang_rule .varPart, body, semicolon, mul_assoc]
  simp only [predict]
  split
  · next hk =>
    obtain rfl := hk
    intro w
    have : .leftParen :: w ∉ (rule .varPart).lang := agrees_fail .endOfProgram rfl w
    simp [Symbol.form, this, lang_rule .funPart, body, parens, mul_assoc]
  · next hk =>
    constructor
    · rw [hv]
      exact fun w hw => .right hw
    · intro w hw h
      rw [hv]
      cases w with
      | nil => exact absurd (nil_mem_lang_iff.1 h) (by decide)
      | cons k' w =>
        obtain rfl : k' = k := hw
        have hf : k' :: w ∉ (rule .funPart).lang :=
          agrees_fail .endOfProgram (by simpa [first, Nonterminal.first] using hk) w
        exact (cons_mem_or_iff.1 h).resolve_left hf

theorem agrees_initializer (k : Kind) :
    (predict .initializer k).Agrees (rule .initializer) k := by
  simp only [predict]
  split
  · next hk =>
    refine (agrees_exprMove k).congr (by simp) fun w => ?_
    have : k ≠ .leftBrace := by rintro rfl; cases hk
    simp [lang_rule .initializer, body, braces, this, mul_assoc]
  · next hk =>
    split
    · next hb =>
      intro w
      have : k :: w ∉ Grammar.expr.lang := fun h => hk (first_of_cons_mem_lang h)
      rw [hb] at this
      simp [Symbol.form, lang_rule .initializer, body, braces, list, this, hb, mul_assoc]
    · next hb => exact agrees_fail _ (by simp [first, Nonterminal.first, hk, hb])

theorem agrees_nameTail (k : Kind) :
    (predict .nameTail k).Agrees (Symbol.form .nameTail) k := by
  simp only [predict, Symbol.form]
  split
  · next hk =>
    intro w
    simp [Symbol.form, lang_rule .arglist, body, assigned, brackets, parens, hk, mul_assoc]
  · next hk =>
    split
    · next hb =>
      intro w
      simp [Symbol.form, lang_rule .arglist, body, assigned, brackets, parens, hb, mul_assoc]
    · next hb =>
      split
      · next hp =>
        intro w
        simp [Symbol.form, lang_rule .arglist, body, assigned, brackets, parens, hp, mul_assoc]
      · next hp =>
        refine agrees_fail _ ?_
        cases k <;> first | rfl | contradiction

theorem agrees_optSelector (k : Kind) :
    (predict .optSelector k).Agrees (Symbol.form .optSelector) k := by
  simp only [predict, Symbol.form]
  split
  · next hk =>
    intro w
    simp [Symbol.form, lang_rule .arglist, body, brackets, parens, hk, mul_assoc]
  · next hk =>
    split
    · next hb =>
      intro w
      simp [Symbol.form, lang_rule .arglist, body, brackets, parens, hb, mul_assoc]
    · next hb =>
      refine agrees_skip rfl ?_
      cases k <;> first | rfl | contradiction

/-! ## The table -/

/-- The kinds that a symbol `token` asks for. -/
def Kind.isDelimiter : Kind → Bool
  | identifier | intLiteral | assign | semicolon => true
  | leftParen | rightParen | leftBracket | rightBracket | rightBrace => true
  | _ => false

def Symbol.isProper : Symbol → Bool
  | token k => k.isDelimiter
  | _ => true

theorem agrees_predict {x : Symbol} (hx : x.isProper) (k : Kind) :
    (predict x k).Agrees x.form k := by
  cases x with
  | token t =>
    simp only [predict]
    split
    · next hk =>
      intro w
      simp_all [Symbol.form]
    · next hk =>
      refine agrees_fail _ ?_
      simp only [Symbol.isProper] at hx
      by_contra h
      obtain rfl : k = t := by simpa [first, Symbol.form] using h
      cases k <;> simp_all [Kind.isDelimiter]
  | definitions =>
    refine agrees_ite_skip rfl (by cases k <;> rfl) fun hk w => ?_
    simp [Symbol.form, lang_rule .program, body, typeSpec, identifier, hk, mul_assoc]
  | finish =>
    simp only [predict]
    split
    · exact agrees_skip rfl rfl
    · exact agrees_fail _ rfl
  | definitionTail => exact agrees_definitionTail k
  | optParams =>
    refine agrees_ite_skip rfl (by cases k <;> rfl) fun _ => ?_
    refine (agrees_paramMove k).followedBy (by simp) rfl fun w => ?_
    simp [Symbol.form, lang_rule .paramsList, body, list]
  | moreParams =>
    refine agrees_ite_skip rfl (by cases k <;> rfl) fun hk w => ?_
    simp [Symbol.form, hk, mul_assoc]
  | param => exact agrees_paramMove k
  | optArraySize =>
    refine agrees_ite_skip rfl (by cases k <;> rfl) fun hk w => ?_
    simp [Symbol.form, hk, mul_assoc, arraySize, brackets]
  | optInitializer =>
    refine agrees_ite_skip rfl (by cases k <;> rfl) fun hk w => ?_
    simp [Symbol.form, hk, assigned]
  | moreDeclarators =>
    refine agrees_ite_skip rfl (by cases k <;> rfl) fun hk w => ?_
    simp [Symbol.form, lang_rule .initDecl, lang_rule .declarator, body, identifier, hk, mul_assoc]
  | initializer => exact agrees_initializer k
  | moreExprs =>
    refine agrees_ite_skip rfl (by cases k <;> rfl) fun hk w => ?_
    simp [Symbol.form, hk, mul_assoc]
  | block => exact agrees_blockMove k
  | locals =>
    refine agrees_ite_skip rfl (by cases k <;> rfl) fun hk w => ?_
    simp [Symbol.form, lang_rule .varPart, body, typeSpec, identifier, semicolon, hk, mul_assoc]
  | statements =>
    refine agrees_ite_skip rfl (by cases k <;> rfl) fun _ => ?_
    refine (agrees_statementMove k).followedBy (by simp) rfl fun w => ?_
    simp [Symbol.form]
  | statement => exact agrees_statementMove k
  | nameTail => exact agrees_nameTail k
  | elses =>
    refine agrees_ite_skip rfl (by cases k <;> rfl) fun hk w => ?_
    simp [Symbol.form, hk, mul_assoc]
  | optAssignment =>
    refine agrees_ite_skip rfl (by cases k <;> rfl) fun hk w => ?_
    simp [Symbol.form, identifier, assigned, hk]
  | optExpr =>
    refine agrees_ite_skip rfl (by cases k <;> rfl) fun _ => ?_
    exact (agrees_exprMove k).congr (by simp) fun w => by simp [Symbol.form]
  | optArgs =>
    refine agrees_ite_skip rfl (by cases k <;> rfl) fun _ => ?_
    exact (agrees_exprMove k).followedBy (by simp) rfl fun w => by simp [Symbol.form, list]
  | expr => exact agrees_exprMove k
  | optComparison =>
    refine agrees_ite_skip rfl (by cases k <;> rfl) fun hk w => ?_
    simp [Symbol.form, relOp, hk, mul_assoc]
  | operands =>
    refine agrees_ite_skip rfl (by cases k <;> rfl) fun hk w => ?_
    simp [Symbol.form, binOp, hk, mul_assoc]
  | unary => exact agrees_unaryMove k
  | optSelector => exact agrees_optSelector k

end MiniC
