import MiniC.Proofs.Derivation

/-!
# Expressions are flat

The grammar writes an expression with a comparison at its top, whose right-hand side is an
expression again, with further operators after it. As a set of sequences that is no more than
operands with operators between them.

**Flat expressions (`Flat`).** An operand is signs and a primary. Primaries nest flat expressions in
parentheses, in brackets and in argument lists. Nothing else nests.

**Theorem (`mem_lang_expr_iff`).** The grammar derives an expression if and only if it is flat.

From left to right the grammar has to be read as a whole, since expressions contain expressions. The
languages of the forms are the least that satisfy the rules (`lang_le_denote`), and the flat
sequences satisfy them (`denote_body_le`): operators after a flat expression, with their operands,
only make it longer (`Flat.append_operations`). From right to left, an operator and an expression
after an operand are an expression, whichever of the two rules takes the operator
(`operator_mem_expr`).
-/

namespace MiniC

namespace Grammar

open Form Computability

/-! ## Flat expressions -/

inductive Phrase where
  | expr
  /-- Operands, each after an operator. -/
  | operations
  | unary | primary
  /-- What stands between the parentheses of a call. -/
  | args
  /-- Further arguments, each after a comma. -/
  | moreArgs

/-- The sequences of kinds that are phrases, when an expression is no more than operands with
operators between them. -/
inductive Flat : Phrase → List Kind → Prop where
  | expr {u v : List Kind} : Flat .unary u → Flat .operations v → Flat .expr (u ++ v)
  | last : Flat .operations []
  | operation {k : Kind} {u v : List Kind} :
      k.isBinaryOp ∨ k.isRelationalOp → Flat .unary u → Flat .operations v →
      Flat .operations (k :: (u ++ v))
  | sign {k : Kind} {u : List Kind} : k.isUnaryOp → Flat .unary u → Flat .unary (k :: u)
  | primary {u : List Kind} : Flat .primary u → Flat .unary u
  | literal {k : Kind} : k.isLiteral → Flat .primary [k]
  | name : Flat .primary [.identifier]
  | call {w : List Kind} :
      Flat .args w → Flat .primary (.identifier :: .leftParen :: (w ++ [.rightParen]))
  | element {w : List Kind} :
      Flat .expr w → Flat .primary (.identifier :: .leftBracket :: (w ++ [.rightBracket]))
  | parens {w : List Kind} : Flat .expr w → Flat .primary (.leftParen :: (w ++ [.rightParen]))
  | noArgs : Flat .args []
  | args {u v : List Kind} : Flat .expr u → Flat .moreArgs v → Flat .args (u ++ v)
  | noMoreArgs : Flat .moreArgs []
  | moreArgs {u v : List Kind} :
      Flat .expr u → Flat .moreArgs v → Flat .moreArgs (.comma :: (u ++ v))

variable {k : Kind} {u v w : List Kind}

theorem Flat.append (hu : Flat .operations u) (hv : Flat .operations v) :
    Flat .operations (u ++ v) := by
  generalize hp : Phrase.operations = p at hu
  induction hu with
  | last => exact hv
  | operation hk hu _ _ ih =>
    rw [List.cons_append, List.append_assoc]
    exact .operation hk hu (ih hp)
  | _ => cases hp

/-- Operators with their operands make an expression longer. -/
theorem Flat.append_operations (hu : Flat .expr u) (hv : Flat .operations v) :
    Flat .expr (u ++ v) := by
  obtain ⟨hu, hv'⟩ := hu
  rw [List.append_assoc]
  exact .expr hu (hv'.append hv)

/-- An operator and an expression are operations. -/
theorem Flat.operator_cons (hk : k.isBinaryOp ∨ k.isRelationalOp) (hw : Flat .expr w) :
    Flat .operations (k :: w) := by
  obtain ⟨hu, hv⟩ := hw
  exact .operation hk hu hv

/-! ## The least languages that satisfy the rules -/

/-- The language of a form when the nonterminals have the languages `L`. -/
def Form.denote (L : Nonterminal → Language Kind) : Form → Language Kind
  | token k => {[k]}
  | oneOf p => {w | ∃ k, p k ∧ w = [k]}
  | rule n => L n
  | seq a b => a.denote L * b.denote L
  | alt a b => a.denote L + b.denote L
  | opt a => 1 + a.denote L
  | many a => (a.denote L)∗

theorem lang_le_denote {L : Nonterminal → Language Kind} (hL : ∀ n, (body n).denote L ≤ L n)
    (a : Form) : a.lang ≤ a.denote L := by
  intro w h
  induction h with
  | token k => rfl
  | oneOf hk => exact ⟨_, hk, rfl⟩
  | rule _ ih => exact hL _ ih
  | seq _ _ iha ihb => exact Language.append_mem_mul iha ihb
  | left _ ih => exact .inl ih
  | right _ ih => exact .inr ih
  | absent => exact .inl rfl
  | present _ ih => exact .inr ih
  | done => exact Language.nil_mem_kstar _
  | more _ _ ihu ihv =>
    rw [denote, ← Language.one_add_self_mul_kstar_eq_kstar]
    exact .inr (Language.append_mem_mul ihu ihv)

/-! ## Every expression is flat -/

/-- The flat languages of the nonterminals that expressions are made of. -/
def flatLang : Nonterminal → Language Kind
  | .expr => {w | Flat .expr w}
  | .unary => {w | Flat .unary w}
  | .primary => {w | Flat .primary w}
  | .arglist => {w | ∃ u, Flat .args u ∧ w = .leftParen :: (u ++ [.rightParen])}
  | _ => ⊤

theorem denote_operands_le :
    (many (binOp ++ unary)).denote flatLang ≤ {w | Flat .operations w} := by
  refine kstar_le_of_mul_le_right ?_ ?_
  · rintro _ rfl
    exact .last
  · rintro _ ⟨_, ⟨_, ⟨k, hk, rfl⟩, u, hu, rfl⟩, v, hv, rfl⟩
    exact .operation (.inl hk) hu hv

theorem denote_comparison_le :
    (opt (relOp ++ expr ++ many (binOp ++ unary))).denote flatLang ≤
      {w | Flat .operations w} := by
  rintro _ (rfl | ⟨_, ⟨_, ⟨k, hk, rfl⟩, e, he, rfl⟩, v, hv, rfl⟩)
  · exact .last
  · exact .operator_cons (.inr hk) (Flat.append_operations he (denote_operands_le hv))

theorem denote_unary_le : (body .unary).denote flatLang ≤ {w | Flat .unary w} := by
  refine kstar_mul_le (fun _ => .primary) ?_
  rintro _ ⟨_, ⟨k, hk, rfl⟩, u, hu, rfl⟩
  exact .sign hk hu

theorem denote_moreArgs_le :
    (many (token .comma ++ expr)).denote flatLang ≤ {w | Flat .moreArgs w} := by
  refine kstar_le_of_mul_le_right ?_ ?_
  · rintro _ rfl
    exact .noMoreArgs
  · rintro _ ⟨_, ⟨_, rfl, u, hu, rfl⟩, v, hv, rfl⟩
    exact .moreArgs hu hv

theorem denote_args_le : (opt (list expr)).denote flatLang ≤ {w | Flat .args w} := by
  rintro _ (rfl | ⟨u, hu, v, hv, rfl⟩)
  · exact .noArgs
  · exact .args hu (denote_moreArgs_le hv)

theorem denote_primary_le : (body .primary).denote flatLang ≤ {w | Flat .primary w} := by
  rintro _ (((⟨_, rfl, _, rfl | ⟨u, hu, rfl⟩, rfl⟩ |
    ⟨_, rfl, _, ⟨_, ⟨_, rfl, u, hu, rfl⟩, _, rfl, rfl⟩, rfl⟩) |
    ⟨_, ⟨_, rfl, u, hu, rfl⟩, _, rfl, rfl⟩) | ⟨k, hk, rfl⟩)
  · exact .name
  · exact .call hu
  · exact .element hu
  · exact .parens hu
  · exact .literal hk

/-- The flat languages satisfy the rules. -/
theorem denote_body_le (n : Nonterminal) : (body n).denote flatLang ≤ flatLang n := by
  cases n with
  | expr =>
    rintro w ⟨_, ⟨u, hu, v, hv, rfl⟩, x, hx, rfl⟩
    have huv : Flat .expr (u ++ v) := .expr hu (denote_operands_le hv)
    exact huv.append_operations (denote_comparison_le hx)
  | unary => exact denote_unary_le
  | primary => exact denote_primary_le
  | arglist =>
    rintro w ⟨_, ⟨_, rfl, u, hu, rfl⟩, _, rfl, rfl⟩
    exact ⟨u, denote_args_le hu, rfl⟩
  | _ => exact le_top

/-! ## Everything flat is an expression -/

/-- An operator after an operand makes an expression of the expression that it stands before. A
binary operator joins the operands in front, and a relational one begins the comparison. -/
theorem operator_mem_expr (hk : k.isBinaryOp ∨ k.isRelationalOp) (hu : u ∈ unary.lang)
    (hw : w ∈ expr.lang) : u ++ k :: w ∈ expr.lang := by
  rw [expr, lang_rule] at hw ⊢
  rcases hk with hk | hk
  · obtain ⟨_, ⟨u', hu', v, hv, rfl⟩, x, hx, rfl⟩ :
        w ∈ unary.lang * (many (binOp ++ unary)).lang *
          (opt (relOp ++ expr ++ many (binOp ++ unary))).lang := by
      rw [← lang_append, ← lang_append]
      exact hw
    have hoperands : Derives (many (binOp ++ unary)) ([k] ++ u' ++ v) :=
      .more (.seq (.oneOf hk) hu') hv
    have : u ++ ([k] ++ u' ++ v) ++ x ∈ (body .expr).lang := .seq (.seq hu hoperands) hx
    simpa using this
  · have hcomparison : Derives (relOp ++ expr ++ many (binOp ++ unary)) ([k] ++ w ++ []) :=
      .seq (.seq (.oneOf hk) (.rule hw)) .done
    have : u ++ [] ++ ([k] ++ w ++ []) ∈ (body .expr).lang :=
      .seq (.seq hu .done) (.present hcomparison)
    simpa using this

/-- What the grammar makes of a phrase. Operations have no form of their own: they are what makes
an expression of an operand. -/
def Phrase.lang : Phrase → Language Kind
  | expr => Grammar.expr.lang
  | operations => {v | ∀ u ∈ Grammar.unary.lang, u ++ v ∈ Grammar.expr.lang}
  | unary => Grammar.unary.lang
  | primary => (rule .primary).lang
  | args => (opt (list Grammar.expr)).lang
  | moreArgs => (many (token .comma ++ Grammar.expr)).lang

theorem Flat.mem_lang {p : Phrase} (h : Flat p w) : w ∈ p.lang := by
  induction h with
  | expr _ _ ihu ihv => exact ihv _ ihu
  | last =>
    intro u hu
    have : Derives (body .expr) (u ++ [] ++ []) := .seq (.seq hu .done) .absent
    exact .rule (by simpa using this)
  | operation hk _ _ ihu ihv => exact fun _ hu => operator_mem_expr hk hu (ihv _ ihu)
  | @sign k u hk _ ih =>
    obtain ⟨signs, hsigns, v, hv, rfl⟩ : u ∈ (many unaryOp).lang * (rule .primary).lang := by
      rw [← lang_append, ← body, ← lang_rule]
      exact ih
    exact .rule (.seq (.more (.oneOf hk) hsigns) hv)
  | primary _ ih => exact .rule (.seq .done ih)
  | literal hk => exact .rule (.right (.oneOf hk))
  | name => exact .rule (.left (.left (.left (.seq (.token _) .absent))))
  | call _ ih =>
    have : Derives (rule .arglist) _ := .rule (.seq (.seq (.token .leftParen) ih) (.token _))
    exact .rule (.left (.left (.left (.seq (.token _) (.present this)))))
  | element _ ih =>
    have : Derives (brackets Grammar.expr) _ := .seq (.seq (.token .leftBracket) ih) (.token _)
    exact .rule (.left (.left (.right (.seq (.token _) this))))
  | parens _ ih => exact .rule (.left (.right (.seq (.seq (.token _) ih) (.token _))))
  | noArgs => exact .absent
  | args _ _ ihu ihv => exact .present (.seq ihu ihv)
  | noMoreArgs => exact .done
  | moreArgs _ _ ihu ihv => exact .more (.seq (.token .comma) ihu) ihv

/-- **Expressions are flat.** -/
theorem mem_lang_expr_iff : w ∈ expr.lang ↔ Flat .expr w :=
  ⟨fun h => lang_le_denote denote_body_le expr h, Flat.mem_lang⟩

end Grammar

end MiniC
