import MiniC.Grammar
import Mathlib

/-!
# The languages of forms

The sequences a form derives are its language (`Form.lang`), and the shapes of forms are the
operations of the Kleene algebra of languages: sequences are products, alternatives are sums and
repetitions are stars. A nonterminal has the language of its right-hand side.

**Empty sequences.** `Form.nullable` computes whether a form derives the empty sequence
(`nil_mem_lang_iff`).

**First kinds.** `Form.first` computes the kinds that the sequences of a form can begin with
(`first_of_cons_mem_lang`). Both are structural: a nonterminal is looked up in a table, and the
table is checked against the right-hand sides (`nullable_body`, `first_body`).

**Reading from the left.** The lemmas `cons_mem_*` take the first kind off a sequence.
-/

namespace MiniC

namespace Grammar

open Form Computability

variable {k : Kind} {w : List Kind} {L M : Language Kind}

/-! ## Languages -/

/-- The sequences a form derives. -/
def Form.lang (a : Form) : Language Kind := {w | Derives a w}

theorem lang_rule (n : Nonterminal) : (rule n).lang = (body n).lang := by
  ext w
  constructor
  · rintro ⟨⟩
    assumption
  · exact .rule

@[simp] theorem lang_append (a b : Form) : (a ++ b).lang = a.lang * b.lang := by
  ext w
  constructor
  · rintro ⟨⟩
    exact Language.append_mem_mul ‹_› ‹_›
  · rintro ⟨u, hu, v, hv, rfl⟩
    exact .seq hu hv

theorem lang_or (a b : Form) : (a ||| b).lang = a.lang + b.lang := by
  ext w
  constructor
  · rintro ⟨⟩
    · exact .inl ‹_›
    · exact .inr ‹_›
  · rintro (h | h)
    · exact .left h
    · exact .right h

theorem lang_opt (a : Form) : (opt a).lang = 1 + a.lang := by
  ext w
  constructor
  · rintro ⟨⟩
    · exact .inl rfl
    · exact .inr ‹_›
  · rintro (rfl | h)
    · exact .absent
    · exact .present h

theorem mem_kstar_of_derives {a b : Form} (h : Derives b w) (hb : b = many a) :
    w ∈ a.lang∗ := by
  induction h with
  | done => exact Language.nil_mem_kstar _
  | more hu _ _ ih =>
    cases hb
    rw [← Language.one_add_self_mul_kstar_eq_kstar]
    exact .inr (Language.append_mem_mul hu (ih rfl))
  | _ => cases hb

theorem lang_many (a : Form) : (many a).lang = a.lang∗ := by
  ext w
  constructor
  · exact fun h => mem_kstar_of_derives h rfl
  · intro h
    obtain ⟨words, rfl, hwords⟩ := Language.mem_kstar.1 h
    clear h
    induction words with
    | nil => exact .done
    | cons u words ih =>
      rw [List.forall_mem_cons] at hwords
      exact .more hwords.1 (ih hwords.2)

/-! ## Empty sequences -/

/-- Whether a form derives the empty sequence. Of the nonterminals only `program` does. -/
def Form.nullable : Form → Bool
  | token _ => false
  | oneOf _ => false
  | rule n => n = .program
  | seq a b => a.nullable && b.nullable
  | alt a b => a.nullable || b.nullable
  | opt _ => true
  | many _ => true

theorem nullable_body (n : Nonterminal) : (body n).nullable = (rule n).nullable := by
  cases n <;> rfl

theorem nullable_of_derives {a : Form} (h : Derives a w) (hw : w = []) : a.nullable := by
  induction h with
  | token => cases hw
  | oneOf => cases hw
  | rule _ ih => exact nullable_body _ ▸ ih hw
  | seq _ _ iha ihb =>
    obtain ⟨hu, hv⟩ := List.append_eq_nil_iff.1 hw
    simp [nullable, iha hu, ihb hv]
  | left _ ih => simp [nullable, ih hw]
  | right _ ih => simp [nullable, ih hw]
  | absent | present | done | more => rfl

theorem nil_mem_lang_of_nullable {a : Form} (h : a.nullable) : [] ∈ a.lang := by
  induction a with
  | token => cases h
  | oneOf => cases h
  | rule n =>
    obtain rfl : n = .program := by simpa [nullable] using h
    exact .rule .done
  | seq a b iha ihb =>
    have hab : a.nullable ∧ b.nullable := by simpa [nullable] using h
    exact .seq (iha hab.1) (ihb hab.2)
  | alt a b iha ihb =>
    have hab : a.nullable ∨ b.nullable := by simpa [nullable] using h
    rcases hab with ha | hb
    · exact .left (iha ha)
    · exact .right (ihb hb)
  | opt => exact .absent
  | many => exact .done

theorem nil_mem_lang_iff {a : Form} : [] ∈ a.lang ↔ a.nullable :=
  ⟨fun h => nullable_of_derives h rfl, nil_mem_lang_of_nullable⟩

/-! ## First kinds -/

/-- The kinds a nonterminal can begin with. -/
def Nonterminal.first (n : Nonterminal) (k : Kind) : Bool :=
  match n with
  | program | paramsList | paramDecl => k.isTypeSpecifier
  | funPart | arglist => k = .leftParen
  | declarator | initDecl => k = .identifier
  | varPart => k = .leftBracket || k = .assign || k = .comma || k = .semicolon
  | initializer => k.startsExpr || k = .leftBrace
  | compoundStmt => k = .leftBrace
  | stmt => k.startsStmt
  | ifStmt => k = .kwIf
  | whileStmt => k = .kwWhile
  | forStmt => k = .kwFor
  | expr | unary => k.startsExpr
  | primary => k = .identifier || k = .leftParen || k.isLiteral

/-- The kinds a form can begin with. -/
def Form.first (k : Kind) : Form → Bool
  | token t => k = t
  | oneOf p => p k
  | rule n => n.first k
  | seq a b => a.first k || (a.nullable && b.first k)
  | alt a b => a.first k || b.first k
  | opt a => a.first k
  | many a => a.first k

theorem first_body (n : Nonterminal) (k : Kind) : (body n).first k = (rule n).first k := by
  cases n <;> cases k <;> rfl

theorem first_of_derives {a : Form} {v : List Kind} (h : Derives a w) (hw : w = k :: v) :
    a.first k := by
  induction h generalizing v with
  | token t =>
    cases hw
    simp [first]
  | oneOf hp =>
    cases hw
    exact hp
  | rule _ ih => exact first_body _ k ▸ ih hw
  | @seq a b u v ha _ iha ihb =>
    cases u with
    | nil => simp [first, nil_mem_lang_iff.1 ha, ihb hw]
    | cons k' u =>
      obtain ⟨rfl, -⟩ := List.cons.inj hw
      simp [first, iha rfl]
  | left _ ih => simp [first, ih hw]
  | right _ ih => simp [first, ih hw]
  | absent => cases hw
  | present _ ih => exact ih hw
  | done => cases hw
  | @more a u v _ _ ihu ihv =>
    cases u with
    | nil => exact ihv hw
    | cons k' u =>
      obtain ⟨rfl, -⟩ := List.cons.inj hw
      exact ihu rfl

theorem first_of_cons_mem_lang {a : Form} (h : k :: w ∈ a.lang) : a.first k :=
  first_of_derives h rfl

/-! ## Reading from the left -/

theorem cons_mem_mul_iff :
    k :: w ∈ L * M ↔ (∃ u v, u ++ v = w ∧ k :: u ∈ L ∧ v ∈ M) ∨ ([] ∈ L ∧ k :: w ∈ M) := by
  rw [Language.mem_mul]
  constructor
  · rintro ⟨u, hu, v, hv, huv⟩
    cases u with
    | nil => exact .inr ⟨hu, huv ▸ hv⟩
    | cons k' u =>
      obtain ⟨rfl, rfl⟩ := List.cons.inj huv
      exact .inl ⟨u, v, rfl, hu, hv⟩
  · rintro (⟨u, v, rfl, hu, hv⟩ | ⟨hu, hv⟩)
    · exact ⟨k :: u, hu, v, hv, rfl⟩
    · exact ⟨[], hu, k :: w, hv, rfl⟩

@[simp] theorem cons_mem_one : k :: w ∉ (1 : Language Kind) := nofun

/-- A form of single kinds takes exactly the first kind of a longer sequence. -/
theorem cons_mem_single_mul_iff {a : Form} {p : Prop} (hn : a.nullable = false)
    (ha : ∀ u, k :: u ∈ a.lang ↔ p ∧ u ∈ (1 : Language Kind)) :
    k :: w ∈ a.lang * L ↔ p ∧ w ∈ L := by
  have hnil : [] ∉ a.lang := by simp [nil_mem_lang_iff, hn]
  rw [cons_mem_mul_iff, or_iff_left fun h => hnil h.1]
  constructor
  · rintro ⟨u, v, rfl, hu, hv⟩
    obtain ⟨hp, rfl⟩ := (ha u).1 hu
    exact ⟨hp, hv⟩
  · rintro ⟨hp, hw⟩
    exact ⟨[], w, rfl, (ha []).2 ⟨hp, rfl⟩, hw⟩

@[simp] theorem cons_mem_token_iff {t : Kind} :
    k :: w ∈ (token t).lang ↔ k = t ∧ w ∈ (1 : Language Kind) := by
  constructor
  · rintro ⟨⟩
    exact ⟨rfl, rfl⟩
  · rintro ⟨rfl, rfl⟩
    exact .token k

@[simp] theorem cons_mem_token_mul_iff {t : Kind} :
    k :: w ∈ (token t).lang * L ↔ k = t ∧ w ∈ L :=
  cons_mem_single_mul_iff rfl fun _ => cons_mem_token_iff

@[simp] theorem cons_mem_oneOf_iff {p : Kind → Bool} :
    k :: w ∈ (oneOf p).lang ↔ p k ∧ w ∈ (1 : Language Kind) := by
  constructor
  · rintro ⟨⟩
    exact ⟨‹_›, rfl⟩
  · rintro ⟨hk, rfl⟩
    exact .oneOf hk

@[simp] theorem cons_mem_oneOf_mul_iff {p : Kind → Bool} :
    k :: w ∈ (oneOf p).lang * L ↔ p k ∧ w ∈ L :=
  cons_mem_single_mul_iff rfl fun _ => cons_mem_oneOf_iff

@[simp] theorem cons_mem_or_iff {a b : Form} :
    k :: w ∈ (a ||| b).lang ↔ k :: w ∈ a.lang ∨ k :: w ∈ b.lang := by
  rw [lang_or, Language.mem_add]

@[simp] theorem cons_mem_or_mul_iff {a b : Form} :
    k :: w ∈ (a ||| b).lang * L ↔ k :: w ∈ a.lang * L ∨ k :: w ∈ b.lang * L := by
  rw [lang_or, add_mul, Language.mem_add]

@[simp] theorem cons_mem_opt_iff {a : Form} : k :: w ∈ (opt a).lang ↔ k :: w ∈ a.lang := by
  rw [lang_opt, Language.mem_add]
  exact or_iff_right cons_mem_one

@[simp] theorem cons_mem_opt_mul_iff {a : Form} :
    k :: w ∈ (opt a).lang * L ↔ k :: w ∈ L ∨ k :: w ∈ a.lang * L := by
  rw [lang_opt, add_mul, one_mul, Language.mem_add]

theorem lang_many_eq (a : Form) : (many a).lang = 1 + a.lang * (many a).lang := by
  rw [lang_many, Language.one_add_self_mul_kstar_eq_kstar]

@[simp] theorem cons_mem_many_iff {a : Form} :
    k :: w ∈ (many a).lang ↔ k :: w ∈ a.lang * (many a).lang := by
  nth_rewrite 1 [lang_many_eq]
  rw [Language.mem_add]
  exact or_iff_right cons_mem_one

@[simp] theorem cons_mem_many_mul_iff {a : Form} :
    k :: w ∈ (many a).lang * L ↔ k :: w ∈ L ∨ k :: w ∈ a.lang * ((many a).lang * L) := by
  nth_rewrite 1 [lang_many_eq]
  rw [add_mul, one_mul, mul_assoc, Language.mem_add]

end Grammar

end MiniC
