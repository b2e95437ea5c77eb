import MiniC.Proofs.Effects
import MiniC.Proofs.Recognition

/-!
# Diagnostics give usable advice

A report names what could have stood in place of the token found. Taking the advice never leads
astray: with any of the kinds named, the tokens taken so far still begin some program.

**Theorem (`rejection_advises`).** A rejected source has a token `i` at which its one report is
made, and the report is right about the grammar (`Report.Advises`). If it names a kind, or a class
of kinds, then every such kind can follow the tokens before `i`; if it says that the program has
ended, then these tokens are a program.

What a report names depends only on the symbol that failed (`Symbol.expectation?`). The table
shifts every kind that the expectation admits (`exists_shift_of_admits`), so each begins a sequence
of the symbol's form. The rest of the stack can always be completed, whatever called for the
symbol: that is where the context of a failure comes in, and it is one lemma for all contexts
(`Reaches.viable_of_admits`).
-/

namespace MiniC

open Grammar Grammar.Form

/-! ## What an expectation admits -/

/-- The kinds that meet an expectation. -/
def Expectation.admits (e : Expectation) (k : Kind) : Bool :=
  match e with
  | kind want => k = want
  | typeSpecifier => k.isTypeSpecifier
  | statement => k.startsStmt
  | expression => k.startsExpr
  | initializer => k.startsExpr || k = .leftBrace
  | endOfProgram => false

/-- What a symbol names when it refuses the lookahead. Those that may stand for nothing never do,
except for the end of the program. -/
def Symbol.expectation? : Symbol → Option Expectation
  | token k => some (.kind k)
  | finish => some .endOfProgram
  | param => some .typeSpecifier
  | initializer => some .initializer
  | block => some (.kind .leftBrace)
  | statement => some .statement
  | nameTail => some (.kind .leftParen)
  | expr | unary => some .expression
  | _ => none

variable {ρ : Type} {x : Symbol} {k : Kind} {e : Expectation}

theorem expectation?_of_fail (h : predict x k = .fail e) : x.expectation? = some e := by
  cases x with
  | token want =>
    simp only [predict] at h
    split at h <;> cases h
    rfl
  | _ => cases k <;> cases h <;> rfl

theorem predict_token_self (hk : k.isDelimiter) : predict (.token k) k = .shift [] := by
  cases k <;> cases hk <;> rfl

/-- Every kind that meets the expectation of a symbol is shifted by it. -/
theorem exists_shift_of_admits (hx : x.isProper) (h : x.expectation? = some e)
    (hk : e.admits k) : ∃ rest, predict x k = .shift rest := by
  cases x with
  | token want =>
    obtain rfl : e = .kind want := (Option.some.inj h).symm
    obtain rfl : k = want := of_decide_eq_true hk
    exact ⟨[], predict_token_self hx⟩
  | _ => cases h <;> cases k <;> cases hk <;> exact ⟨_, rfl⟩

/-- The token that was found does not meet the expectation. -/
theorem not_admits_of_fail (hx : x.isProper) (h : predict x k = .fail e) : ¬ e.admits k := by
  intro hk
  obtain ⟨rest, hshift⟩ := exists_shift_of_admits hx (expectation?_of_fail h) hk
  cases hshift.symm.trans h

theorem exists_cons_mem_of_admits (hx : x.isProper) (h : x.expectation? = some e)
    (hk : e.admits k) : ∃ w, k :: w ∈ x.form.lang := by
  obtain ⟨rest, hrest⟩ := exists_shift_of_admits hx h hk
  have hxk : (Move.shift rest).Agrees x.form k := hrest ▸ agrees_predict hx k
  obtain ⟨w, hw⟩ := exists_mem_lang_stackForm (s := rest) fun y _ => exists_mem_lang y
  exact ⟨w, (hxk w).2 hw⟩

/-! ## Failures in their context -/

namespace Recognizer

variable {r r' : Recognizer ρ} {s t : List Symbol} {ts : List Token}

/-- **Advice can be taken.** Where a run fails, every kind that meets the expectation can follow
the tokens taken. -/
theorem Reaches.viable_of_admits (h : Reaches r s ts r' (x :: t)) {after : Kind → Bool}
    (hs : MiniC.fits after s) (he : x.expectation? = some e) (hk : e.admits k) :
    ∃ w, ts.map Token.kind ++ k :: w ∈ (stackForm s).lang := by
  obtain ⟨hx, -, -⟩ := fits_cons_iff.1 (h.fits hs)
  obtain ⟨u, hu⟩ := exists_cons_mem_of_admits hx he hk
  obtain ⟨v, hv⟩ := exists_mem_lang_stackForm (s := t) fun y _ => exists_mem_lang y
  have huv : k :: u ++ v ∈ (stackForm (x :: t)).lang := by
    rw [lang_stackForm_cons]
    exact Language.append_mem_mul hu hv
  exact ⟨u ++ v, h.mem hs huv⟩

/-- Below the end of the program there is nothing left to supply. -/
theorem nil_mem_of_finish {after : Kind → Bool} (h : MiniC.fits after (.finish :: t)) :
    [] ∈ (stackForm (.finish :: t)).lang := by
  obtain ⟨-, -, hfollow⟩ := fits_cons_iff.1 h
  obtain ⟨w, hw⟩ := exists_mem_lang_stackForm (s := t) fun y _ => exists_mem_lang y
  cases w with
  | nil =>
    rw [lang_stackForm_cons]
    exact Language.append_mem_mul (nil_mem_lang_iff.2 rfl) hw
  | cons k w => exact absurd (hfollow k (begins_of_cons_mem hw)) Bool.false_ne_true

theorem Reaches.mem_of_finish (h : Reaches r s ts r' (.finish :: t)) {after : Kind → Bool}
    (hs : MiniC.fits after s) : ts.map Token.kind ∈ (stackForm s).lang := by
  have hmem := h.mem hs (nil_mem_of_finish (h.fits hs))
  rwa [List.append_nil] at hmem

end Recognizer

/-! ## Reports -/

/-- The templates that name a class of kinds, each with the class it names. -/
def classTemplates : List (String × (Kind → Bool)) :=
  [("type specifier expected here, found \"%\"", Kind.isTypeSpecifier),
    ("statement expected here, found \"%\"", Kind.startsStmt),
    ("expression expected here, found \"%\"", Kind.startsExpr),
    ("initializer expected here, found \"%\"", fun k => k.startsExpr || k = .leftBrace)]

/-- The report is right about what can come after the kinds `taken`, where `found` cannot. -/
inductive Report.Advises (taken : List Kind) (found : Token) : Report → Prop
  | kind {k : Kind} : found.kind ≠ k → Viable (taken ++ [k]) →
      Advises taken found ⟨"\"%\" expected here", k.spelling, found.span⟩
  | oneOf {template : String} {p : Kind → Bool} : (template, p) ∈ classTemplates →
      ¬ p found.kind → (∀ k, p k → Viable (taken ++ [k])) →
      Advises taken found ⟨template, found.text, found.span⟩
  | endOfProgram : Sentence taken →
      Advises taken found ⟨"\"%\" not expected after end of program", found.text, found.span⟩

theorem advises_of_admits {taken : List Kind} {found : Token} (hfound : ¬ e.admits found.kind)
    (hviable : ∀ k, e.admits k → Viable (taken ++ [k]))
    (hend : e = .endOfProgram → Sentence taken) : (e.report found).Advises taken found := by
  cases e with
  | kind k =>
    have hne : found.kind ≠ k := by simpa [Expectation.admits] using hfound
    exact .kind hne (hviable k (decide_eq_true rfl))
  | typeSpecifier => exact .oneOf (.head _) hfound hviable
  | statement => exact .oneOf (.tail _ (.head _)) hfound hviable
  | expression => exact .oneOf (.tail _ (.tail _ (.head _))) hfound hviable
  | initializer => exact .oneOf (.tail _ (.tail _ (.tail _ (.head _)))) hfound hviable
  | endOfProgram => exact .endOfProgram (hend rfl)

/-- A failure of the whole program gives advice that is right. -/
theorem Recognizer.Reaches.advises {r r' : Recognizer ρ} {t : List Symbol} {ts : List Token}
    (h : Reaches r [.definitions, .finish] ts r' (x :: t))
    (hp : predict x r'.lookahead.kind = .fail e) :
    (e.report r'.lookahead).Advises (ts.map Token.kind) r'.lookahead := by
  have he := expectation?_of_fail hp
  obtain ⟨hx, -, -⟩ := fits_cons_iff.1 (h.fits fits_program_stack)
  refine advises_of_admits (not_admits_of_fail hx hp) ?_ ?_
  · intro k hk
    obtain ⟨w, hw⟩ := h.viable_of_admits fits_program_stack he hk
    have hsentence : Sentence (ts.map Token.kind ++ k :: w) := by
      rwa [lang_program_stack] at hw
    exact ⟨w, by simpa using hsentence⟩
  · rintro rfl
    obtain rfl : x = .finish := by
      cases x <;> cases he
      rfl
    have hmem := h.mem_of_finish fits_program_stack
    rwa [lang_program_stack] at hmem

/-! ## Programs -/

variable [Reporter ρ]

/-- **Usable advice.** A rejected source has a token `i`, the last one scanned, at which the one
report is made. The report is right about what the grammar allows after the kinds before `i`. -/
theorem rejection_advises (source : String) (reporter : ρ) {d : Diagnostic} {r : Recognizer ρ}
    (h : (Recognizer.ofText source reporter).recognize = (.rejected d, r)) :
    ∃ i report, (tokenize source).1[i]? = some r.lookahead ∧
      (Recognizer.ofText source reporter).recognition =
        ((tokenize source).1.take (i + 1)).map .scan ++ [.report report] ∧
      d = report.diagnostic ∧
      report.Advises (((tokenize source).1.take i).map Token.kind) r.lookahead := by
  obtain ⟨ts, r', s', hr, ⟨-, -, hrec⟩ | ⟨x, t, e, rfl, hp, heffects, hrec⟩⟩ :=
    (Recognizer.ofText source reporter).recognize_cases
  · cases hrec.symm.trans h
  · cases hrec.symm.trans h
    rw [← pending_ofText source reporter]
    refine ⟨ts.length, _, hr.getElem?_pending, ?_, rfl, ?_⟩
    · rw [hr.take_succ_pending, heffects]
    · rw [hr.take_pending]
      exact hr.advises hp

/-- A call with a comma too many: the report asks for an expression, and with any kind that begins
one the tokens before the parenthesis begin a program. -/
theorem rejection_advises_expression :
    let source := "void f() { g(1,); }"
    let d : Diagnostic := ⟨"expression expected here, found \")\"", ⟨⟨1, 16⟩, ⟨1, 17⟩⟩⟩
    (Recognizer.ofText source ({} : Collected)).recognize.1 = .rejected d ∧
      ∃ (i : Nat) (report : Report) (t : Token), (tokenize source).1[i]? = some t ∧
        d = report.diagnostic ∧
        report.Advises (((tokenize source).1.take i).map Token.kind) t := by
  intro source d
  have h : (Recognizer.ofText source ({} : Collected)).recognize.1 = .rejected d := by cbv
  obtain ⟨i, report, hi, -, hd, hadvises⟩ :=
    rejection_advises source ({} : Collected) (Prod.ext h rfl)
  exact ⟨h, i, report, _, hi, hd, hadvises⟩

end MiniC
