import MiniC.Proofs.Consumption
import MiniC.Proofs.Passes

/-!
# Recognition by procedures

The procedures of the recogniser make the same choices as its prediction table.

**Theorem (`recognition_ends`).** Every procedure that has to take a token does, every round of a
loop takes one, and every circle of calls takes one. A recognition by the procedures ends, as the
one by the table does: it takes the same tokens, none of them the end of input or an error, and
gives the same verdict. It scans no more tokens than the source has.

The two keep their books in different ways. The table replaces the symbol on top of its stack by
others; the procedures call others and come back. A stack of symbols stands for instructions
that do what is left of each phrase (`Symbol.code`), but a procedure may still have to call
another to get there (`Stands`). For each symbol, whatever the lookahead, the instructions go the
way the table points (`meets_predict`), so a run by the table is one by the procedures
(`Reaches.performs`).
-/

namespace MiniC

open Instruction Procedure Move Kind
open MiniC.Symbol hiding expr initializer unary

/-! ## Instructions for a stack -/

/-- What the procedures still do for a symbol. -/
def Symbol.code : Symbol → List Instruction
  | token k => [accept k]
  | definitions =>
    [loop isTypeSpecifier
      [advance, accept .identifier, choice (· = .leftParen) [call funPart] [call varPart]]]
  | finish => [choice (· = .eof) [] [fail .endOfProgram]]
  | definitionTail => [choice (· = .leftParen) [call funPart] [call varPart]]
  | optParams => [choice isTypeSpecifier [call paramsList] []]
  | moreParams => [afterCommas paramDecl]
  | param => [call paramDecl]
  | optArraySize => [call arraySize]
  | optInitializer => [Procedure.optInitializer]
  | moreDeclarators => [afterCommas initDecl]
  | initializer => [call .initializer]
  | moreExprs => [afterCommas .expr]
  | block => [call compoundStmt]
  | locals => [loop isTypeSpecifier [advance, accept .identifier, call varPart]]
  | statements => [loop startsStmt [call stmt]]
  | statement => [call stmt]
  | nameTail =>
    [choice (· = .assign) [advance, call .expr] <|
      [choice (· = .leftBracket)
        [advance, call .expr, accept .rightBracket, accept .assign, call .expr]
        [call arglist]]]
  | elses => [loop (· = .kwElse) [advance, call stmt]]
  | optAssignment => [call forAssignment]
  | optExpr => [Procedure.optExpr]
  | optArgs => [choice startsExpr [call .expr, afterCommas .expr] []]
  | expr => [call .expr]
  | optComparison => [choice isRelationalOp [advance, call .expr, call operandRun] []]
  | operands => [loop isBinaryOp [advance, call .unary]]
  | unary => [loop isUnaryOp [advance], call primary]
  | optSelector =>
    [choice (· = .leftParen) [call arglist] <|
      [choice (· = .leftBracket) [advance, call .expr, accept .rightBracket] []]]

/-- The instructions do what is left for a stack of symbols, as they stand or after calls. -/
inductive Stands : List Instruction → List Symbol → Prop
  | nil : Stands [] []
  | cons (x : Symbol) {code : List Instruction} {s : List Symbol} :
      Stands code s → Stands (x.code ++ code) (x :: s)
  | call (p : Procedure) {code : List Instruction} {s : List Symbol} :
      Stands (p.body ++ code) s → Stands (call p :: code) s

section Meets

variable {k : Kind} {c : Instruction} {code more : List Instruction} {s : List Symbol} {m : Move}

/-- At a lookahead of kind `k`, the instructions go where the move points. -/
inductive Meets (k : Kind) : List Instruction → Move → Prop
  | shift {c : Instruction} {code : List Instruction} {s : List Symbol} :
      c.act k = .takes → Stands code s → Meets k (c :: code) (shift s)
  | expand {code : List Instruction} {s : List Symbol} : Stands code s → Meets k code (expand s)
  | fail {c : Instruction} {code : List Instruction} {e : Expectation} :
      c.act k = .fails e → Meets k (c :: code) (fail e)
  | go {c : Instruction} {code more : List Instruction} {m : Move} :
      c.act k = .goes code → Meets k (code ++ more) m → Meets k (c :: more) m

theorem Meets.advance (h : Stands more s) : Meets k (advance :: more) (.shift s) := .shift rfl h

theorem Meets.call {p : Procedure} (h : Meets k (p.body ++ more) m) :
    Meets k (call p :: more) m := .go rfl h

section Tests

variable {test : Kind → Bool} {body yes no : List Instruction} {m' : Move} {P : Prop} [Decidable P]

theorem Meets.choose (ht : test k) (h : Meets k (yes ++ more) m) :
    Meets k (choice test yes no :: more) m := .go (congrArg Act.goes (if_pos ht)) h

theorem Meets.otherwise (ht : ¬ test k) (h : Meets k (no ++ more) m) :
    Meets k (choice test yes no :: more) m := .go (congrArg Act.goes (if_neg ht)) h

/-- A choice that the table makes as well. -/
theorem Meets.choice (hP : test k ↔ P) (hyes : P → Meets k (yes ++ more) (m.followedBy s))
    (hno : ¬ P → Meets k (no ++ more) (m'.followedBy s)) :
    Meets k (choice test yes no :: more) ((if P then m else m').followedBy s) := by
  split
  · next h => exact .choose (hP.2 h) (hyes h)
  · next h => exact .otherwise (mt hP.1 h) (hno h)

/-- A loop is entered when the table repeats a symbol, and left when it goes on. -/
theorem Meets.loop (hP : test k ↔ P)
    (hbody : P → Meets k (body ++ loop test body :: more) (m.followedBy s))
    (hend : ¬ P → Meets k more (m'.followedBy s)) :
    Meets k (loop test body :: more) ((if P then m else m').followedBy s) := by
  split
  · next h =>
    refine .go (congrArg Act.goes (if_pos (hP.2 h))) ?_
    rw [List.append_assoc]
    exact hbody h
  · next h => exact .go (congrArg Act.goes (if_neg (mt hP.1 h))) (hend h)

end Tests

theorem act_accept_of_ne {want : Kind} (h : k ≠ want) :
    (accept want).act k = .fails (.kind want) := if_neg h

theorem Meets.accept {want : Kind} {rest : List Symbol} (h : Stands more (rest ++ s)) :
    Meets k (accept want :: more)
      ((if k = want then Move.shift rest else Move.fail (.kind want)).followedBy s) := by
  split
  · next hk => exact .shift (if_pos hk) h
  · next hk => exact .fail (act_accept_of_ne hk)

/-! ## The procedures follow the table -/

theorem followedBy_followedBy (m : Move) (s t : List Symbol) :
    (m.followedBy s).followedBy t = m.followedBy (s ++ t) := by
  cases m <;> simp [Move.followedBy]

theorem meets_primary (h : Stands more s) :
    Meets k (.call primary :: more) ((primaryMove k).followedBy s) := by
  refine .call ?_
  unfold primaryMove
  split
  · exact .choose rfl (.advance (.cons optSelector h))
  · exact .otherwise nofun (.choose rfl (.advance (.cons .expr (.cons (token .rightParen) h))))
  · next hid hparen =>
    refine .otherwise (by simpa using hid) (.otherwise (by simpa using hparen) ?_)
    exact .choice .rfl (fun _ => .advance h) fun _ => .fail rfl

theorem meets_unary (h : Stands more s) :
    Meets k (loop isUnaryOp [.advance] :: .call primary :: more) ((unaryMove k).followedBy s) :=
  .loop .rfl (fun _ => .advance (.cons .unary h)) fun _ => meets_primary h

theorem meets_expr (h : Stands more s) :
    Meets k (.call .expr :: more) ((exprMove k).followedBy s) := by
  rw [exprMove, followedBy_followedBy]
  refine .call (.call (meets_unary ?_))
  exact .call _ (.cons operands (.cons optComparison h))

theorem meets_param (h : Stands more s) :
    Meets k (.call paramDecl :: more) ((paramMove k).followedBy s) := by
  refine .call (.choice .rfl (fun _ => .advance (.call _ ?_)) fun _ => .fail rfl)
  exact .cons (token .identifier) (.cons optArraySize h)

theorem meets_block (h : Stands more s) :
    Meets k (.call compoundStmt :: more) ((blockMove k).followedBy s) :=
  .call (.accept (.cons locals (.cons statements (.cons (token .rightBrace) h))))

theorem meets_arglist (h : Stands more s) :
    Meets k (.call arglist :: more) ((if k = .leftParen then shift [optArgs, token .rightParen]
      else fail (.kind .leftParen)).followedBy s) :=
  .call (.accept (.cons optArgs (.cons (token .rightParen) h)))

theorem meets_statement (h : Stands more s) :
    Meets k (.call stmt :: more) ((statementMove k).followedBy s) := by
  have hcondition {code : List Instruction} {t : List Symbol} (h : Stands code t) :
      Stands (accept .leftParen :: .call .expr :: accept .rightParen :: .call stmt :: code)
        (token .leftParen :: .expr :: token .rightParen :: statement :: t) :=
    .cons (token .leftParen) (.cons .expr (.cons (token .rightParen) (.cons statement h)))
  refine .call ?_
  unfold statementMove
  split
  · exact .choose rfl (meets_block h)
  · exact .otherwise nofun (.choose rfl (.call (.advance (hcondition (.cons elses h)))))
  · exact .otherwise nofun (.otherwise nofun (.choose rfl (.call (.advance (hcondition h)))))
  · refine .otherwise nofun (.otherwise nofun (.otherwise nofun (.choose rfl (.call ?_))))
    exact .advance <| .cons (token .leftParen) <| .cons optAssignment <|
      .cons (token .semicolon) <| .cons .optExpr <| .cons (token .semicolon) <|
      .cons optAssignment <| .cons (token .rightParen) <| .cons statement h
  · refine .otherwise nofun (.otherwise nofun (.otherwise nofun (.otherwise nofun ?_)))
    exact .choose rfl (.advance (.cons .optExpr (.cons (token .semicolon) h)))
  · refine .otherwise nofun (.otherwise nofun (.otherwise nofun (.otherwise nofun ?_)))
    exact .otherwise nofun (.choose rfl (.advance (.cons nameTail (.cons (token .semicolon) h))))
  · next h1 h2 h3 h4 h5 h6 =>
    refine .otherwise (by simpa using h1) <| .otherwise (by simpa using h2) <| ?_
    refine .otherwise (by simpa using h3) <| .otherwise (by simpa using h4) <| ?_
    exact .otherwise (by simpa using h5) <| .otherwise (by simpa using h6) <| .fail rfl

/-- **The procedures follow the table.** -/
theorem meets_predict {x : Symbol} (hx : x.isProper) (h : Stands more s) :
    Meets k (x.code ++ more) ((predict x k).followedBy s) := by
  have heq (want : Kind) : decide (k = want) = true ↔ k = want := decide_eq_true_iff
  cases x with
  | token want =>
    -- The table refuses the end of input and errors; no proper symbol asks for either.
    have hwant : (k = want && k ≠ .eof && k ≠ .error) = true ↔ k = want := by
      refine ⟨fun hk => by simp_all, ?_⟩
      rintro rfl
      cases k <;> first | rfl | cases hx
    simp only [predict, hwant]
    exact .accept h
  | definitions =>
    refine .loop .rfl (fun _ => .advance ?_) fun _ => .expand h
    exact .cons (token .identifier) (.cons definitionTail (.cons definitions h))
  | finish => exact .choice (heq _) (fun _ => .expand h) fun _ => .fail rfl
  | definitionTail =>
    refine .choice (heq _) (fun _ => .call (.advance ?_)) fun _ => .expand (.call _ ?_)
    · exact .cons optParams (.cons (token .rightParen) (.cons block h))
    · exact .cons optArraySize (.cons optInitializer (.cons moreDeclarators
        (.cons (token .semicolon) h)))
  | optParams =>
    refine .choice .rfl (fun _ => .call ?_) fun _ => .expand h
    rw [followedBy_followedBy]
    exact meets_param (.cons moreParams h)
  | moreParams =>
    exact .loop (heq _) (fun _ => .advance (.cons param (.cons moreParams h))) fun _ => .expand h
  | param => exact meets_param h
  | optArraySize =>
    refine .call (.choice (heq _) (fun _ => .advance ?_) fun _ => .expand h)
    exact .cons (token .intLiteral) (.cons (token .rightBracket) h)
  | optInitializer =>
    exact .choice (heq _) (fun _ => .advance (.cons .initializer h)) fun _ => .expand h
  | moreDeclarators =>
    refine .loop (heq _) (fun _ => .advance (.call _ (.call _ ?_))) fun _ => .expand h
    exact .cons (token .identifier) (.cons optArraySize (.cons optInitializer
      (.cons moreDeclarators h)))
  | initializer =>
    refine .call (.choice .rfl (fun _ => meets_expr h) fun _ => ?_)
    refine .choice (heq _) (fun _ => .advance ?_) fun _ => .fail rfl
    exact .cons .expr (.cons moreExprs (.cons (token .rightBrace) h))
  | moreExprs =>
    exact .loop (heq _) (fun _ => .advance (.cons .expr (.cons moreExprs h))) fun _ => .expand h
  | block => exact meets_block h
  | locals =>
    refine .loop .rfl (fun _ => .advance (.cons (token .identifier) (.call _ ?_)))
      fun _ => .expand h
    exact .cons optArraySize (.cons optInitializer (.cons moreDeclarators
      (.cons (token .semicolon) (.cons locals h))))
  | statements =>
    refine .loop .rfl (fun _ => ?_) fun _ => .expand h
    rw [followedBy_followedBy]
    exact meets_statement (.cons statements h)
  | statement => exact meets_statement h
  | nameTail =>
    refine .choice (heq _) (fun _ => .advance (.cons .expr h)) fun _ => ?_
    refine .choice (heq _) (fun _ => .advance ?_) fun _ => meets_arglist h
    exact .cons .expr (.cons (token .rightBracket) (.cons (token .assign) (.cons .expr h)))
  | elses =>
    exact .loop (heq _) (fun _ => .advance (.cons statement (.cons elses h))) fun _ => .expand h
  | optAssignment =>
    refine .call (.choice (heq _) (fun _ => .advance ?_) fun _ => .expand h)
    exact .cons (token .assign) (.cons .expr h)
  | optExpr => exact .choice .rfl (fun _ => meets_expr h) fun _ => .expand h
  | optArgs =>
    refine .choice .rfl (fun _ => ?_) fun _ => .expand h
    rw [followedBy_followedBy]
    exact meets_expr (.cons moreExprs h)
  | expr => exact meets_expr h
  | optComparison =>
    refine .choice .rfl (fun _ => .advance ?_) fun _ => .expand h
    exact .cons .expr (.call _ (.cons operands h))
  | operands =>
    refine .loop .rfl (fun _ => .advance ?_) fun _ => .expand h
    exact .call _ (.cons .unary (.cons operands h))
  | unary => exact meets_unary h
  | optSelector =>
    refine .choice (heq _) (fun hk => ?_) fun _ => ?_
    · subst hk
      exact meets_arglist h
    · refine .choice (heq _) (fun _ => .advance ?_) fun _ => .expand h
      exact .cons .expr (.cons (token .rightBracket) h)

end Meets

/-! ## A run by the table is one by the procedures -/

namespace Recognizer

variable {ρ : Type} {r r' : Recognizer ρ} {code : List Instruction} {s s' : List Symbol}
  {ts : List Token}

/-- Calls alone lead to what is left for the symbol on top. -/
theorem exists_performs_code {x : Symbol} (r : Recognizer ρ) (h : Stands code (x :: s)) :
    ∃ more, Performs r code [] r (x.code ++ more) ∧ Stands more s := by
  generalize hxs : x :: s = t at h
  induction h with
  | nil => cases hxs
  | cons y h _ =>
    cases hxs
    exact ⟨_, .refl r _, h⟩
  | call p _ ih =>
    obtain ⟨more, hperforms, hmore⟩ := ih hxs
    exact ⟨more, .go rfl hperforms, hmore⟩

theorem performs_nil (r : Recognizer ρ) (h : Stands code []) : Performs r code [] r [] := by
  generalize hnil : ([] : List Symbol) = t at h
  induction h with
  | nil => exact .refl r []
  | cons => cases hnil
  | call p _ ih => exact .go rfl (ih hnil)

/-- Running the instructions makes the move of the table, and what they are left with stands for
the symbols that the move puts on the stack. -/
def Makes (r : Recognizer ρ) (code : List Instruction) : Move → Prop
  | .shift s => ∃ more, Performs r code [r.lookahead] r.advance more ∧ Stands more s
  | .expand s => ∃ more, Performs r code [] r more ∧ Stands more s
  | .fail e => ∃ c more, Performs r code [] r (c :: more) ∧ c.act r.lookahead.kind = .fails e

theorem Makes.of_performs {more : List Instruction} {m : Move} (hm : Makes r more m)
    (h : Performs r code [] r more) : Makes r code m := by
  cases m with
  | shift s => exact hm.imp fun _ hm => ⟨h.trans hm.1, hm.2⟩
  | expand s => exact hm.imp fun _ hm => ⟨h.trans hm.1, hm.2⟩
  | fail e =>
    obtain ⟨c, more, hm, hc⟩ := hm
    exact ⟨c, more, h.trans hm, hc⟩

theorem makes_of_meets {m : Move} (h : Meets r.lookahead.kind code m) : Makes r code m := by
  induction h with
  | shift hc hs => exact ⟨_, .take hc (.refl _ _), hs⟩
  | expand hs => exact ⟨_, .refl r _, hs⟩
  | fail hc => exact ⟨_, _, .refl r _, hc⟩
  | go hc _ ih => exact ih.of_performs (.go hc (.refl r _))

/-- What the table does with the symbol on top, the instructions for the stack do. -/
theorem makes_predict {after : Kind → Bool} {x : Symbol} {m : Move}
    (hp : predict x r.lookahead.kind = m) (hs : fits after (x :: s)) (h : Stands code (x :: s)) :
    Makes r code (m.followedBy s) := by
  subst hp
  obtain ⟨more, hcode, hmore⟩ := exists_performs_code r h
  exact (makes_of_meets (meets_predict (fits_cons_iff.1 hs).1 hmore)).of_performs hcode

/-- **A run by the table is one by the procedures.** It takes the same tokens, and the procedures
are left with what the stack stands for. -/
theorem Reaches.performs {after : Kind → Bool} (h : Reaches r s ts r' s') (hs : MiniC.fits after s)
    (hcode : Stands code s) : ∃ more, Performs r code ts r' more ∧ Stands more s' := by
  induction h generalizing code with
  | refl r s => exact ⟨code, .refl r code, hcode⟩
  | @shift r r' x rest s s' ts hp _ ih =>
    obtain ⟨more, hstep, hmore⟩ := makes_predict hp hs hcode
    obtain ⟨more', hrun, hmore'⟩ := ih (fits_of_shift hs hp) hmore
    exact ⟨more', hstep.trans hrun, hmore'⟩
  | @expand r r' x rest s s' ts hp _ ih =>
    obtain ⟨more, hstep, hmore⟩ := makes_predict hp hs hcode
    obtain ⟨more', hrun, hmore'⟩ := ih (fits_of_expand hs hp) hmore
    exact ⟨more', hstep.trans hrun, hmore'⟩

theorem stands_wholeProgram : Stands wholeProgram [.definitions, .finish] :=
  .call _ (.cons definitions (.cons finish .nil))

variable [Reporter ρ]

/-- **A recognition by the procedures ends** where the one by the table does, with the same
tokens and the same verdict. -/
theorem exists_performs_recognition (r : Recognizer ρ) : ∃ ts r' code,
    Performs r.advance wholeProgram ts r' code ∧
      r.scanned = ts ++ [r'.lookahead] ∧ (∀ t ∈ ts, t.kind ≠ .eof ∧ t.kind ≠ .error) ∧
      ((code = [] ∧ r.recognize = (.accepted, r')) ∨
        ∃ c more e, code = c :: more ∧ c.act r'.lookahead.kind = .fails e ∧
          r.recognize = r'.reject e) := by
  obtain ⟨ts, r', s', hr, hend⟩ := r.recognize_cases
  obtain ⟨code, hperforms, hcode⟩ := hr.performs fits_program_stack stands_wholeProgram
  rcases hend with ⟨rfl, heffects, hrec⟩ | ⟨x, t, e, rfl, hp, heffects, hrec⟩
  · have hdone := hperforms.trans (performs_nil r' hcode)
    rw [List.append_nil] at hdone
    refine ⟨ts, r', [], hdone, ?_, fun t ht => hr.kind_ne ht, .inl ⟨rfl, hrec⟩⟩
    rw [scanned, heffects, filterMap_scan]
  · obtain ⟨c, more, hlast, hfail⟩ := makes_predict hp (hr.fits fits_program_stack) hcode
    have hdone := hperforms.trans hlast
    rw [List.append_nil] at hdone
    refine ⟨ts, r', c :: more, hdone, ?_, fun t ht => hr.kind_ne ht,
      .inr ⟨c, more, e, rfl, hfail, hrec⟩⟩
    rw [scanned, heffects, List.filterMap_append, filterMap_scan]
    exact List.append_nil _

/-- A recognition scans a first part of the tokens. -/
theorem scanned_prefix (r : Recognizer ρ) : r.scanned <+: r.scanner.scanAll.1 := by
  obtain ⟨ts, r', s', hr, hscanned, -⟩ := r.recognize_scans
  rw [hscanned, ← hr.take_succ_pending, pending_advance]
  exact List.take_prefix _ _

end Recognizer

/-- **Recognition ends.** The named procedures take a token before they are completed, and so does
every round of a loop; whatever leads from the body of a procedure to another call of it takes one
as well. A recognition by the procedures ends where the one by the table does, and every other run
of it is a first part of that. It takes no end of input and no error, and scans one token more than
it takes, which is no more than the source has. -/
theorem recognition_ends {ρ : Type} [Reporter ρ] :
    (∀ p ∈ [Procedure.expr, .unary, .primary, .arglist, .stmt, .compoundStmt, .initializer,
        .paramDecl, .initDecl], ∀ (r r' : Recognizer ρ) (ts : List Token),
      r.Performs [call p] ts r' [] → ts ≠ []) ∧
    (∀ p : Procedure, ∀ body ∈ loopsIn p.body, ∀ (r r' : Recognizer ρ) (ts : List Token),
      r.Performs body ts r' [] → ts ≠ []) ∧
    (∀ (p : Procedure) (r r' : Recognizer ρ) (ts : List Token) (more : List Instruction),
      r.Performs p.body ts r' (call p :: more) → ts ≠ []) ∧
    (∀ r : Recognizer ρ, ∃ ts r' code, r.advance.Performs wholeProgram ts r' code ∧
      ((code = [] ∧ r.recognize = (.accepted, r')) ∨
        ∃ c more e, code = c :: more ∧ c.act r'.lookahead.kind = .fails e ∧
          r.recognize = r'.reject e) ∧
      (∀ (ts' : List Token) (r'' : Recognizer ρ) (code' : List Instruction),
        r.advance.Performs wholeProgram ts' r'' code' →
          ∃ rest, ts = ts' ++ rest ∧ r''.Performs code' rest r' code) ∧
      (∀ t ∈ ts, t.kind ≠ .eof ∧ t.kind ≠ .error) ∧
      r' = Recognizer.advance^[ts.length + 1] r ∧ r.scanned = ts ++ [r'.lookahead]) ∧
    ∀ (source : String) (reporter : ρ),
      (Recognizer.ofText source reporter).scanned.length ≤ (tokenize source).1.length := by
  refine ⟨?_, ?_, ?_, ?_, ?_⟩
  · intro p hp r r' ts h
    refine h.ne_nil_of_consumes ?_
    have hall : ∀ p ∈ [Procedure.expr, .unary, .primary, .arglist, .stmt, .compoundStmt,
        .initializer, .paramDecl, .initDecl], consumesAny [call p] := by decide
    exact hall p hp
  · intro p body hbody r r' ts h
    exact h.ne_nil_of_consumes (consumesAny_of_mem_loopsIn hbody)
  · intro p r r' ts more h
    exact h.ne_nil_of_call
  · intro r
    obtain ⟨ts, r', code, hperforms, hscanned, hkinds, hverdict⟩ :=
      r.exists_performs_recognition
    refine ⟨ts, r', code, hperforms, hverdict, ?_, hkinds, ?_, hscanned⟩
    · intro ts' r'' code' h
      refine hperforms.exists_rest ?_ h
      rintro c more rfl
      rcases hverdict with ⟨hnil, -⟩ | ⟨c', more', e, hcons, hfail, -⟩
      · cases hnil
      · obtain ⟨rfl, -⟩ := List.cons.inj hcons
        exact ⟨e, hfail⟩
    · rw [Function.iterate_succ_apply]
      exact hperforms.eq_iterate
  · intro source reporter
    exact (Recognizer.scanned_prefix _).length_le

/-- At `(1)` the procedure for an operand takes the parenthesis before it calls itself, and the
digit before it comes back. -/
theorem recognition_ends_parens :
    let r : Recognizer Collected := ⟨⟨⟨['1', ')'], ⟨1, 2⟩⟩, []⟩, ⟨.leftParen, "", default⟩, {}⟩
    let one := r.advance
    (r.Performs primary.body [r.lookahead] one [call primary, call operandRun,
        choice isRelationalOp [advance, call .expr, call operandRun] [], accept .rightParen] ∧
      [r.lookahead] ≠ []) ∧
    (one.Performs [call primary] [one.lookahead] one.advance [] ∧ [one.lookahead] ≠ []) ∧
    ([advance] ∈ loopsIn unary.body ∧ r.Performs [advance] [r.lookahead] one [] ∧
      [r.lookahead] ≠ []) ∧
    (Recognizer.ofText "(1)" ({} : Collected)).scanned.length ≤ (tokenize "(1)").1.length := by
  intro r one
  have hone : one.lookahead.kind = .intLiteral := by cbv
  have hact (c : Instruction) : c.act one.lookahead.kind = c.act .intLiteral := by rw [hone]
  have hcall : r.Performs primary.body [r.lookahead] one [call primary, call operandRun,
      choice isRelationalOp [advance, call .expr, call operandRun] [], accept .rightParen] :=
    .go rfl (.go rfl (.take rfl (.go rfl (.go rfl (.go (hact _) (.refl _ _))))))
  have hdone : one.Performs [call primary] [one.lookahead] one.advance [] :=
    .go rfl (.go (hact _) (.go (hact _) (.go (hact _) (.take rfl (.refl _ _)))))
  have hround : r.Performs [advance] [r.lookahead] one [] := .take rfl (.refl _ _)
  have hloop : [advance] ∈ loopsIn unary.body := List.mem_cons_self
  obtain ⟨hcalls, hrounds, hcircles, -, hscans⟩ := recognition_ends (ρ := Collected)
  exact ⟨⟨hcall, hcircles _ _ _ _ _ hcall⟩, ⟨hdone, hcalls _ (by decide) _ _ _ hdone⟩,
    ⟨hloop, hround, hrounds _ _ hloop _ _ _ hround⟩, hscans _ _⟩

end MiniC
