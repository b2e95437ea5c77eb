import MiniC.Diagnostic

/-!
# The prediction table

The recogniser keeps a stack of symbols: what the rest of the program still has to supply. For
the symbol on top, one token of lookahead decides the move.

* `shift`: take the lookahead and expect the given symbols in place of this one.
* `expand`: expect the given symbols in place of this one, without taking anything. An optional
  part that is absent expands to nothing.
* `fail`: the lookahead cannot stand here; the expectation says what could have.

**Greedy choices.** An optional or repeated part is entered whenever the lookahead can begin it.
So each `else` goes to the innermost open `if`, and each operator to the innermost open
expression.

The end of input and an error token are never taken (`ne_of_shift`), and an expansion is always
lighter than its symbol (`weight_lt_of_expand`): the two facts that bound a run.
-/

namespace MiniC

/-- What the program could have gone on with. -/
inductive Expectation where
  | kind (k : Kind)
  | typeSpecifier | statement | expression | initializer
  | endOfProgram
deriving DecidableEq

/-- The report that `found` does not meet the expectation. -/
def Expectation.report (e : Expectation) (found : Token) : Report :=
  match e with
  | kind k => ⟨"\"%\" expected here", k.spelling, found.span⟩
  | typeSpecifier => ⟨"type specifier expected here, found \"%\"", found.text, found.span⟩
  | statement => ⟨"statement expected here, found \"%\"", found.text, found.span⟩
  | expression => ⟨"expression expected here, found \"%\"", found.text, found.span⟩
  | initializer => ⟨"initializer expected here, found \"%\"", found.text, found.span⟩
  | endOfProgram => ⟨"\"%\" not expected after end of program", found.text, found.span⟩

/-- What can be expected next. Names in the plural, and those with `opt`, may stand for nothing. -/
inductive Symbol where
  | token (k : Kind)
  /-- Definitions through the end of the program. -/
  | definitions
  /-- Nothing may follow. -/
  | finish
  /-- A definition after its type and name. -/
  | definitionTail
  | optParams | moreParams | param
  | optArraySize | optInitializer | moreDeclarators
  | initializer
  /-- Further expressions, each after a comma. -/
  | moreExprs
  | block | locals | statements | statement
  /-- A statement after the name it begins with. -/
  | nameTail
  | elses
  | optAssignment | optExpr | optArgs
  | expr
  /-- A comparison after its left-hand side. -/
  | optComparison
  /-- Further operands, each after a binary operator. -/
  | operands
  | unary
  /-- An operand after the name it begins with. -/
  | optSelector
deriving DecidableEq

/-- What to do with the symbol on top. -/
inductive Move where
  | shift (rest : List Symbol)
  | expand (rest : List Symbol)
  | fail (e : Expectation)
deriving DecidableEq

namespace Move

/-- The move that is followed by further symbols. -/
def followedBy (more : List Symbol) : Move → Move
  | shift rest => shift (rest ++ more)
  | expand rest => expand (rest ++ more)
  | fail e => fail e

/-- Takes nothing and expects nothing. -/
def skip : Move := expand []

end Move

open MiniC.Symbol Move Kind

/-! ## Expressions -/

/-- An operand without signs. -/
def primaryMove (k : Kind) : Move :=
  match k with
  | .identifier => shift [optSelector]
  | .leftParen => shift [expr, token .rightParen]
  | _ => if k.isLiteral then shift [] else fail .expression

def unaryMove (k : Kind) : Move := if k.isUnaryOp then shift [unary] else primaryMove k

def exprMove (k : Kind) : Move := (unaryMove k).followedBy [operands, optComparison]

/-! ## Definitions and statements -/

def paramMove (k : Kind) : Move :=
  if k.isTypeSpecifier then shift [token .identifier, optArraySize] else fail .typeSpecifier

def blockMove (k : Kind) : Move :=
  if k = .leftBrace then shift [locals, statements, token .rightBrace] else fail (.kind .leftBrace)

def statementMove (k : Kind) : Move :=
  match k with
  | .leftBrace => blockMove k
  | .kwIf => shift [token .leftParen, expr, token .rightParen, statement, elses]
  | .kwWhile => shift [token .leftParen, expr, token .rightParen, statement]
  | .kwFor =>
    shift [token .leftParen, optAssignment, token .semicolon, optExpr, token .semicolon,
      optAssignment, token .rightParen, statement]
  | .kwReturn => shift [optExpr, token .semicolon]
  | .identifier => shift [nameTail, token .semicolon]
  | _ => fail .statement

/-! ## The table -/

/-- The move for the symbol on top at a lookahead of kind `k`. -/
def predict (x : Symbol) (k : Kind) : Move :=
  match x with
  | token want => if k = want && k ≠ .eof && k ≠ .error then shift [] else fail (.kind want)
  | definitions =>
    if k.isTypeSpecifier then shift [token .identifier, definitionTail, definitions] else skip
  | finish => if k = .eof then skip else fail .endOfProgram
  | definitionTail =>
    if k = .leftParen then shift [optParams, token .rightParen, block]
    else expand [optArraySize, optInitializer, moreDeclarators, token .semicolon]
  | optParams => if k.isTypeSpecifier then (paramMove k).followedBy [moreParams] else skip
  | moreParams => if k = .comma then shift [param, moreParams] else skip
  | param => paramMove k
  | optArraySize =>
    if k = .leftBracket then shift [token .intLiteral, token .rightBracket] else skip
  | optInitializer => if k = .assign then shift [initializer] else skip
  | moreDeclarators =>
    if k = .comma then shift [token .identifier, optArraySize, optInitializer, moreDeclarators]
    else skip
  | initializer =>
    if k.startsExpr then exprMove k
    else if k = .leftBrace then shift [expr, moreExprs, token .rightBrace]
    else fail .initializer
  | moreExprs => if k = .comma then shift [expr, moreExprs] else skip
  | block => blockMove k
  | locals =>
    if k.isTypeSpecifier then
      shift [token .identifier, optArraySize, optInitializer, moreDeclarators, token .semicolon,
        locals]
    else skip
  | statements => if k.startsStmt then (statementMove k).followedBy [statements] else skip
  | statement => statementMove k
  | nameTail =>
    if k = .assign then shift [expr]
    else if k = .leftBracket then shift [expr, token .rightBracket, token .assign, expr]
    else if k = .leftParen then shift [optArgs, token .rightParen]
    else fail (.kind .leftParen)
  | elses => if k = .kwElse then shift [statement, elses] else skip
  | optAssignment => if k = .identifier then shift [token .assign, expr] else skip
  | optExpr => if k.startsExpr then exprMove k else skip
  | optArgs => if k.startsExpr then (exprMove k).followedBy [moreExprs] else skip
  | expr => exprMove k
  | optComparison => if k.isRelationalOp then shift [expr, operands] else skip
  | operands => if k.isBinaryOp then shift [unary, operands] else skip
  | unary => unaryMove k
  | optSelector =>
    if k = .leftParen then shift [optArgs, token .rightParen]
    else if k = .leftBracket then shift [expr, token .rightBracket]
    else skip

/-! ## What bounds a run -/

/-- The end of input and errors are never taken. -/
theorem ne_of_shift {x : Symbol} {k : Kind} {rest : List Symbol} (h : predict x k = shift rest) :
    k ≠ .eof ∧ k ≠ .error := by
  constructor <;> rintro rfl <;> cases x <;> simp [predict] at h <;> cases h

/-- How many expansions a symbol can still go through. -/
def Symbol.weight : Symbol → Nat
  | definitionTail => 5
  | _ => 1

/-- The weight of a stack. -/
def weight : List Symbol → Nat
  | [] => 0
  | x :: s => x.weight + weight s

theorem weight_append (s t : List Symbol) : weight (s ++ t) = weight s + weight t := by
  induction s with
  | nil => simp [weight]
  | cons x s ih => simp [weight, ih, Nat.add_assoc]

theorem weight_cons (x : Symbol) (s : List Symbol) : weight (x :: s) = x.weight + weight s := rfl

@[simp] theorem primaryMove_ne_expand (k : Kind) (rest : List Symbol) :
    primaryMove k ≠ expand rest := by
  unfold primaryMove
  repeat' split
  all_goals nofun

@[simp] theorem unaryMove_ne_expand (k : Kind) (rest : List Symbol) :
    unaryMove k ≠ expand rest := by
  unfold unaryMove
  split <;> simp

theorem followedBy_ne_expand {m : Move} (hm : ∀ rest, m ≠ expand rest) (more rest : List Symbol) :
    m.followedBy more ≠ expand rest := by
  cases m with
  | expand r => exact absurd rfl (hm r)
  | shift r => nofun
  | fail e => nofun

@[simp] theorem exprMove_ne_expand (k : Kind) (rest : List Symbol) : exprMove k ≠ expand rest :=
  followedBy_ne_expand (unaryMove_ne_expand k) _ rest

@[simp] theorem paramMove_ne_expand (k : Kind) (rest : List Symbol) :
    paramMove k ≠ expand rest := by
  unfold paramMove
  split <;> nofun

@[simp] theorem blockMove_ne_expand (k : Kind) (rest : List Symbol) :
    blockMove k ≠ expand rest := by
  unfold blockMove
  split <;> nofun

@[simp] theorem statementMove_ne_expand (k : Kind) (rest : List Symbol) :
    statementMove k ≠ expand rest := by
  unfold statementMove
  split <;> simp

/-- An expansion is lighter than its symbol. -/
theorem weight_lt_of_expand {x : Symbol} {k : Kind} {rest : List Symbol}
    (h : predict x k = expand rest) : weight rest < x.weight := by
  cases x <;> simp only [predict] at h <;> repeat' split at h
  all_goals simp_all [skip, followedBy_ne_expand]
  all_goals subst h; simp [weight, Symbol.weight]

end MiniC
