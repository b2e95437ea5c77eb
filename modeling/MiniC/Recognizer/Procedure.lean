import MiniC.Recognizer.Table

/-!
# The recogniser as procedures

The same recogniser as in the prediction table, written as recursive descent: one procedure for
each phrase of the grammar, which takes tokens, calls other procedures, and decides its choices
and loops by one token of lookahead.

What is still to be done is a list of instructions, with the rest of each procedure under the
body of the one it has called. Nothing here says that a run ends, takes no token it has not
looked at, or meets the table: a call may lead back to itself, a loop may go round without
taking anything, and `advance` takes any lookahead, even the end of input.
-/

namespace MiniC

/-- The procedures of the recogniser. -/
inductive Procedure where
  | program | funPart | paramsList | paramDecl | declarator | arraySize
  | varPart | initializer | initDecl
  | compoundStmt | stmt | ifStmt | whileStmt | forStmt | forAssignment | arglist
  | expr
  /-- Further operands, each after a binary operator. -/
  | operandRun
  | unary | primary
deriving DecidableEq

/-- What a procedure can do. -/
inductive Instruction where
  /-- Takes the lookahead without a check. -/
  | advance
  /-- Takes a lookahead of one kind, or fails. -/
  | accept (k : Kind)
  | fail (e : Expectation)
  | call (p : Procedure)
  | choice (test : Kind → Bool) (yes no : List Instruction)
  /-- Does the body again and again, as long as the lookahead passes the test before it. -/
  | loop (test : Kind → Bool) (body : List Instruction)

open Instruction Kind

/-! ## The procedures -/

namespace Procedure

/-- Further things of one sort, each after a comma. -/
def afterCommas (p : Procedure) : Instruction := loop (· = .comma) [advance, call p]

/-- The initial value of a variable, if there is one. -/
def optInitializer : Instruction := choice (· = .assign) [advance, call initializer] []

def optExpr : Instruction := choice startsExpr [call expr] []

/-- What each procedure does. -/
def body : Procedure → List Instruction
  | program =>
    [loop isTypeSpecifier
      [advance, accept .identifier, choice (· = .leftParen) [call funPart] [call varPart]]]
  | funPart =>
    [advance, choice isTypeSpecifier [call paramsList] [], accept .rightParen, call compoundStmt]
  | paramsList => [call paramDecl, afterCommas paramDecl]
  | paramDecl =>
    [choice isTypeSpecifier [] [fail .typeSpecifier], advance, call declarator]
  | declarator => [accept .identifier, call arraySize]
  | arraySize =>
    [choice (· = .leftBracket) [advance, accept .intLiteral, accept .rightBracket] []]
  | varPart => [call arraySize, optInitializer, afterCommas initDecl, accept .semicolon]
  | initializer =>
    [choice startsExpr [call expr]
      [choice (· = .leftBrace) [] [fail .initializer],
        advance, call expr, afterCommas expr, accept .rightBrace]]
  | initDecl => [call declarator, optInitializer]
  | compoundStmt =>
    [accept .leftBrace, loop isTypeSpecifier [advance, accept .identifier, call varPart],
      loop startsStmt [call stmt], accept .rightBrace]
  | stmt =>
    [choice (· = .leftBrace) [call compoundStmt] <|
      [choice (· = .kwIf) [call ifStmt] <|
      [choice (· = .kwWhile) [call whileStmt] <|
      [choice (· = .kwFor) [call forStmt] <|
      [choice (· = .kwReturn) [advance, optExpr, accept .semicolon] <|
      [choice (· = .identifier)
        [advance,
          choice (· = .assign) [advance, call expr] <|
          [choice (· = .leftBracket)
            [advance, call expr, accept .rightBracket, accept .assign, call expr]
            [call arglist]],
          accept .semicolon] <|
      [fail .statement]]]]]]]
  | ifStmt =>
    [advance, accept .leftParen, call expr, accept .rightParen, call stmt,
      loop (· = .kwElse) [advance, call stmt]]
  | whileStmt => [advance, accept .leftParen, call expr, accept .rightParen, call stmt]
  | forStmt =>
    [advance, accept .leftParen, call forAssignment, accept .semicolon, optExpr, accept .semicolon,
      call forAssignment, accept .rightParen, call stmt]
  | forAssignment => [choice (· = .identifier) [advance, accept .assign, call expr] []]
  | arglist =>
    [accept .leftParen, choice startsExpr [call expr, afterCommas expr] [], accept .rightParen]
  | expr =>
    [call unary, call operandRun,
      choice isRelationalOp [advance, call expr, call operandRun] []]
  | operandRun => [loop isBinaryOp [advance, call unary]]
  | unary => [loop isUnaryOp [advance], call primary]
  | primary =>
    [choice (· = .identifier)
      [advance,
        choice (· = .leftParen) [call arglist] <|
        [choice (· = .leftBracket) [advance, call expr, accept .rightBracket] []]] <|
      [choice (· = .leftParen) [advance, call expr, accept .rightParen] <|
      [choice isLiteral [advance] [fail .expression]]]]

end Procedure

/-- A whole program: its definitions, and nothing after them. -/
def Instruction.wholeProgram : List Instruction :=
  [call .program, choice (· = .eof) [] [fail .endOfProgram]]

/-! ## One instruction at a time -/

/-- What an instruction does at a lookahead: it takes it, is replaced by others, or fails. -/
inductive Act where
  | takes
  | goes (code : List Instruction)
  | fails (e : Expectation)

/-- The act of an instruction at a lookahead of kind `k`. -/
def Instruction.act (k : Kind) : Instruction → Act
  | advance => .takes
  | accept want => if k = want then .takes else .fails (.kind want)
  | fail e => .fails e
  | call p => .goes p.body
  | choice test yes no => .goes (if test k then yes else no)
  | loop test body => .goes (if test k then body ++ [loop test body] else [])

end MiniC
