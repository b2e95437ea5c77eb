import MiniC.Token.Kind

/-!
# The grammar of MiniC

The grammar is written as it is documented, one form for each nonterminal. A form derives the
sequences of token kinds it describes; nothing is said about how to find a derivation, and a
sequence may have several.

**Ambiguities.** An `else` may belong to any open `if`. A comparison's right-hand side is an
expression again, after which further operators may follow, so they may belong to either. Plus
and minus are signs as well as binary operators.
-/

namespace MiniC

namespace Grammar

inductive Nonterminal where
  | program | funPart | paramsList | paramDecl | declarator
  | varPart | initializer | initDecl
  | compoundStmt | stmt | ifStmt | whileStmt | forStmt | arglist
  | expr | unary | primary
deriving DecidableEq

/-- The shapes a rule is built from. -/
inductive Form where
  | token (k : Kind)
  /-- Any one token of a class. -/
  | oneOf (p : Kind → Bool)
  | rule (n : Nonterminal)
  | seq (a b : Form)
  | alt (a b : Form)
  | opt (a : Form)
  | many (a : Form)

namespace Form

instance : Append Form := ⟨seq⟩
instance : OrOp Form := ⟨alt⟩

/-- One or more `a`, separated by commas. -/
def list (a : Form) : Form := a ++ many (token .comma ++ a)

def parens (a : Form) : Form := token .leftParen ++ a ++ token .rightParen

def brackets (a : Form) : Form := token .leftBracket ++ a ++ token .rightBracket

def braces (a : Form) : Form := token .leftBrace ++ a ++ token .rightBrace

/-- An initial value: `= a`. -/
def assigned (a : Form) : Form := token .assign ++ a

end Form

open Form

def typeSpec : Form := oneOf Kind.isTypeSpecifier
def literal : Form := oneOf Kind.isLiteral
def unaryOp : Form := oneOf Kind.isUnaryOp
def binOp : Form := oneOf Kind.isBinaryOp
def relOp : Form := oneOf Kind.isRelationalOp
def identifier : Form := token .identifier
def semicolon : Form := token .semicolon
def expr : Form := rule .expr
def stmt : Form := rule .stmt
def unary : Form := rule .unary

/-- The brackets of an array: `[ size ]`. -/
def arraySize : Form := brackets (token .intLiteral)

/-- The right-hand side of each nonterminal. -/
def body : Nonterminal → Form
  | .program => many (typeSpec ++ identifier ++ (rule .funPart ||| rule .varPart))
  | .funPart => parens (opt (rule .paramsList)) ++ rule .compoundStmt
  | .paramsList => list (rule .paramDecl)
  | .paramDecl => typeSpec ++ rule .declarator
  | .declarator => identifier ++ opt arraySize
  | .varPart =>
    opt arraySize ++ opt (assigned (rule .initializer)) ++
      many (token .comma ++ rule .initDecl) ++ semicolon
  | .initializer => expr ||| braces (list expr)
  | .initDecl => rule .declarator ++ opt (assigned (rule .initializer))
  | .compoundStmt => braces (many (typeSpec ++ identifier ++ rule .varPart) ++ many stmt)
  | .stmt =>
    rule .compoundStmt ||| rule .ifStmt ||| rule .whileStmt ||| rule .forStmt |||
      (token .kwReturn ++ opt expr ++ semicolon) |||
      (identifier ++ assigned expr ++ semicolon) |||
      (identifier ++ brackets expr ++ assigned expr ++ semicolon) |||
      (identifier ++ rule .arglist ++ semicolon)
  | .ifStmt => token .kwIf ++ parens expr ++ stmt ++ many (token .kwElse ++ stmt)
  | .whileStmt => token .kwWhile ++ parens expr ++ stmt
  | .forStmt =>
    let assignment := opt (identifier ++ assigned expr)
    token .kwFor ++ parens (assignment ++ semicolon ++ opt expr ++ semicolon ++ assignment) ++ stmt
  | .arglist => parens (opt (list expr))
  | .expr => unary ++ many (binOp ++ unary) ++ opt (relOp ++ expr ++ many (binOp ++ unary))
  | .unary => many unaryOp ++ rule .primary
  | .primary =>
    (identifier ++ opt (rule .arglist)) ||| (identifier ++ brackets expr) |||
      parens expr ||| literal

/-- The form `f` describes the sequence of kinds `w`. -/
inductive Derives : Form → List Kind → Prop where
  | token (k : Kind) : Derives (.token k) [k]
  | oneOf {p : Kind → Bool} {k : Kind} : p k → Derives (.oneOf p) [k]
  | rule {n : Nonterminal} {w : List Kind} : Derives (body n) w → Derives (.rule n) w
  | seq {a b : Form} {u v : List Kind} : Derives a u → Derives b v → Derives (.seq a b) (u ++ v)
  | left {a b : Form} {w : List Kind} : Derives a w → Derives (.alt a b) w
  | right {a b : Form} {w : List Kind} : Derives b w → Derives (.alt a b) w
  | absent {a : Form} : Derives (.opt a) []
  | present {a : Form} {w : List Kind} : Derives a w → Derives (.opt a) w
  | done {a : Form} : Derives (.many a) []
  | more {a : Form} {u v : List Kind} :
      Derives a u → Derives (.many a) v → Derives (.many a) (u ++ v)

/-- The sequences of kinds that are programs. -/
def Sentence (w : List Kind) : Prop := Derives (.rule .program) w

/-- The sequences that some program begins with. -/
def Viable (w : List Kind) : Prop := ∃ rest, Sentence (w ++ rest)

end Grammar

end MiniC
