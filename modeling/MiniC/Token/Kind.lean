/-!
# Token kinds

The closed set of kinds a MiniC token can have, how a diagnostic spells each, and the classes
the grammar is written in: type specifiers, literals, operators, and what can begin an
expression or a statement.
-/

namespace MiniC

/-- The kinds of token. `error` marks text that is no token at all. -/
inductive Kind where
  | void | int | bool | float
  | kwIf | kwElse | kwWhile | kwFor | kwReturn
  | intLiteral | floatLiteral | boolLiteral | stringLiteral
  | identifier
  | plus | minus | times | div
  | assign
  | equal | notEqual | less | lessEqual | greater | greaterEqual
  | and | or | not
  | leftBrace | rightBrace | leftBracket | rightBracket | leftParen | rightParen
  | comma | semicolon
  | eof | error
deriving DecidableEq, Inhabited

namespace Kind

/-- Every kind, in the order of the definition. -/
def all : List Kind :=
  [void, int, bool, float, kwIf, kwElse, kwWhile, kwFor, kwReturn,
    intLiteral, floatLiteral, boolLiteral, stringLiteral, identifier,
    plus, minus, times, div, assign,
    equal, notEqual, less, lessEqual, greater, greaterEqual, and, or, not,
    leftBrace, rightBrace, leftBracket, rightBracket, leftParen, rightParen,
    comma, semicolon, eof, error]

/-! ## Spelling -/

/-- How a diagnostic writes a kind: its text where that is fixed, a class in angle brackets
where it is not. -/
def spelling : Kind → String
  | void => "void"
  | int => "int"
  | bool => "bool"
  | float => "float"
  | kwIf => "if"
  | kwElse => "else"
  | kwWhile => "while"
  | kwFor => "for"
  | kwReturn => "return"
  | intLiteral => "<int-literal>"
  | floatLiteral => "<float-literal>"
  | boolLiteral => "<bool-literal>"
  | stringLiteral => "<string-literal>"
  | identifier => "<id>"
  | plus => "+"
  | minus => "-"
  | times => "*"
  | div => "/"
  | assign => "="
  | equal => "=="
  | notEqual => "!="
  | less => "<"
  | lessEqual => "<="
  | greater => ">"
  | greaterEqual => ">="
  | and => "&&"
  | or => "||"
  | not => "!"
  | leftBrace => "\x7b"
  | rightBrace => "\x7d"
  | leftBracket => "["
  | rightBracket => "]"
  | leftParen => "("
  | rightParen => ")"
  | comma => ","
  | semicolon => ";"
  | eof => "<EOF>"
  | error => "<ERROR>"

/-- The name of a kind in the log. -/
def name : Kind → String
  | void => "Void"
  | int => "Int"
  | bool => "Bool"
  | float => "Float"
  | kwIf => "If"
  | kwElse => "Else"
  | kwWhile => "While"
  | kwFor => "For"
  | kwReturn => "Return"
  | intLiteral => "IntLiteral"
  | floatLiteral => "FloatLiteral"
  | boolLiteral => "BoolLiteral"
  | stringLiteral => "StringLiteral"
  | identifier => "Id"
  | plus => "Plus"
  | minus => "Minus"
  | times => "Times"
  | div => "Div"
  | assign => "Assign"
  | equal => "Eq"
  | notEqual => "NotEq"
  | less => "Less"
  | lessEqual => "LessEq"
  | greater => "Greater"
  | greaterEqual => "GreaterEq"
  | and => "And"
  | or => "Or"
  | not => "Not"
  | leftBrace => "LeftBrace"
  | rightBrace => "RightBrace"
  | leftBracket => "LeftBracket"
  | rightBracket => "RightBracket"
  | leftParen => "LeftParen"
  | rightParen => "RightParen"
  | comma => "Comma"
  | semicolon => "Semicolon"
  | eof => "Eof"
  | error => "Error"

/-- The kind with a given log name. -/
def ofName? (s : String) : Option Kind := all.find? (·.name == s)

/-- The reserved words. The two truth values are literals. -/
def keywords : List (String × Kind) :=
  [("void", void), ("int", int), ("bool", bool), ("float", float),
    ("if", kwIf), ("else", kwElse), ("while", kwWhile), ("for", kwFor), ("return", kwReturn),
    ("true", boolLiteral), ("false", boolLiteral)]

/-- The kind of a reserved word, which is case-sensitive. -/
def keyword? (word : String) : Option Kind := keywords.lookup word

/-! ## Classes -/

def isTypeSpecifier : Kind → Bool
  | void | int | bool | float => true
  | _ => false

def isLiteral : Kind → Bool
  | intLiteral | floatLiteral | boolLiteral | stringLiteral => true
  | _ => false

def isUnaryOp : Kind → Bool
  | plus | minus | not => true
  | _ => false

/-- The operators that chain operands on one side of a comparison. -/
def isBinaryOp : Kind → Bool
  | plus | minus | times | div | and | or => true
  | _ => false

/-- The comparisons. -/
def isRelationalOp : Kind → Bool
  | equal | notEqual | less | lessEqual | greater | greaterEqual => true
  | _ => false

/-- Brackets, separators and the remaining operators. -/
def isPunctuation : Kind → Bool
  | assign | not | leftBrace | rightBrace | leftBracket | rightBracket | leftParen | rightParen
  | comma | semicolon => true
  | _ => false

/-- The kinds an expression can begin with. -/
def startsExpr (k : Kind) : Bool :=
  k.isUnaryOp || k.isLiteral || k = identifier || k = leftParen

/-- The kinds a statement can begin with. -/
def startsStmt : Kind → Bool
  | leftBrace | kwIf | kwWhile | kwFor | kwReturn | identifier => true
  | _ => false

/-- Kinds whose text the kind does not determine keep it; operators, punctuation and the end
of input do not. -/
def keepsText (k : Kind) : Bool :=
  !(k.isBinaryOp || k.isRelationalOp || k.isPunctuation || k = eof)

end Kind

end MiniC
