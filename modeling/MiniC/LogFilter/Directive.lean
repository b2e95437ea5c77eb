import MiniC.Log
import MiniC.LogFilter.Field
import MiniC.Text.Bytes

/-!
# Directives

A directive gives a level to a target, to a span, to a field, or to everything. It is written as
`target[span{field}]=level`, where each part may be missing: a bare word is a level if it
names one and otherwise a target with everything about it. Level names are read in any letter
case, and as numbers from zero.

**Blanks.** Blanks around a directive are not read over, but they count: the parts are cut out of
the whole text at the places that they have without the blanks in front.

**Specificity.** Directives are ordered by how much they say. A longer target says more, then a
span, then a field; what is equally specific goes by the letters. The level does not count, so two
directives can be equal and differ in their level.
-/

namespace MiniC

/-- The level named by a number, in the order of the levels. A plus sign may precede it. -/
def Level.ofNumber? (cs : List Char) : Option Level :=
  (Numeral.unsigned? cs).bind (Level.all[·]?)

/-- The level named by a word or a number. -/
def Level.ofText? (cs : List Char) : Option Level :=
  Level.ofNumber? cs <|> Level.all.find? (·.name.toList = cs.map Char.toLower)

/-- Why a filter cannot be read. -/
inductive FilterError where
  | malformed
  | level
  | field (fault : Pattern.Fault)
deriving DecidableEq

def FilterError.message : FilterError → String
  | malformed => "invalid filter directive"
  | level => "error parsing level filter: expected one of \"off\", \"error\", \"warn\", " ++
      "\"info\", \"debug\", \"trace\", or a number 0-5"
  | field fault => "invalid field filter: " ++ fault.message

structure Directive where
  target : Option String := none
  span : Option String := none
  field : Option Field := none
  level : Level := .trace
deriving DecidableEq, Inhabited

namespace Directive

def render (d : Directive) : String :=
  let field := d.field.elim "" fun f => "\x7b" ++ f.render ++ "\x7d"
  let within := d.span.isSome || d.field.isSome
  let brackets := if within then "[" ++ d.span.getD "" ++ field ++ "]" else ""
  if d.target.isSome || within then d.target.getD "" ++ brackets ++ "=" ++ d.level.name
  else d.level.name

/-! ## Reading -/

/-- The part of a directive that is being read, and the byte it starts at. -/
inductive Part where
  | start
  | word
  | span (start : Nat)
  | field (start : Nat)
  | afterField
  | afterSpan
  | level (start : Nat)
deriving DecidableEq, Inhabited

/-- What a directive may begin with, a span apart. -/
def canStart (c : Char) : Bool := isAlphanumeric c || c = '-' || c = ':' || c = '_'

/-- A directive read so far: the part at hand and the byte it has come to. -/
structure Draft where
  part : Part := .start
  position : Nat := 0
  directive : Directive := {}

/-- Reads one character more of a directive that is cut out of `text`. -/
def step (text : List Char) (d : Draft) (c : Char) : Except FilterError Draft :=
  let i := d.position
  let after := i + c.utf8Size
  let piece (start : Nat) : List Char := bytesBetween start i text
  let goOn (part : Part) (directive : Directive) : Except FilterError Draft :=
    .ok ⟨part, after, directive⟩
  match d.part with
  | .start =>
    if c = '[' then goOn (.span after) d.directive
    else if canStart c then goOn .word d.directive
    else .error .malformed
  | .word =>
    let named : Directive := { d.directive with target := some (String.ofList (piece 0)) }
    if c = '=' then goOn (.level after) named
    else if c = '[' then goOn (.span after) named
    else goOn .word d.directive
  | .span start =>
    let name := String.ofList (piece start)
    if c = ']' then goOn .afterSpan { d.directive with span := some name }
    else if c = '\x7b' then
      goOn (.field after) { d.directive with span := if name.isEmpty then none else some name }
    else goOn (.span start) d.directive
  | .field start =>
    if c = '\x7d' then
      match piece start with
      | [] => .error .malformed
      | cs =>
        match Field.parse cs with
        | .ok field => goOn .afterField { d.directive with field := some field }
        | .error fault => .error (.field fault)
    else goOn (.field start) d.directive
  | .afterField => if c = ']' then goOn .afterSpan d.directive else .error .malformed
  | .afterSpan => if c = '=' then goOn (.level after) d.directive else .error .malformed
  | .level start => goOn (.level start) d.directive

/-- The directive of a text that has been read to its end. -/
def finish (text : List Char) (d : Draft) : Except FilterError Directive :=
  match d.part with
  | .word =>
    match Level.ofText? text with
    | some level => .ok { d.directive with level }
    | none => .ok { d.directive with target := some (String.ofList text) }
  | .level start =>
    match dropBytes start text with
    | [] => .ok d.directive
    | cs =>
      match Level.ofText? cs with
      | some level => .ok { d.directive with level }
      | none => .error .level
  | .afterSpan => .ok d.directive
  | .start | .span _ | .field _ | .afterField => .error .malformed

/-- The text without the blanks around it. -/
def trim (cs : List Char) : List Char :=
  ((cs.dropWhile isSpacing).reverse.dropWhile isSpacing).reverse

def parse (text : List Char) : Except FilterError Directive := do
  finish text (← (trim text).foldlM (step text) {})

/-! ## Specificity -/

/-- Whether the directive can be decided without looking at values: it has no span, and its field
has no value. -/
def isStatic (d : Directive) : Bool := d.span.isNone && !(d.field.any (·.value.isSome))

/-- Whether the directive asks for a span or a field. -/
def isDynamic (d : Directive) : Bool := d.span.isSome || d.field.isSome

/-- The order of things that may be missing, the missing first. -/
def orderOption {α : Type} (order : α → α → Ordering) : Option α → Option α → Ordering
  | none, none => .eq
  | none, some _ => .lt
  | some _, none => .gt
  | some a, some b => order a b

/-- The order of directives, the less specific first. -/
def order (a b : Directive) : Ordering :=
  (orderOption (fun s t => compare s.utf8ByteSize t.utf8ByteSize) a.target b.target).then <|
    (compare a.span.isSome b.span.isSome).then <|
    (compare a.field.isSome b.field.isSome).then <|
    (orderOption compare a.target b.target).then <|
    (orderOption compare a.span b.span).then <|
    orderOption Field.order a.field b.field

end Directive

end MiniC
