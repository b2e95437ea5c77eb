import MiniC.Number.Numeral
import MiniC.Pattern.Basic

/-!
# Fields of a log filter

A field has a name and may have a value that an event must give it. The value is a truth value, a
number, or else a pattern. Fields have an order: those with a value come after those without one,
then the names count, and the values last.
-/

namespace MiniC

/-- What the value of a field is compared with. -/
inductive FieldValue where
  | bool (b : Bool)
  | real (x : Binary64)
  | signed (n : Int)
  | unsigned (n : Nat)
  | pattern (text : String)
deriving DecidableEq, Inhabited

namespace FieldValue

def render : FieldValue → String
  | bool b => toString b
  | real x => x.render
  | signed n => toString n
  | unsigned n => toString n
  | pattern text => text

/-- Reads a value. What is no truth value and no number has to be a pattern. -/
def parse (cs : List Char) : Except Pattern.Fault FieldValue :=
  let text := String.ofList cs
  let plain? : Option FieldValue :=
    (if text = "true" then some (bool true) else if text = "false" then some (bool false) else none)
      <|> (Numeral.unsigned? cs).map unsigned
      <|> (Numeral.signed? cs).map signed
      <|> (Numeral.real? cs).map real
  match plain?, Pattern.fault? cs with
  | some v, _ => .ok v
  | none, some fault => .error fault
  | none, none => .ok (pattern text)

/-- The place of a kind of value among the others. -/
def rank : FieldValue → Nat
  | bool _ => 0
  | real _ => 1
  | signed _ => 2
  | unsigned _ => 3
  | pattern _ => 4

def order : FieldValue → FieldValue → Ordering
  | bool a, bool b => compare a b
  | real a, real b => a.order b
  | signed a, signed b => compare a b
  | unsigned a, unsigned b => compare a b
  | pattern a, pattern b => compare a b
  | a, b => compare a.rank b.rank

end FieldValue

structure Field where
  name : String
  value : Option FieldValue
deriving DecidableEq, Inhabited

namespace Field

def render (f : Field) : String :=
  match f.value with
  | none => f.name
  | some v => f.name ++ "=" ++ v.render

/-- Reads a name, and a value up to a second equals sign. -/
def parse (cs : List Char) : Except Pattern.Fault Field :=
  let name := String.ofList (cs.takeWhile (· != '='))
  match cs.dropWhile (· != '=') with
  | [] => .ok ⟨name, none⟩
  | _ :: rest => (FieldValue.parse (rest.takeWhile (· != '='))).map (⟨name, some ·⟩)

def order (a b : Field) : Ordering :=
  (compare a.value.isSome b.value.isSome).then <| (compare a.name b.name).then <|
    match a.value, b.value with
    | some v, some w => v.order w
    | _, _ => .eq

end Field

end MiniC
