/-!
# Binary numbers of 64 bits

A number has a sign and a magnitude, which is infinite or an integer of at most 53 bits times a
power of two, or it is no number at all. Everything is computed in exact integers.

**Reading.** A decimal is rounded to the nearest number that can be held, and half-way to the one
with the even integer.

**Writing.** A number is written with the fewest digits that read back as it, the nearest of them
if there are several, and without an exponent.
-/

namespace MiniC

/-- `finite m e` is `m * 2 ^ e`. -/
inductive Magnitude where
  | finite (m : Nat) (e : Int)
  | infinite
deriving DecidableEq, Inhabited

inductive Binary64 where
  | number (negative : Bool) (magnitude : Magnitude)
  | nan
deriving DecidableEq, Inhabited

namespace Magnitude

/-- The least power of two there is. -/
def leastExponent : Int := -1074

/-- The greatest power of two that a full integer can have. -/
def greatestExponent : Int := 971

/-- `a / b` rounded to an integer, half-way to the even one. -/
def roundDiv (a b : Nat) : Nat :=
  let q := a / b
  let r := 2 * (a % b)
  if r < b then q else if b < r then q + 1 else q + q % 2

/-- The exponent of the greatest power of two that is at most `a / b`, for positive numbers. -/
def floorLog2 (a b : Nat) : Int :=
  let e : Int := (a.log2 : Int) - b.log2
  if b <<< e.toNat ≤ a <<< (-e).toNat then e else e - 1

/-- The magnitude nearest to `a / b`, for positive numbers. -/
def nearest (a b : Nat) : Magnitude :=
  let e := max (floorLog2 a b - 52) leastExponent
  let m := roundDiv (a <<< (-e).toNat) (b <<< e.toNat)
  let (m, e) := if m = 1 <<< 53 then (1 <<< 52, e + 1) else (m, e)
  if greatestExponent < e then infinite else finite m e

/-- The magnitude nearest to `n * 10 ^ e`. Far beyond either end the powers are not computed. -/
def ofDecimal (n : Nat) (e : Int) : Magnitude :=
  let size := ((Nat.toDigits 10 n).length : Int) + e
  if n = 0 || size < -400 then finite 0 leastExponent
  else if 400 < size then infinite
  else nearest (n * Nat.pow 10 e.toNat) (Nat.pow 10 (-e).toNat)

/-! ## Shortest digits -/

/-- A decimal: `digits * 10 ^ exponent`. -/
structure Decimal where
  digits : Nat
  exponent : Int
deriving DecidableEq, Inhabited

/-- The reals that round to a magnitude, as an open or closed interval around its value. All three
are numerators over the one denominator. -/
structure Bounds where
  low : Nat
  value : Nat
  high : Nat
  denominator : Nat
  closed : Bool

/-- The bounds of `m * 2 ^ e`. Below a power of two the numbers lie twice as close. -/
def boundsOf (m : Nat) (e : Int) : Bounds :=
  let scale (n : Nat) : Nat := n <<< (e - 2).toNat
  { low := scale (if m = 1 <<< 52 ∧ leastExponent < e then 4 * m - 1 else 4 * m - 2)
    value := scale (4 * m)
    high := scale (4 * m + 2)
    denominator := 1 <<< (2 - e).toNat
    closed := m % 2 = 0 }

namespace Bounds

/-- Whether a decimal rounds to the magnitude. -/
def contains (b : Bounds) (d : Decimal) : Bool :=
  let x := d.digits * Nat.pow 10 d.exponent.toNat * b.denominator
  let scale (n : Nat) : Nat := n * Nat.pow 10 (-d.exponent).toNat
  if b.closed then scale b.low ≤ x && x ≤ scale b.high else scale b.low < x && x < scale b.high

/-- The exponent of the greatest power of ten that is at most the value. -/
def floorLog10 (b : Bounds) : Int :=
  let length (n : Nat) : Int := (Nat.toDigits 10 n).length
  let e := length b.value - length b.denominator
  if b.denominator * Nat.pow 10 e.toNat ≤ b.value * Nat.pow 10 (-e).toNat then e else e - 1

/-- The better of the two decimals on either side of the value whose last digit stands for
`10 ^ e`, if one of them rounds to the magnitude. Half-way the greater is better. -/
def near? (b : Bounds) (e : Int) : Option Decimal :=
  let a := b.value * Nat.pow 10 (-e).toNat
  let c := b.denominator * Nat.pow 10 e.toNat
  let below : Decimal := ⟨a / c, e⟩
  let above : Decimal := ⟨a / c + 1, e⟩
  let ordered := if 2 * (a % c) < c then [below, above] else [above, below]
  ordered.find? b.contains

/-- The shortest decimal that rounds to the magnitude. Seventeen digits are always enough. -/
def shortest (b : Bounds) : Decimal :=
  ((List.range 17).findSome? fun (n : Nat) => b.near? (b.floorLog10 - n)).getD ⟨0, 0⟩

end Bounds

/-- The text of a decimal without an exponent. -/
def Decimal.render (d : Decimal) : String :=
  let digits := Nat.toDigits 10 d.digits
  let places := (-d.exponent).toNat
  let padded := List.replicate (places + 1 - digits.length) '0' ++ digits ++
    List.replicate d.exponent.toNat '0'
  let whole := padded.take (padded.length - places)
  let fraction := ((padded.drop (padded.length - places)).reverse.dropWhile (· = '0')).reverse
  String.ofList (if fraction.isEmpty then whole else whole ++ '.' :: fraction)

def render : Magnitude → String
  | infinite => "inf"
  | finite 0 _ => "0"
  | finite m e => (boundsOf m e).shortest.render

/-- The order of magnitudes. -/
def order : Magnitude → Magnitude → Ordering
  | infinite, infinite => .eq
  | infinite, _ => .gt
  | _, infinite => .lt
  | finite m e, finite n f =>
    compare (m <<< (e - leastExponent).toNat) (n <<< (f - leastExponent).toNat)

end Magnitude

namespace Binary64

def render : Binary64 → String
  | nan => "NaN"
  | number negative magnitude => (if negative then "-" else "") ++ magnitude.render

/-- Whether the number is zero, of either sign. -/
def isZero : Binary64 → Bool
  | number _ (.finite 0 _) => true
  | _ => false

/-- The order of numbers, in which both zeros are equal and what is no number comes last. -/
def order : Binary64 → Binary64 → Ordering
  | nan, nan => .eq
  | nan, _ => .gt
  | _, nan => .lt
  | number s x, number t y =>
    if (number s x).isZero && (number t y).isZero then .eq
    else match s, t with
      | true, false => .lt
      | false, true => .gt
      | false, false => x.order y
      | true, true => y.order x

end Binary64

end MiniC
