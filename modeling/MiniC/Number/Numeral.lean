import MiniC.Number.Binary64

/-!
# Numerals

Reading numbers from text: whole numbers with a sign, and decimals with a point and an exponent.
Only ASCII digits count.
-/

namespace MiniC.Numeral

/-- The number that decimal digits stand for. -/
def value (digits : List Char) : Nat := digits.foldl (fun n c => 10 * n + (c.toNat - '0'.toNat)) 0

/-- The number of a text that is digits throughout, at least one. -/
def digits? (cs : List Char) : Option Nat :=
  if !cs.isEmpty && cs.all Char.isDigit then some (value cs) else none

/-- Splits a sign off. -/
def sign : List Char → Bool × List Char
  | '-' :: cs => (true, cs)
  | '+' :: cs => (false, cs)
  | cs => (false, cs)

/-- A number below `2 ^ 64`. A plus sign may precede it. -/
def unsigned? (cs : List Char) : Option Nat :=
  let digits := match cs with
    | '+' :: rest => rest
    | _ => cs
  (digits? digits).filter (· < UInt64.size)

/-- A number from `-2 ^ 63` to `2 ^ 63 - 1`. -/
def signed? (cs : List Char) : Option Int := do
  let (negative, digits) := sign cs
  let n : Int ← digits? digits
  let n := if negative then -n else n
  if Int64.minValue.toInt ≤ n ∧ n ≤ Int64.maxValue.toInt then some n else none

/-- The exponent of a decimal: nothing, or a mark and a number. -/
def exponent? : List Char → Option Int
  | [] => some 0
  | c :: cs =>
    if c = 'e' || c = 'E' then
      let (negative, digits) := sign cs
      (digits? digits).map fun n => if negative then -n else n
    else none

/-- A decimal without a sign: digits on at least one side of an optional point, and an optional
exponent. -/
def magnitude? (cs : List Char) : Option Magnitude :=
  let whole := cs.takeWhile Char.isDigit
  let rest := cs.dropWhile Char.isDigit
  let (fraction, rest) := match rest with
    | '.' :: rest => (rest.takeWhile Char.isDigit, rest.dropWhile Char.isDigit)
    | _ => ([], rest)
  if whole.isEmpty && fraction.isEmpty then none
  else
    (exponent? rest).map fun e => .ofDecimal (value (whole ++ fraction)) (e - fraction.length)

/-- A decimal, or one of the words for infinity and for no number. -/
def real? (cs : List Char) : Option Binary64 :=
  let (negative, rest) := sign cs
  let word := String.ofList (rest.map Char.toLower)
  if word = "inf" || word = "infinity" then some (.number negative .infinite)
  else if word = "nan" then some .nan
  else (magnitude? rest).map (.number negative)

end MiniC.Numeral
