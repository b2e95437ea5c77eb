import MiniC.Text.Alphanumeric

/-!
# Modes and escapes of patterns

The mode says how a pattern is read at a place: whether letter case matters, whether the pattern
is about characters or about bytes, and whether blanks and comments are skipped. An escape is a
backslash and what it makes special, or makes plain.

Patterns are only checked here, never matched: a reader returns the rest of the text, or nothing
where the text is no pattern. No table of letter cases or character classes is at hand, so in the
mode of characters what would need one is no pattern either.
-/

namespace MiniC.Pattern

structure Mode where
  /-- Letter case does not matter. -/
  caseless : Bool := false
  /-- The pattern is about characters; otherwise it is about bytes. -/
  unicode : Bool := true
  /-- Blanks and comments are skipped. -/
  verbose : Bool := false
deriving DecidableEq, Inhabited

/-- Drops blanks and comments. A comment goes from a `#` to the end of its line. -/
def dropComments (inside : Bool) : List Char → List Char
  | [] => []
  | c :: cs =>
    if inside then dropComments (c != '\n') cs
    else if isSpacing c then dropComments false cs
    else if c = '#' then dropComments true cs
    else c :: cs

/-- Drops what the mode skips. -/
def Mode.skip (m : Mode) (cs : List Char) : List Char :=
  if m.verbose then dropComments false cs else cs

/-- One element of a pattern that stands for itself or was escaped. -/
inductive Element where
  /-- A character; `byte` says that it was given as the number of a byte. -/
  | literal (c : Char) (byte : Bool)
  /-- The digits, the blanks or the characters of words, or all but these. -/
  | shorthand (negated : Bool)
  /-- An end of the text. -/
  | anchor
  /-- An edge of a word, or its absence. -/
  | boundary
deriving DecidableEq, Inhabited

def hexValue? (c : Char) : Option Nat :=
  if c.isDigit then some (c.toNat - '0'.toNat)
  else if 'a' ≤ c && c ≤ 'f' then some (c.toNat - 'a'.toNat + 10)
  else if 'A' ≤ c && c ≤ 'F' then some (c.toNat - 'A'.toNat + 10)
  else none

/-- Reads `count` hexadecimal digits after those that gave `value`. -/
def hexDigits? (m : Mode) : (count value : Nat) → List Char → Option (Nat × List Char)
  | 0, value, cs => some (value, cs)
  | _ + 1, _, [] => none
  | count + 1, value, c :: cs => do
    hexDigits? m count (16 * value + (← hexValue? c)) (m.skip cs)

/-- Reads a character given by so many hexadecimal digits. -/
def hexChar? (m : Mode) (count : Nat) (cs : List Char) : Option (Element × List Char) := do
  let (n, rest) ← hexDigits? m count 0 (m.skip cs)
  if n.isValidChar then some (.literal (Char.ofNat n) (count = 2), rest) else none

/-- Reads what follows a backslash. Punctuation and controls of ASCII stand for themselves. -/
def escape? (m : Mode) : List Char → Option (Element × List Char)
  | [] => none
  | 'x' :: cs => hexChar? m 2 cs
  | 'u' :: cs => hexChar? m 4 cs
  | 'U' :: cs => hexChar? m 8 cs
  | c :: cs =>
    let literal (c : Char) : Option (Element × List Char) := some (.literal c false, cs)
    if ['d', 's', 'w'].contains c then some (.shorthand false, cs)
    else if ['D', 'S', 'W'].contains c then some (.shorthand true, cs)
    else if ['b', 'B', '<', '>'].contains c then some (.boundary, cs)
    else if ['A', 'z'].contains c then some (.anchor, cs)
    else if c = 'a' then literal '\x07'
    else if c = 'f' then literal '\x0c'
    else if c = 't' then literal '\t'
    else if c = 'n' then literal '\n'
    else if c = 'r' then literal '\r'
    else if c = 'v' then literal '\x0b'
    else if c.toNat < 128 && !c.isAlphanum then literal c
    else none

namespace Mode

/-- Whether the mode allows a shorthand. -/
def allowsShorthand (m : Mode) (negated : Bool) : Bool := !m.unicode && !negated

/-- Whether the mode allows a literal outside brackets. -/
def allowsLiteral (m : Mode) (c : Char) (byte : Bool) : Bool :=
  if m.unicode then !m.caseless else !byte || c.toNat < 128

/-- Whether the mode allows a literal between brackets. -/
def allowsMember (m : Mode) (c : Char) : Bool := m.unicode || c.toNat < 128

end Mode

end MiniC.Pattern
