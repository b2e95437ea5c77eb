import MiniC.Pattern.Escape

/-!
# Sets of characters in brackets

A set is written between brackets: characters, ranges, shorthands, named classes and further
sets, which operators may combine. A caret at its beginning takes everything else. At the
beginning hyphens, or one closing bracket, stand for themselves.
-/

namespace MiniC.Pattern

/-- The names of the classes that can be written between colons. -/
def classNames : List String :=
  ["alnum", "alpha", "ascii", "blank", "cntrl", "digit", "graph", "lower", "print", "punct",
    "space", "upper", "word", "xdigit"]

/-- Reads a named class after its bracket: whether it is negated, and the rest. -/
def namedClass? : List Char → Option (Bool × List Char)
  | ':' :: cs =>
    let negated := cs.head? = some '^'
    let cs := if negated then cs.drop 1 else cs
    let name := String.ofList (cs.takeWhile (· != ':'))
    match cs.dropWhile (· != ':') with
    | ':' :: ']' :: rest => if classNames.contains name then some (negated, rest) else none
    | _ => none
  | _ => none

/-- Reads the beginning of a set after its bracket. All but a set cannot be told in bytes. -/
def openSet? (m : Mode) (cs : List Char) : Option (List Char) :=
  let cs := m.skip cs
  let negated := cs.head? = some '^'
  let cs := if negated then m.skip (cs.drop 1) else cs
  if negated && !m.unicode then none
  else
    match cs with
    | ']' :: rest => some rest
    | '-' :: rest => some (rest.dropWhile fun c => c = '-' || m.verbose && isSpacing c)
    | _ => some cs

/-- One element of a set. -/
def member? : Mode → List Char → Option (Element × List Char)
  | _, [] => none
  | m, '\\' :: cs => escape? m cs
  | _, c :: cs => some (.literal c false, cs)

/-- Whether an element can be in a set by itself. -/
def allowsElement (m : Mode) : Element → Bool
  | .literal c _ => m.allowsMember c
  | .shorthand negated => m.allowsShorthand negated
  | .anchor | .boundary => false

/-- Whether two elements can be the ends of a range. -/
def allowsRange (m : Mode) : Element → Element → Bool
  | .literal a _, .literal b _ => a ≤ b && m.allowsMember a && m.allowsMember b
  | _, _ => false

/-- Reads one element or range of a set. A hyphen makes a range unless the set, or an operator,
follows it. -/
def range? (m : Mode) (cs : List Char) : Option (List Char) := do
  let (first, rest) ← member? m cs
  match m.skip rest with
  | '-' :: after =>
    match m.skip after with
    | ']' :: _ | '-' :: _ => if allowsElement m first then some rest else none
    | after =>
      let (last, rest) ← member? m after
      if allowsRange m first last then some rest else none
  | _ => if allowsElement m first then some rest else none

/-- Reads a set to its end, with `depth` further sets open around it. Every turn reads at least
one character, so the length of the text is fuel enough. -/
def closeSet? (m : Mode) : (fuel depth : Nat) → List Char → Option (List Char)
  | 0, _, _ => none
  | fuel + 1, depth, cs =>
    match m.skip cs with
    | [] => none
    | ']' :: rest =>
      match depth with
      | 0 => some rest
      | depth + 1 => closeSet? m fuel depth rest
    | '[' :: rest =>
      match namedClass? rest with
      | some (negated, rest) =>
        if negated && !m.unicode then none else closeSet? m fuel depth rest
      | none => do closeSet? m fuel (depth + 1) (← openSet? m rest)
    | '&' :: '&' :: rest | '-' :: '-' :: rest | '~' :: '~' :: rest => closeSet? m fuel depth rest
    | cs => do closeSet? m fuel depth (← range? m cs)

/-- Reads a set after its bracket. -/
def set? (m : Mode) (cs : List Char) : Option (List Char) := do
  if m.unicode && m.caseless then none
  else closeSet? m (cs.length + 1) 0 (← openSet? m cs)

end MiniC.Pattern
