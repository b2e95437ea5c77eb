import MiniC.Pattern.Bracket

/-!
# Checking patterns

Whether a text is a pattern: alternatives of sequences of elements, sets and groups, each of
which may be repeated. A group may be numbered, named, or only change the mode; a change of mode
may also stand alone and then holds to the end of the group around it. There are no counted
repetitions, no references to groups and no looking around.

Edges of words in the mode of characters are well-formed, but what matches patterns cannot find
them, so they are told apart from other faults.
-/

namespace MiniC.Pattern

/-- What is wrong with a pattern. -/
inductive Fault where
  | malformed
  | unicodeBoundary
deriving DecidableEq

def Fault.message : Fault → String
  | malformed => "error building NFA"
  | unicodeBoundary => "unsupported regex feature for DFAs: cannot build DFAs for regexes with " ++
      "Unicode word boundaries; switch to ASCII word boundaries, or heuristically enable " ++
      "Unicode word boundaries or use a different regex engine"

/-! ## Groups -/

/-- Whether a group can have the name. -/
def isName : List Char → Bool
  | [] => false
  | c :: cs =>
    (c = '_' || isLetter c) &&
      cs.all fun c => isAlphanumeric c || c = '_' || c = '.' || c = '[' || c = ']'

/-- Whether the letters are changes of mode, each given once; those after a hyphen turn a mode
off, and there is at least one of them. -/
def areFlags (cs : List Char) : Bool :=
  cs.all (['i', 'm', 's', 'U', 'u', 'R', 'x', '-'].contains ·) && cs.eraseDups.length = cs.length &&
    cs.getLast? != some '-'

/-- The mode after changes. -/
def Mode.change (m : Mode) (flags : List Char) : Mode :=
  let on := flags.takeWhile (· != '-')
  let set (flag : Char) (old : Bool) : Bool := if flags.contains flag then on.contains flag else old
  ⟨set 'i' m.caseless, set 'u' m.unicode, set 'x' m.verbose⟩

/-- How far a pattern has been read. -/
structure State where
  mode : Mode := {}
  /-- The modes around the open groups, the innermost first. -/
  outer : List Mode := []
  names : List (List Char) := []
  /-- Whether something has just been read that can be repeated. -/
  repeatable : Bool := false
  /-- Whether the pattern has an edge of a word in the mode of characters. -/
  boundary : Bool := false

namespace State

def repeated (s : State) : State := { s with repeatable := true }

/-- Opens a group whose inside has the mode `m`. -/
def enter (s : State) (m : Mode) : State :=
  { s with mode := m, outer := s.mode :: s.outer, repeatable := false }

/-- Closes a group, unless none is open. -/
def leave? (s : State) : Option State :=
  match s.outer with
  | [] => none
  | m :: outer => some { s with mode := m, outer, repeatable := true }

end State

/-- Reads the name of a group, up to its closing angle. -/
def named? (s : State) (cs : List Char) : Option (State × List Char) :=
  let name := cs.takeWhile (· != '>')
  match cs.dropWhile (· != '>') with
  | _ :: rest =>
    if isName name && !s.names.contains name then
      some ({ s with names := name :: s.names }.enter s.mode, rest)
    else none
  | [] => none

/-- Reads changes of mode, for a group or alone. -/
def flagged? (s : State) (cs : List Char) : Option (State × List Char) :=
  let isEnd (c : Char) : Bool := c = ':' || c = ')'
  let flags := cs.takeWhile (!isEnd ·)
  let mode := s.mode.change flags
  if !areFlags flags then none
  else
    match cs.dropWhile (!isEnd ·) with
    | ':' :: rest => some (s.enter mode, rest)
    | _ :: rest => if flags.isEmpty then none else some ({ s with mode, repeatable := false }, rest)
    | [] => none

/-- Reads what opens a group, after its parenthesis. -/
def group? (s : State) (cs : List Char) : Option (State × List Char) :=
  match s.mode.skip cs with
  | '?' :: '=' :: _ | '?' :: '!' :: _ | '?' :: '<' :: '=' :: _ | '?' :: '<' :: '!' :: _ => none
  | '?' :: 'P' :: '<' :: rest | '?' :: '<' :: rest => named? s rest
  | '?' :: rest => flagged? s rest
  | rest => some (s.enter s.mode, rest)

/-! ## Patterns -/

/-- Reads one element. -/
def element? (s : State) : Element → Option State
  | .literal c byte => if s.mode.allowsLiteral c byte then some s.repeated else none
  | .shorthand negated => if s.mode.allowsShorthand negated then some s.repeated else none
  | .anchor => some s.repeated
  | .boundary => some { s.repeated with boundary := s.boundary || s.mode.unicode }

/-- Reads the next part of a pattern, which begins with `c`. -/
def part? (s : State) (c : Char) (rest : List Char) : Option (State × List Char) :=
  match c with
  | '(' => group? s rest
  | ')' => s.leave?.map (·, rest)
  | '|' => some ({ s with repeatable := false }, rest)
  | '[' => (set? s.mode rest).map (s.repeated, ·)
  | '?' | '*' | '+' =>
    if s.repeatable then some (s, if rest.head? = some '?' then rest.drop 1 else rest) else none
  | '\x7b' => none
  | '.' => if s.mode.unicode then some (s.repeated, rest) else none
  | '^' | '$' => some (s.repeated, rest)
  | '\\' => do
    let (e, rest) ← escape? s.mode rest
    return (← element? s e, rest)
  | c => (element? s (.literal c false)).map (·, rest)

/-- Reads a pattern to its end. Every turn reads at least one character, so the length of the text
is fuel enough. -/
def read? : Nat → State → List Char → Option State
  | 0, _, _ => none
  | fuel + 1, s, cs =>
    match s.mode.skip cs with
    | [] => if s.outer.isEmpty then some s else none
    | c :: rest => do
      let (s, rest) ← part? s c rest
      read? fuel s rest

/-- What is wrong with a text as a pattern, if anything. -/
def fault? (cs : List Char) : Option Fault :=
  match read? (cs.length + 1) {} cs with
  | none => some .malformed
  | some s => if s.boundary then some .unicodeBoundary else none

end MiniC.Pattern
