/-!
# Command-line options

Words are read from left to right into a draft. A word may leave a value waiting: the file, or
the value of `--log`. A waiting value is settled when the next option is met or at the end, and
only then is it found to be missing or given twice.

**Which error wins.** An unknown word, or a value for a switch that takes none, ends the reading
at once, whatever waits. Then come errors of settling, in order of the words; help and version
answer as soon as they are met. At the end the draft is checked: first for switches that exclude
each other, then for the file.
-/

namespace MiniC

/-- The options that take no value. -/
inductive Switch where
  | tokens | interactive | verbose | help | version
deriving DecidableEq

namespace Switch

def name : Switch → String
  | tokens => "tokens"
  | interactive => "interactive"
  | verbose => "verbose"
  | help => "help"
  | version => "version"

def letter : Switch → Char
  | tokens => 't'
  | interactive => 'i'
  | verbose => 'v'
  | help => 'h'
  | version => 'V'

def all : List Switch := [tokens, interactive, verbose, help, version]

/-- The switch as messages write it. -/
def render (s : Switch) : String := "--" ++ s.name

end Switch

/-- What can be wrong with a command line. Arguments are named as messages write them. -/
inductive UsageError where
  | missingFile
  | conflict (given other : String)
  | repeated (argument : String)
  | unknown (word : String)
  | unexpectedValue (argument value : String)
  | missingValue (argument : String)
deriving DecidableEq

/-- The first line of the complaint. -/
def UsageError.message : UsageError → String
  | missingFile => "error: the following required arguments were not provided:"
  | conflict a b => s!"error: the argument '{a}' cannot be used with '{b}'"
  | repeated a => s!"error: the argument '{a}' cannot be used multiple times"
  | unknown w => s!"error: unexpected argument '{w}' found"
  | unexpectedValue a v => s!"error: unexpected value '{v}' for '{a}' found; no more were expected"
  | missingValue a => s!"error: a value is required for '{a}' but none was supplied"

/-- What a run is asked to do. -/
structure Options where
  file : String
  tokens : Bool
  interactive : Bool
  verbose : Bool
  log : Option String
deriving DecidableEq, Inhabited

/-- What a command line asks for. -/
inductive Request where
  | help
  | version
  | run (o : Options)
deriving DecidableEq

namespace Options

/-- The option that takes a value, as messages write it. -/
def logArgument : String := "--log <FILTER>"

/-- The file, as messages write it. -/
def fileArgument : String := "<FILE>"

/-- A value that is not settled yet. -/
inductive Waiting where
  | nothing
  | log (value : Option String)
  | file (path : String)
deriving DecidableEq

/-- A command line read so far. -/
structure Draft where
  /-- The switches, latest first. -/
  switches : List Switch := []
  log : Option String := none
  file : Option String := none
  waiting : Waiting := .nothing
deriving DecidableEq

/-- Why reading stops before the end. -/
inductive Stop where
  | help
  | version
  | usage (e : UsageError)
deriving DecidableEq

namespace Draft

def setLog (d : Draft) (value : String) : Except Stop Draft :=
  if d.log.isSome then .error (.usage (.repeated logArgument)) else .ok { d with log := some value }

/-- Settles the waiting value. -/
def settle (d : Draft) : Except Stop Draft :=
  let d' := { d with waiting := .nothing }
  match d.waiting with
  | .nothing => .ok d'
  | .log none => .error (.usage (.missingValue logArgument))
  | .log (some value) => d'.setLog value
  | .file path =>
    if path.isEmpty then .error (.usage (.missingValue fileArgument))
    else .ok { d' with file := some path }

/-- Meets a switch. -/
def switch (d : Draft) (s : Switch) : Except Stop Draft := do
  let d ← d.settle
  match s with
  | .help => .error .help
  | .version => .error .version
  | _ =>
    if s ∈ d.switches then .error (.usage (.repeated s.render))
    else .ok { d with switches := s :: d.switches }

/-- Meets a word that is no option. Only one is wanted. -/
def positional (d : Draft) (w : String) : Except Stop Draft :=
  match d.file, d.waiting with
  | none, .nothing | none, .log _ => do
    let d ← d.settle
    return { d with waiting := .file w }
  | _, _ => .error (.usage (.unknown w))

/-- Meets `--name` or `--name=value`. -/
def long (d : Draft) (name : String) (value : Option String) : Except Stop Draft :=
  if name = "log" then do
    let d ← d.settle
    match value with
    | some v => d.setLog v
    | none => .ok { d with waiting := .log none }
  else
    match Switch.all.find? (·.name = name), value with
    | some s, none => d.switch s
    | some s, some v => .error (.usage (.unexpectedValue s.render v))
    | none, _ => .error (.usage (.unknown ("--" ++ name)))

/-- Meets one letter of a word such as `-tv`. -/
def short (d : Draft) (c : Char) : Except Stop Draft :=
  match Switch.all.find? (·.letter = c) with
  | some s => d.switch s
  | none => .error (.usage (.unknown s!"-{c}"))

/-- Reads a word that stands before `--`. -/
def word (d : Draft) (w : String) : Except Stop Draft :=
  match w.toList with
  | '-' :: '-' :: cs =>
    let name := String.ofList (cs.takeWhile (· != '='))
    match cs.dropWhile (· != '=') with
    | [] => d.long name none
    | _ :: value => d.long name (some (String.ofList value))
  | '-' :: c :: cs => (c :: cs).foldlM short d
  | _ =>
    match d.waiting with
    | .log none => .ok { d with waiting := .log (some w) }
    | _ => d.positional w

/-- Reads all words; after `--` no word is an option. -/
def words (d : Draft) : List String → Except Stop Draft
  | [] => .ok d
  | w :: ws => if w = "--" then ws.foldlM positional d else do (← d.word w).words ws

/-- The finished options. -/
def finish (d : Draft) : Except Stop Options := do
  let d ← d.settle
  let has (s : Switch) : Bool := s ∈ d.switches
  if has .tokens && has .interactive then
    let given := d.switches.reverse.filter fun s => s = .tokens || s = .interactive
    .error (.usage (.conflict (given.headD .tokens).render (given.getLastD .interactive).render))
  else
    match d.file with
    | none => .error (.usage .missingFile)
    | some file => .ok ⟨file, has .tokens, has .interactive, has .verbose, d.log⟩

end Draft

/-- Reads a command line, without the program's name. -/
def parse (args : List String) : Except UsageError Request :=
  match (({} : Draft).words args).bind Draft.finish with
  | .ok o => .ok (.run o)
  | .error .help => .ok .help
  | .error .version => .ok .version
  | .error (.usage e) => .error e

end Options

end MiniC
