import MiniC.Recognizer.Basic
import MiniC.Text.Columns
import MiniC.Text.Inert

/-!
# The log

What a recording says about itself while it is made: a warning when it is raised, a token when
it is read (if asked for), a rejection, and a closing summary. Each event is one line, its level
first.
-/

namespace MiniC

/-- How much is logged: each level includes those before it. -/
inductive Level where
  | off | error | warn | info | debug | trace
deriving DecidableEq, Inhabited

namespace Level

def all : List Level := [off, error, warn, info, debug, trace]

def name : Level → String
  | off => "off"
  | error => "error"
  | warn => "warn"
  | info => "info"
  | debug => "debug"
  | trace => "trace"

/-- The position of a level in the order. -/
def rank : Level → Nat
  | off => 0
  | error => 1
  | warn => 2
  | info => 3
  | debug => 4
  | trace => 5

/-- Whether an event of level `l` shows when logging at `limit`. -/
def shows (limit l : Level) : Bool := l.rank ≤ limit.rank

end Level

inductive Event where
  | warning (w : Warning)
  | token (t : Token)
  | rejected (d : Diagnostic)
  | recorded (tokens : Nat) (accepted : Bool)
deriving DecidableEq

namespace Event

def level : Event → Level
  | warning _ => .warn
  | _ => .debug

/-- What an event says. -/
def message : Event → String
  | warning w => w.message
  | token _ => "scanned token"
  | rejected d => s!"rejected: {d.message}"
  | recorded _ _ => "recorded scan history"

/-- The named values of an event. -/
def fields : Event → List (String × String)
  | warning _ => []
  | token t => [("kind", t.kind.name), ("lexeme", t.lexeme), ("pos", t.span.render)]
  | rejected d => [("pos", d.span.render)]
  | recorded tokens accepted => [("tokens", toString tokens), ("accepted", toString accepted)]

/-- The line of an event. The message may quote the source, so it is made inert; the fields are
written as they are. -/
def render (e : Event) : String :=
  padLeft 5 e.level.name.toUpper ++ " " ++ inert e.message ++
    String.join (e.fields.map fun (name, value) => s!" {name}={value}") ++ "\n"

end Event

/-- The lines of the events that show at a level. -/
def renderLog (limit : Level) (events : List Event) : String :=
  String.join ((events.filter fun e => limit.shows e.level).map Event.render)

end MiniC
