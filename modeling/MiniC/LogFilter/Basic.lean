import MiniC.LogFilter.Directive
import MiniC.Options

/-!
# Log filters

A filter is a list of directives, separated by commas. Directives that ask for a span or a field
are kept apart from the others; those that can still be decided without values are kept on both
sides. On each side the most specific directive comes first, and of equal ones the last counts.
One bad directive spoils the whole filter.
-/

namespace MiniC

/-- Directives in the order in which they are tried. -/
structure LogFilter where
  statics : List Directive := []
  dynamics : List Directive := []
deriving DecidableEq, Inhabited

namespace LogFilter

/-- Adds a directive to a list, the most specific first, in place of an equal one. -/
def insert (d : Directive) : List Directive → List Directive
  | [] => [d]
  | e :: es =>
    match d.order e with
    | .gt => d :: e :: es
    | .eq => d :: es
    | .lt => e :: insert d es

/-- The directives in order. -/
def sort (ds : List Directive) : List Directive := ds.foldl (fun es d => insert d es) []

def ofDirectives (ds : List Directive) : LogFilter :=
  let dynamics := ds.filter (·.isDynamic)
  { statics := sort (ds.filter (!·.isDynamic) ++ dynamics.filter (·.isStatic))
    dynamics := sort dynamics }

def parse (s : String) : Except FilterError LogFilter := do
  let parts := (s.toList.splitOn ',').filter (!·.isEmpty)
  return ofDirectives (← parts.mapM Directive.parse)

def render (f : LogFilter) : String :=
  ",".intercalate ((f.statics ++ f.dynamics).map Directive.render)

/-- What a filter that cannot be read gives way to. -/
def fallback : LogFilter := { statics := [{ level := .warn }] }

end LogFilter

namespace Options

/-- The filter text in force: the option wins over the environment, and without either a
verbose run logs more. -/
def filterText (o : Options) (environment : Option String) : String :=
  (o.log <|> environment).getD (if o.verbose then "debug" else "warn")

/-- The filter in force. -/
def filter (o : Options) (environment : Option String) : LogFilter :=
  match LogFilter.parse (o.filterText environment) with
  | .ok f => f
  | .error _ => .fallback

end Options

end MiniC
