import MiniC.LogFilter.Basic
import MiniC.Recording
import MiniC.Text.Quoted

/-!
# The command

What the program does with its arguments and a file: check the syntax, list the tokens, or hand
a recording over to be stepped through. Files are supplied by a function, so that everything
here is a plain value; the outer layer reads and writes.

**Log lines are not written here.** The error stream of a result is that of a run whose log filter
lets nothing pass. All that depends on the filter is the notice about one that cannot be read. What
would be logged while a source is recorded is told by `Recording.record`.
-/

namespace MiniC

/-- Why a file cannot be read. -/
inductive ReadError where
  | notFound
  | permissionDenied
  | notDirectory
  | isDirectory
  | nameTooLong
  | invalidEncoding
  | other (reason : String)
deriving DecidableEq

def ReadError.reason : ReadError → String
  | notFound => "No such file or directory (os error 2)"
  | permissionDenied => "Permission denied (os error 13)"
  | notDirectory => "Not a directory (os error 20)"
  | isDirectory => "Is a directory (os error 21)"
  | nameTooLong => "File name too long (os error 36)"
  | invalidEncoding => "stream did not contain valid UTF-8"
  | other reason => reason

/-- The text of a file's bytes, which must be well-formed UTF-8 throughout. -/
def decodeSource (bytes : ByteArray) : Except ReadError String :=
  match String.fromUTF8? bytes with
  | some s => .ok s
  | none => .error .invalidEncoding

/-- What a finished run leaves: its exit code and what it wrote. -/
structure Result where
  code : Nat
  output : String := ""
  errors : String := ""
deriving DecidableEq, Inhabited

namespace Result

/-- A run that failed before it could say anything about the source. -/
def failed (message : String) : Result := { code := 2, errors := s!"Error: {message}\n" }

def ofReadError (path : String) (e : ReadError) : Result :=
  failed s!"cannot read {path}: {e.reason}"

/-- Puts a notice in front of what was written about errors. -/
def withNotice (r : Result) (notice : String) : Result := { r with errors := notice ++ r.errors }

end Result

/-- What is left to do once the arguments are understood. -/
inductive Action where
  | finish (r : Result)
  /-- Step through a recording of `source`. -/
  | step (notice : String) (source : String) (recording : Recording)

namespace Command

def versionText : String := "minic 0.1.0\n"

def helpText : String :=
  "\n".intercalate
    ["A scanner and recursive-descent recognizer for the MiniC language, " ++
        "with an interactive token stepper",
      "",
      "Usage: minic [OPTIONS] <FILE>",
      "",
      "Arguments:",
      "  <FILE>  MiniC source file",
      "",
      "Options:",
      "  -t, --tokens        Print the token stream and lexical warnings instead of parsing",
      "  -i, --interactive   Step through the token stream in a terminal UI",
      "  -v, --verbose       Emit a debug event for every scanned token",
      "      --log <FILTER>  Log filter directives, e.g. `debug` or `minic::parser=trace`",
      "  -h, --help          Print help",
      "  -V, --version       Print version",
      ""]

/-- Checks the syntax of a source. A rejection is told on the error stream. -/
def check (path source : String) : Result :=
  let console := (Recognizer.ofText source ({} : Console)).recognize.2.reporter
  if console.errors = 0 then { code := 0, output := s!"{path}: syntax OK\n" }
  else { code := 1, output := s!"{path}: rejected\n", errors := console.text }

/-- One line of a token listing: the span in fourteen columns, then the token. -/
def tokenLine (t : Token) : String := s!"{padRight 14 t.span.render} {t.render}\n"

/-- Lists the tokens of a source, then its warnings. An error token makes the run fail. -/
def list (source : String) : Result :=
  let (tokens, warnings) := tokenize source
  { code := if tokens.any (·.kind = .error) then 1 else 0
    output := String.join (tokens.map tokenLine) ++
      String.join (warnings.map fun w => s!"WARNING: {w.message}\n") }

/-- Tells why a log filter cannot be read. -/
def filterNotice (o : Options) (environment : Option String) : String :=
  let text := o.filterText environment
  match LogFilter.parse text with
  | .ok _ => ""
  | .error e => s!"invalid log filter {Quoted.encode text}: {e.message}\n"

/-- Carries out the options. Listing wins over stepping. -/
def execute (read : String → Except ReadError String) (environment : Option String)
    (o : Options) : Action :=
  let notice := filterNotice o environment
  match read o.file with
  | .error e => .finish ((Result.ofReadError o.file e).withNotice notice)
  | .ok source =>
    if o.tokens then .finish ((list source).withNotice notice)
    else if o.interactive then .step notice source (Recording.ofText source)
    else .finish ((check o.file source).withNotice notice)

/-- Runs the program on its arguments, without the lines that a log filter lets pass. -/
def run (read : String → Except ReadError String) (environment : Option String)
    (args : List String) : Action :=
  match Options.parse args with
  | .error e => .finish { code := 2, errors := e.message ++ "\n" }
  | .ok .help => .finish { code := 0, output := helpText }
  | .ok .version => .finish { code := 0, output := versionText }
  | .ok (.run o) => execute read environment o

end Command

end MiniC
