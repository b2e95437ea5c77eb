import MiniC.Command
import MiniC.Stepper.Frame

/-!
# The program

Reads the file that the arguments name and carries out the command. A session of stepping reads
its keys from standard input, a line at a time, and shows a frame after each line.
-/

namespace MiniC

/-! ## Files -/

def ReadError.ofError : IO.Error → ReadError
  | .noFileOrDirectory _ _ _ => .notFound
  | .permissionDenied _ _ _ => .permissionDenied
  | .inappropriateType _ code _ => if code = 21 then .isDirectory else .notDirectory
  | e@(.invalidArgument _ code _) => if code = 36 then .nameTooLong else .other (toString e)
  | e => .other (toString e)

def readSource (path : String) : IO (Except ReadError String) :=
  try
    return decodeSource (← IO.FS.readBinFile path)
  catch e => return .error (.ofError e)

/-! ## Sessions -/

/-- The keys that characters stand for. An arrow is sent as an escape sequence. -/
def keysOf : List Char → List Key
  | '\x1b' :: '[' :: 'A' :: rest => .up :: keysOf rest
  | '\x1b' :: '[' :: 'B' :: rest => .down :: keysOf rest
  | '\x1b' :: '[' :: 'C' :: rest => .right :: keysOf rest
  | '\x1b' :: '[' :: 'D' :: rest => .left :: keysOf rest
  | '\x1b' :: '[' :: 'Z' :: rest => .backTab :: keysOf rest
  | '\x1b' :: rest => .escape :: keysOf rest
  | '\t' :: rest => .tab :: keysOf rest
  | '\x7f' :: rest | '\x08' :: rest => .backspace :: keysOf rest
  | c :: rest => .char c :: keysOf rest
  | [] => []

/-- The keys of a line of input. An empty line is the enter key. -/
def keysOfLine (line : List Char) : List Key :=
  match line.filter (fun c => c != '\n' && c != '\r') with
  | [] => [.enter]
  | keys => keysOf keys

/-- The size of a frame. -/
def sessionSize : Nat × Nat := (100, 30)

/-- Steps until a key asks to quit or the input ends. Every line is a turn, and in a turn the
next token is due. -/
partial def session (s : Stepper) (input output : IO.FS.Stream) : IO Unit := do
  let (width, height) := sessionSize
  let (canvas, s) := s.draw width height
  output.putStr ("\n".intercalate canvas.text ++ "\n")
  output.flush
  if s.quitting then return
  let line ← input.getLine
  if line.isEmpty then return
  let keys := keysOfLine line.toList
  session (keys.foldl (fun s key => s.press false key) (s.tick true)) input output

def perform : Action → IO UInt32
  | .finish r => do
    (← IO.getStdout).putStr r.output
    (← IO.getStderr).putStr r.errors
    return r.code.toUInt32
  | .step notice source recording => do
    (← IO.getStderr).putStr notice
    session { recording, source } (← IO.getStdin) (← IO.getStdout)
    return if recording.outcome.isAccepted then 0 else 1

end MiniC

open MiniC in
def main (args : List String) : IO UInt32 := do
  let contents ← match Options.parse args with
    | .ok (.run o) => readSource o.file
    | _ => pure (.error .notFound)
  perform (Command.run (fun _ => contents) (← IO.getEnv "MINIC_LOG") args)
