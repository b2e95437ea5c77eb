import MiniC.Text.Quoted

/-!
# Text that cannot control a terminal

The characters a terminal acts on are written by their numbers: the escape, the bell, backspace,
form feed and delete in two digits, and the later block of controls in braces. All others stay,
line ends and tabs among them.
-/

namespace MiniC

/-- A character as it is written where a terminal must not act on it. -/
def inertChar (c : Char) : String :=
  match c with
  | '\x07' => "\\x07"
  | '\x08' => "\\x08"
  | '\x0c' => "\\x0c"
  | '\x1b' => "\\x1b"
  | '\x7f' => "\\x7f"
  | _ => if 0x80 ≤ c.toNat && c.toNat ≤ 0x9f then Quoted.numbered c else c.toString

def inert (s : String) : String := String.join (s.toList.map inertChar)

end MiniC
