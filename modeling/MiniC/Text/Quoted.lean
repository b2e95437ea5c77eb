import MiniC.Text.Hidden

/-!
# Quoted text

A text between double quotes, written so that it shows as one line: quotes and backslashes are
escaped, the common control characters have short names, and every other character without a
visible form of its own is given by its number.
-/

namespace MiniC.Quoted

/-- A character given by its number, in hexadecimal digits. -/
def numbered (c : Char) : String :=
  "\\u\x7b" ++ String.ofList (Nat.toDigits 16 c.toNat) ++ "\x7d"

/-- A character as it is written between quotes. -/
def escape (c : Char) : String :=
  match c with
  | '"' => "\\\""
  | '\\' => "\\\\"
  | '\n' => "\\n"
  | '\t' => "\\t"
  | '\r' => "\\r"
  | '\x00' => "\\0"
  | _ => if hiddenChars.contains c then numbered c else c.toString

/-- The text between quotes. -/
def encode (s : String) : String := "\"" ++ String.join (s.toList.map escape) ++ "\""

end MiniC.Quoted
