import MiniC.Token.Basic

/-!
# Diagnostics and their reporters

**Reports.** A defect is reported as a message template, the text that replaces every `%` in
it, and a span. Filling the template gives the diagnostic.

**Reporters.** A reporter receives one report at a time. `Collected` keeps the diagnostics;
`Console` counts them and writes each on a line of its own, to a device that may be full: it
takes what still fits and drops the rest, and the count goes on.
-/

namespace MiniC

/-- A message and where it applies. -/
structure Diagnostic where
  message : String
  span : Span
deriving DecidableEq, Inhabited

/-- The line a reader sees. -/
def Diagnostic.render (d : Diagnostic) : String :=
  s!"ERROR: {d.message} at line {d.span.start.line}, column {d.span.start.column}"

/-- A template with the text for its `%` marks, and where it applies. -/
structure Report where
  template : String
  token : String
  span : Span
deriving DecidableEq, Inhabited

namespace Report

/-- Replaces every `%` of `template` by `token`, which is not itself searched. -/
def fill (template token : String) : String :=
  String.ofList (template.toList.flatMap fun c => if c = '%' then token.toList else [c])

def diagnostic (r : Report) : Diagnostic := ⟨fill r.template r.token, r.span⟩

end Report

/-- Something that receives reports. -/
class Reporter (ρ : Type) where
  report : ρ → Report → ρ

/-! ## Collecting -/

/-- The diagnostics received, in order. -/
structure Collected where
  diagnostics : List Diagnostic := []
deriving DecidableEq, Inhabited

instance : Reporter Collected where
  report c r := ⟨c.diagnostics ++ [r.diagnostic]⟩

/-! ## Writing -/

/-- The number of reports, and the bytes that were written. A capacity bounds the bytes; without
one there is always room. -/
structure Console where
  capacity : Option Nat := none
  errors : Nat := 0
  written : List UInt8 := []
deriving DecidableEq, Inhabited

namespace Console

/-- Writes as much of `text` as still fits. -/
def write (c : Console) (text : String) : Console :=
  let bytes := text.toUTF8.data.toList
  { c with written := c.written ++
      match c.capacity with
      | none => bytes
      | some n => bytes.take (n - c.written.length) }

/-- What was written, as text. A character cut short shows as the replacement character. -/
def text (c : Console) : String :=
  let decode (n : Nat) : Option String :=
    String.fromUTF8? ⟨(c.written.take (c.written.length - n)).toArray⟩
  let cut (n : Nat) : Option String := (decode n).map (· ++ "\uFFFD")
  (decode 0 <|> cut 1 <|> cut 2 <|> cut 3).getD ""

end Console

instance : Reporter Console where
  report c r := { c.write (r.diagnostic.render ++ "\n") with errors := c.errors + 1 }

end MiniC
