/-!
# Reading characters with a mark

A text read one character at a time. The read position can be saved as a mark and returned to.
Past the last character every read gives the end marker `Reader.endMark`, so a text that
contains that character ends there for whoever reads it.
-/

namespace MiniC

structure Reader where
  text : Array Char
  /-- The index of the next character. -/
  mark : Nat := 0

namespace Reader

/-- The character that stands for the end of a text. -/
def endMark : Char := '\x00'

def ofText (s : String) : Reader := ⟨s.toList.toArray, 0⟩

/-- The next character, or the end marker, and the reader after it. -/
def next (r : Reader) : Char × Reader :=
  match r.text[r.mark]? with
  | some c => (c, { r with mark := r.mark + 1 })
  | none => (endMark, r)

/-- Returns to a mark; one beyond the text means its end. -/
def reset (r : Reader) (mark : Nat) : Reader := { r with mark := min mark r.text.size }

/-- What can be read before the end marker. -/
def remaining (r : Reader) : List Char := (r.text.toList.drop r.mark).takeWhile (· != endMark)

end Reader

end MiniC
