/-!
# Text in columns

Padding to a number of characters.
-/

namespace MiniC

/-- The text in at least `n` characters, blanks added after it. -/
def padRight (n : Nat) (s : String) : String := s.pushn ' ' (n - s.length)

/-- The text in at least `n` characters, blanks added before it. -/
def padLeft (n : Nat) (s : String) : String := "".pushn ' ' (n - s.length) ++ s

end MiniC
