import MiniC.Lexeme

/-!
# Pieces of a source text

A source text is a sequence of pieces: blanks, comments and lexemes. Only lexemes become tokens.

**Comments.** A line comment runs through the end of its line or of the text. A block comment
runs through the first `*/` after its opening; one that is never closed is the last piece.

Reading a piece splits the text (`read?_append`) and takes at least one character
(`length_lt_of_read?`), so a text has finitely many pieces.
-/

namespace MiniC

inductive Piece where
  | blank (c : Char)
  /-- The comment is `closed` when the newline that ends it is there, and part of it. -/
  | lineComment (body : List Char) (closed : Bool)
  | blockComment (body : List Char)
  | openComment (body : List Char)
  | lexeme (l : Lexeme)
deriving DecidableEq

namespace Piece

/-- The characters of a piece. -/
def chars : Piece → List Char
  | blank c => [c]
  | lineComment body closed => '/' :: '/' :: (body ++ if closed then ['\n'] else [])
  | blockComment body => '/' :: '*' :: (body ++ ['*', '/'])
  | openComment body => '/' :: '*' :: body
  | lexeme l => l.chars

/-- Splits at the first `*/`, which belongs to neither part. -/
def splitClose? : List Char → Option (List Char × List Char)
  | [] => none
  | '*' :: '/' :: rest => some ([], rest)
  | c :: rest => (splitClose? rest).map fun (body, rest') => (c :: body, rest')

def readLineComment (cs : List Char) : Piece × List Char :=
  let body := cs.takeWhile (· != '\n')
  match cs.dropWhile (· != '\n') with
  | [] => (lineComment body false, [])
  | _ :: rest => (lineComment body true, rest)

def readBlockComment (cs : List Char) : Piece × List Char :=
  match splitClose? cs with
  | some (body, rest) => (blockComment body, rest)
  | none => (openComment cs, [])

/-- The first piece of a text and the text after it. -/
def read? : List Char → Option (Piece × List Char)
  | [] => none
  | '/' :: '/' :: cs => some (readLineComment cs)
  | '/' :: '*' :: cs => some (readBlockComment cs)
  | c :: cs =>
    if isBlank c then some (blank c, cs)
    else
      let (l, rest) := Lexeme.read c cs
      some (lexeme l, rest)

/-! ## A read splits the text -/

theorem splitClose?_append {cs body rest : List Char} (h : splitClose? cs = some (body, rest)) :
    body ++ '*' :: '/' :: rest = cs := by
  fun_induction splitClose? cs generalizing body with
  | case1 => cases h
  | case2 => cases h; rfl
  | case3 c cs _ ih =>
    obtain ⟨⟨body', rest'⟩, h', heq⟩ := Option.map_eq_some_iff.1 h
    cases heq
    simp [ih h']

theorem readLineComment_append (cs : List Char) :
    (readLineComment cs).1.chars ++ (readLineComment cs).2 = '/' :: '/' :: cs := by
  have hw := List.takeWhile_append_dropWhile (p := (· != '\n')) (l := cs)
  unfold readLineComment
  split
  · next h => simpa [chars, h] using hw
  · next c rest h =>
    have hc : c = '\n' := by
      have := List.head?_dropWhile_not (· != '\n') cs
      simpa [h] using this
    subst hc
    rw [h] at hw
    simp only [chars, if_true, List.append_assoc, List.cons_append, List.nil_append]
    exact congrArg ('/' :: '/' :: ·) hw

theorem readBlockComment_append (cs : List Char) :
    (readBlockComment cs).1.chars ++ (readBlockComment cs).2 = '/' :: '*' :: cs := by
  unfold readBlockComment
  split
  · next body rest h => simp [chars, ← splitClose?_append h]
  · simp [chars]

/-- A read splits the text: the piece's characters and what is left make it up. -/
theorem read?_append {cs : List Char} {p : Piece} {rest : List Char}
    (h : read? cs = some (p, rest)) : p.chars ++ rest = cs := by
  unfold read? at h
  split at h
  · cases h
  · next cs => simpa [Option.some.inj h] using readLineComment_append cs
  · next cs => simpa [Option.some.inj h] using readBlockComment_append cs
  · next c cs _ _ =>
    split at h
    · cases h; rfl
    · cases h; exact Lexeme.read_append c cs

theorem chars_readLineComment_ne_nil (cs : List Char) : (readLineComment cs).1.chars ≠ [] := by
  unfold readLineComment
  split <;> simp [chars]

theorem chars_readBlockComment_ne_nil (cs : List Char) : (readBlockComment cs).1.chars ≠ [] := by
  unfold readBlockComment
  split <;> simp [chars]

/-- A read takes at least one character. -/
theorem chars_ne_nil_of_read? {cs : List Char} {p : Piece} {rest : List Char}
    (h : read? cs = some (p, rest)) : p.chars ≠ [] := by
  unfold read? at h
  split at h
  · cases h
  · next cs => simpa [Option.some.inj h] using chars_readLineComment_ne_nil cs
  · next cs => simpa [Option.some.inj h] using chars_readBlockComment_ne_nil cs
  · next c cs _ _ =>
    split at h
    · cases h; simp [chars]
    · cases h; exact Lexeme.chars_read_ne_nil c cs

theorem length_lt_of_read? {cs : List Char} {p : Piece} {rest : List Char}
    (h : read? cs = some (p, rest)) : rest.length < cs.length := by
  have hp := List.length_pos_iff.2 (chars_ne_nil_of_read? h)
  have := congrArg List.length (read?_append h)
  simp only [List.length_append] at this
  omega

end Piece

/-- All pieces of a text, in order. -/
def pieces (cs : List Char) : List Piece :=
  match _ : Piece.read? cs with
  | none => []
  | some (p, rest) => p :: pieces rest
termination_by cs.length
decreasing_by exact Piece.length_lt_of_read? ‹_›

end MiniC
