import MiniC.Loop
import MiniC.Scanner
import MiniC.Text.Bytes

/-!
# The scanner, one character at a time

A head holds one character, with a reader behind it, and sees no further. It moves over the text
by loops that look at that character alone, and collects what is kept of the present token, the
place it has come to, and warnings.

An exponent is the one thing that a head cannot tell from its first character. It goes ahead, and
goes back to where it was (`Head.rollback`) if there is no digit.

**What is left.** Past the last character, and at an end marker, the head holds the end marker.
What is left to scan is the character it holds and what remains in the reader (`Head.unread`); each
move over a character leaves less (`left_advance_lt`), which is why every loop ends.
-/

namespace MiniC

/-! ## Reading with a mark -/

namespace Reader

theorem mark_next_le {r : Reader} (h : r.mark ≤ r.text.size) :
    r.next.2.mark ≤ r.next.2.text.size := by
  unfold next
  split
  · next hc => exact (Array.getElem?_eq_some_iff.1 hc).1
  · exact h

theorem text_next (r : Reader) : r.next.2.text = r.text := by
  unfold next
  split <;> rfl

/-- What remains is the next character and what remains after it, or nothing. -/
theorem remaining_eq (r : Reader) :
    r.remaining = if r.next.1 = endMark then [] else r.next.1 :: r.next.2.remaining := by
  unfold next remaining
  split
  · next c hc =>
    obtain ⟨hlt, rfl⟩ := Array.getElem?_eq_some_iff.1 hc
    rw [← Array.length_toList] at hlt
    rw [List.drop_eq_getElem_cons hlt, List.takeWhile_cons, Array.getElem_toList]
    split <;> simp_all
  · next hc =>
    rw [Array.getElem?_eq_none_iff, ← Array.length_toList] at hc
    rw [List.drop_of_length_le hc, if_pos rfl]
    rfl

end Reader

/-! ## Heads -/

/-- A character, what comes after it, and what has been collected. -/
structure Head where
  reader : Reader
  current : Char
  previous : Char := Reader.endMark
  /-- What is kept of the present token. -/
  kept : List Char := []
  /-- Whether a token is being scanned, so that its characters are kept. -/
  keeping : Bool := false
  place : Place := .origin
  /-- Where the present token starts. -/
  start : Place := .origin
  warnings : List Warning := []
  mark_le : reader.mark ≤ reader.text.size

namespace Head

open Reader Kind

/-- A head at the first character of what a reader has. -/
def ofReader (r : Reader) (h : r.mark ≤ r.text.size) : Head where
  reader := r.next.2
  current := r.next.1
  mark_le := r.mark_next_le h

def ofText (source : String) : Head := ofReader (.ofText source) (Nat.zero_le _)

/-- What is left to scan. -/
def unread (h : Head) : List Char :=
  if h.current = endMark then [] else h.current :: h.reader.remaining

def left (h : Head) : Nat := h.unread.length

/-- From the start of the present token to where the head is. -/
def span (h : Head) : Span := ⟨h.start, h.place⟩

/-! ### Moves -/

/-- Moves over the current character. -/
def advance (keep : Bool) (h : Head) : Head :=
  { h with
    reader := h.reader.next.2
    current := h.reader.next.1
    previous := h.current
    kept := if keep && h.keeping then h.kept ++ [h.current] else h.kept
    place := h.place.step h.current
    mark_le := mark_next_le h.mark_le }

/-- Moves over the current character and keeps it. -/
def take (h : Head) : Head := h.advance true

/-- Moves over the current character. -/
def skip (h : Head) : Head := h.advance false

def warn (w : Warning) (h : Head) : Head := { h with warnings := h.warnings ++ [w] }

/-- Where a head has been, to go back to. -/
structure Snapshot where
  mark : Nat
  current : Char
  previous : Char
  /-- The bytes kept. -/
  length : Nat
  place : Place

def snapshot (h : Head) : Snapshot :=
  ⟨h.reader.mark, h.current, h.previous, (String.ofList h.kept).utf8ByteSize, h.place⟩

def rollback (s : Snapshot) (h : Head) : Head :=
  { h with
    reader := h.reader.reset s.mark
    current := s.current
    previous := s.previous
    kept := takeBytes s.length h.kept
    place := s.place
    mark_le := Nat.min_le_right _ _ }

/-! ### What is left -/

theorem unread_of_endMark {h : Head} (hc : h.current = endMark) : h.unread = [] := if_pos hc

theorem unread_eq_cons {h : Head} (hc : h.current ≠ endMark) (keep : Bool) :
    h.unread = h.current :: (h.advance keep).unread := by
  rw [unread, if_neg hc, remaining_eq]
  rfl

theorem left_advance_lt {h : Head} (hc : h.current ≠ endMark) (keep : Bool) :
    (h.advance keep).left < h.left := by
  rw [left, left, unread_eq_cons hc keep]
  exact Nat.lt_succ_self _

/-! ### Loops -/

/-- Moves on as long as the current character passes a test, which the end marker does not. -/
def onward (keep : Bool) (test : Char → Bool) (htest : test endMark = false) : Loop Head Head where
  turn h := if test h.current then .inr (h.advance keep) else .inl h
  size := left
  size_lt := by
    intro h h' hturn
    split at hturn
    · next ht =>
      cases hturn
      refine left_advance_lt ?_ keep
      rintro hc
      rw [hc, htest] at ht
      cases ht
    · cases hturn

def blanks : Loop Head Head := onward false isBlank rfl

def digits : Loop Head Head := onward true Char.isDigit rfl

def wordParts : Loop Head Head := onward true isWordPart rfl

/-- To the end of the line. -/
def restOfLine : Loop Head Head := onward false (fun c => c ≠ '\n' && c ≠ endMark) rfl

/-- Takes a backslash and the character after it. At the end of the text the backslash is alone. -/
def escape (h : Head) : Head :=
  let h' := h.take
  match h'.current with
  | 'n' => h'.take
  | '\x00' => h'
  | c => h'.take.warn (.illegalEscape c ⟨h.place, h'.take.place⟩)

theorem left_escape_lt {h : Head} (hc : h.current ≠ endMark) : h.escape.left < h.left := by
  have htake : h.take.left < h.left := left_advance_lt hc true
  unfold escape
  dsimp only
  split
  · next hn =>
    have hne : h.take.current ≠ endMark := by rw [hn]; decide
    exact Nat.lt_trans (left_advance_lt hne true) htake
  · exact htake
  · next hne => exact Nat.lt_trans (left_advance_lt hne true) htake

/-- A string after its opening quote. -/
def stringBody : Loop Head (Kind × Head) where
  turn h := match h.current with
    | '"' => .inl (.stringLiteral, h.skip)
    | '\n' => .inl (.stringLiteral, h.warn (.unterminatedString h.span))
    | '\x00' => .inl (.error, h)
    | '\\' => .inr h.escape
    | _ => .inr h.take
  size := left
  size_lt := by
    intro h h' hturn
    split at hturn <;> cases hturn
    · next hc => exact left_escape_lt (by rw [hc]; decide)
    · next hc _ => exact left_advance_lt hc true

/-- A block comment after its opening. The state tells whether a character of the body has been
passed, so that the star of the opening does not close it. -/
def blockBody : Loop (Bool × Head) Head where
  turn := fun (inBody, h) =>
    if h.current = endMark then .inl (h.warn (.unterminatedComment h.span))
    else if inBody && h.previous = '*' && h.current = '/' then .inl h.skip
    else .inr (true, h.skip)
  size s := s.2.left
  size_lt := by
    rintro ⟨inBody, h⟩ s' hturn
    dsimp only at hturn
    split at hturn
    · cases hturn
    · next hc =>
      split at hturn <;> cases hturn
      exact left_advance_lt hc false

/-! ### Tokens -/

/-- Takes the marker of an exponent, and its sign if there is one. -/
def exponentHead (h : Head) : Head :=
  let h₁ := h.take
  if h₁.current = '+' || h₁.current = '-' then h₁.take else h₁

/-- Takes an exponent if it is complete, and otherwise goes back to where the head was. -/
def exponent (h : Head) : Head :=
  if h.current = 'e' || h.current = 'E' then
    let h₁ := h.exponentHead
    if h₁.current.isDigit then digits.run h₁ else h₁.rollback h.snapshot
  else h

def number (h : Head) : Kind × Head :=
  let h₁ := digits.run h
  match h₁.current with
  | '.' =>
    let h₂ := h₁.take
    if h₂.current.isDigit then (.floatLiteral, (digits.run h₂).exponent) else (.floatLiteral, h₂)
  | c => if c = 'e' || c = 'E' then (.floatLiteral, h₁.exponent) else (.intLiteral, h₁)

def fraction (h : Head) : Kind × Head :=
  let h₁ := h.take
  if h₁.current.isDigit then (.floatLiteral, (digits.run h₁).exponent) else (.error, h₁)

def word (h : Head) : Kind × Head :=
  let h₁ := wordParts.run h
  ((keyword? (String.ofList h₁.kept)).getD .identifier, h₁)

def string (h : Head) : Kind × Head := stringBody.run h.skip

/-- The current character alone, or with `second` if that comes next. -/
def oneOrTwo (second : Char) (one two : Kind) (h : Head) : Kind × Head :=
  let h₁ := h.take
  if h₁.current = second then (two, h₁.take) else (one, h₁)

/-- A line comment, from its second slash. -/
def lineComment (h : Head) : Head :=
  let h₁ := restOfLine.run h
  if h₁.current = '\n' then h₁.skip else h₁

/-- A block comment, from its star. -/
def blockComment (h : Head) : Head := blockBody.run (false, h.skip)

/-- A division, or no token but a comment. -/
def slash (h : Head) : Option Kind × Head :=
  let h₁ := h.take
  match h₁.current with
  | '/' => (none, h₁.lineComment)
  | '*' => (none, h₁.blockComment)
  | _ => (some .div, h₁)

/-- The token that begins with the current character, which is no blank and no slash. -/
def lexeme (h : Head) : Kind × Head :=
  if h.current.isDigit then h.number
  else if isWordStart h.current then h.word
  else match h.current with
    | '.' => h.fraction
    | '"' => h.string
    | '=' => h.oneOrTwo '=' .assign .equal
    | '!' => h.oneOrTwo '=' .not .notEqual
    | '<' => h.oneOrTwo '=' .less .lessEqual
    | '>' => h.oneOrTwo '=' .greater .greaterEqual
    | '&' => h.oneOrTwo '&' .error .and
    | '|' => h.oneOrTwo '|' .error .or
    | '+' => (.plus, h.take)
    | '-' => (.minus, h.take)
    | '*' => (.times, h.take)
    | '{' => (.leftBrace, h.take)
    | '}' => (.rightBrace, h.take)
    | '[' => (.leftBracket, h.take)
    | ']' => (.rightBracket, h.take)
    | '(' => (.leftParen, h.take)
    | ')' => (.rightParen, h.take)
    | ',' => (.comma, h.take)
    | ';' => (.semicolon, h.take)
    | _ => (.error, h.take)

/-- The token that begins with the current character, which is no blank. A comment is none. -/
def scanToken (h : Head) : Option Kind × Head :=
  if h.current = endMark then (some .eof, h)
  else if h.current = '/' then h.slash
  else
    let (k, h') := h.lexeme
    (some k, h')

/-- Skips blanks, and begins a token where they end. -/
def beginToken (h : Head) : Head :=
  let h₁ := blanks.run { h with keeping := false }
  { h₁ with keeping := true, kept := [], start := h₁.place }

/-- The token of the given kind that ends where the head is. -/
def token (k : Kind) (h : Head) : Token where
  kind := k
  lexeme := String.ofList (if k.keepsText then h.kept else [])
  span := if k = .eof then .point ⟨h.place.line, 1⟩ else h.span

/-- Keeps nothing between tokens. -/
def endToken (h : Head) : Head := { h with keeping := false, kept := [] }

end Head

end MiniC
