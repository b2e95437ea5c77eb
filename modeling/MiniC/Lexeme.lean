import MiniC.Warning

/-!
# Lexemes

The lexical rules: which characters at the front of a text form the next token. Every rule is
greedy and splits the text in two, so its one law is that the two parts make up the text
(`read_append`); and the first is never empty (`chars_read_ne_nil`).

**Numbers.** Digits, a fraction and an exponent. A point ends the number at once when no digit
follows it. An exponent is taken only when it is complete: its marker, a sign if there is one,
and at least one digit; otherwise the text is left as it was.

**Strings.** The text up to a closing quote, where a backslash takes the next character with
it. A newline ends the string before it; the end of the text makes the whole an error.
-/

namespace MiniC

/-! ## Character classes -/

/-- The characters that may separate tokens. -/
def isBlank (c : Char) : Bool :=
  c = ' ' || c = '\t' || c = '\x0c' || c = '\r' || c = '\n'

/-- Identifiers begin with an ASCII letter or an underscore. -/
def isWordStart (c : Char) : Bool := c.isAlpha || c = '_'

/-- Identifiers go on with ASCII letters, digits and underscores. -/
def isWordPart (c : Char) : Bool := c.isAlphanum || c = '_'

/-! ## The parts of a lexeme -/

/-- How a string ends. -/
inductive Ending where
  | closed | newline | endOfInput
deriving DecidableEq

/-- The characters of one token: a string with its body and ending, or any other kind with
exactly its characters. -/
inductive Lexeme where
  | plain (kind : Kind) (chars : List Char)
  | quoted (body : List Char) (ending : Ending)
deriving DecidableEq

namespace Lexeme

/-- Every character the token takes from the text. -/
def chars : Lexeme → List Char
  | plain _ cs => cs
  | quoted body .closed => '"' :: (body ++ ['"'])
  | quoted body _ => '"' :: body

def kind : Lexeme → Kind
  | plain k _ => k
  | quoted _ .endOfInput => .error
  | quoted _ _ => .stringLiteral

/-- The text the token keeps. -/
def text : Lexeme → List Char
  | plain k cs => if k.keepsText then cs else []
  | quoted body _ => body

def token (l : Lexeme) (span : Span) : Token := ⟨l.kind, String.ofList l.text, span⟩

/-! ## Warnings of a string -/

/-- The illegal escapes of a string body that starts at `p`: the backslash pairs whose second
character is not `n`. A backslash that ends the body escapes nothing. -/
def illegalEscapes (p : Place) : List Char → List Warning
  | [] => []
  | '\\' :: c :: rest =>
    let q := p.after ['\\', c]
    if c = 'n' then illegalEscapes q rest
    else .illegalEscape c ⟨p, q⟩ :: illegalEscapes q rest
  | c :: rest => illegalEscapes (p.step c) rest

/-- The warnings raised by a lexeme that starts at `p`. -/
def warnings (l : Lexeme) (p : Place) : List Warning :=
  match l with
  | plain _ _ => []
  | quoted body ending =>
    illegalEscapes (p.step '"') body ++
      if ending = .newline then [.unterminatedString ⟨p, p.after l.chars⟩] else []

/-! ## Numbers -/

/-- The marker of an exponent and its sign, if there is one, and the text after them. -/
def exponentHead : List Char → Option (List Char × List Char)
  | [] => none
  | m :: rest =>
    if m = 'e' || m = 'E' then
      match rest with
      | [] => some ([m], [])
      | s :: rest' => if s = '+' || s = '-' then some ([m, s], rest') else some ([m], s :: rest')
    else none

/-- The exponent at the front of a text, or nothing if it is not complete. -/
def exponent (cs : List Char) : List Char × List Char :=
  match exponentHead cs with
  | none => ([], cs)
  | some (head, rest) =>
    match rest.takeWhile Char.isDigit with
    | [] => ([], cs)
    | digits => (head ++ digits, rest.dropWhile Char.isDigit)

/-- A number from its first digit on. -/
def number (cs : List Char) : Lexeme × List Char :=
  let whole := cs.takeWhile Char.isDigit
  match cs.dropWhile Char.isDigit with
  | '.' :: rest =>
    match rest.takeWhile Char.isDigit with
    | [] => (plain .floatLiteral (whole ++ ['.']), rest)
    | fraction =>
      let (power, rest') := exponent (rest.dropWhile Char.isDigit)
      (plain .floatLiteral (whole ++ '.' :: (fraction ++ power)), rest')
  | c :: rest =>
    if c = 'e' || c = 'E' then
      let (power, rest') := exponent (c :: rest)
      (plain .floatLiteral (whole ++ power), rest')
    else (plain .intLiteral whole, c :: rest)
  | [] => (plain .intLiteral whole, [])

/-- What a point begins: a fraction if a digit follows, otherwise nothing. -/
def fraction (cs : List Char) : Lexeme × List Char :=
  match cs.takeWhile Char.isDigit with
  | [] => (plain .error ['.'], cs)
  | digits =>
    let (power, rest) := exponent (cs.dropWhile Char.isDigit)
    (plain .floatLiteral ('.' :: (digits ++ power)), rest)

/-! ## Words and strings -/

/-- An identifier or a reserved word. -/
def word (cs : List Char) : Lexeme × List Char :=
  let text := cs.takeWhile isWordPart
  (plain ((Kind.keyword? (String.ofList text)).getD .identifier) text, cs.dropWhile isWordPart)

/-- The body of a string, how it ends, and the text after it. -/
def stringBody : List Char → List Char × Ending × List Char
  | [] => ([], .endOfInput, [])
  | '"' :: rest => ([], .closed, rest)
  | '\n' :: rest => ([], .newline, '\n' :: rest)
  | '\\' :: c :: rest =>
    let (body, ending, rest') := stringBody rest
    ('\\' :: c :: body, ending, rest')
  | c :: rest =>
    let (body, ending, rest') := stringBody rest
    (c :: body, ending, rest')

/-- A string after its opening quote. -/
def string (cs : List Char) : Lexeme × List Char :=
  let (body, ending, rest) := stringBody cs
  (quoted body ending, rest)

/-! ## Operators -/

/-- The character `c` alone, or with `second` if that is what follows. -/
def oneOrTwo (c second : Char) (one two : Kind) (cs : List Char) : Lexeme × List Char :=
  match cs with
  | d :: rest => if d = second then (plain two [c, d], rest) else (plain one [c], cs)
  | [] => (plain one [c], [])

/-- The lexeme that begins with `c`, which is neither a blank nor the start of a comment. A
character that can begin no token is an error of its own. -/
def read (c : Char) (cs : List Char) : Lexeme × List Char :=
  if c.isDigit then number (c :: cs)
  else if isWordStart c then word (c :: cs)
  else match c with
    | '.' => fraction cs
    | '"' => string cs
    | '=' => oneOrTwo c '=' .assign .equal cs
    | '!' => oneOrTwo c '=' .not .notEqual cs
    | '<' => oneOrTwo c '=' .less .lessEqual cs
    | '>' => oneOrTwo c '=' .greater .greaterEqual cs
    | '&' => oneOrTwo c '&' .error .and cs
    | '|' => oneOrTwo c '|' .error .or cs
    | '+' => (plain .plus [c], cs)
    | '-' => (plain .minus [c], cs)
    | '*' => (plain .times [c], cs)
    | '/' => (plain .div [c], cs)
    | '{' => (plain .leftBrace [c], cs)
    | '}' => (plain .rightBrace [c], cs)
    | '[' => (plain .leftBracket [c], cs)
    | ']' => (plain .rightBracket [c], cs)
    | '(' => (plain .leftParen [c], cs)
    | ')' => (plain .rightParen [c], cs)
    | ',' => (plain .comma [c], cs)
    | ';' => (plain .semicolon [c], cs)
    | _ => (plain .error [c], cs)

/-! ## A read splits the text -/

theorem exponentHead_append {cs head rest : List Char} (h : exponentHead cs = some (head, rest)) :
    head ++ rest = cs := by
  unfold exponentHead at h
  split at h
  · cases h
  · split at h
    · split at h
      · cases h; rfl
      · split at h <;> cases h <;> rfl
    · cases h

theorem exponent_append (cs : List Char) : (exponent cs).1 ++ (exponent cs).2 = cs := by
  unfold exponent
  split
  · rfl
  · next head rest h =>
    split
    · rfl
    · rw [List.append_assoc, List.takeWhile_append_dropWhile, exponentHead_append h]

theorem number_append (cs : List Char) : (number cs).1.chars ++ (number cs).2 = cs := by
  have hw := List.takeWhile_append_dropWhile (p := Char.isDigit) (l := cs)
  unfold number
  split
  · next rest h =>
    have hr := List.takeWhile_append_dropWhile (p := Char.isDigit) (l := rest)
    split
    · simpa [chars, h] using hw
    · next fraction _ _ =>
      have he := exponent_append (rest.dropWhile Char.isDigit)
      simp only [chars, List.append_assoc, List.cons_append, he, hr]
      rw [← h, hw]
  · next c rest _ h =>
    split
    · have he := exponent_append (c :: rest)
      simp only [chars, List.append_assoc, he]
      rw [← h, hw]
    · simp only [chars]
      rw [← h, hw]
  · next h => simpa [chars, h] using hw

theorem fraction_append (cs : List Char) :
    (fraction cs).1.chars ++ (fraction cs).2 = '.' :: cs := by
  have hw := List.takeWhile_append_dropWhile (p := Char.isDigit) (l := cs)
  unfold fraction
  split
  · rfl
  · have he := exponent_append (cs.dropWhile Char.isDigit)
    simp only [chars, List.append_assoc, List.cons_append, he, hw]

theorem word_append (cs : List Char) : (word cs).1.chars ++ (word cs).2 = cs :=
  List.takeWhile_append_dropWhile

theorem string_append (cs : List Char) : (string cs).1.chars ++ (string cs).2 = '"' :: cs := by
  suffices h : (quoted (stringBody cs).1 (stringBody cs).2.1).chars ++ (stringBody cs).2.2 =
      '"' :: cs from h
  induction cs using stringBody.induct with
  | case1 => rfl
  | case2 rest => rfl
  | case3 rest => rfl
  | case4 c rest body ending rest' h ih =>
    rw [h] at ih
    cases ending <;> simp_all [stringBody, chars]
  | case5 c rest h1 h2 h3 body ending rest' h ih =>
    rw [h] at ih
    cases ending <;> simp_all [stringBody, chars]

theorem oneOrTwo_append (c d : Char) (one two : Kind) (cs : List Char) :
    (oneOrTwo c d one two cs).1.chars ++ (oneOrTwo c d one two cs).2 = c :: cs := by
  unfold oneOrTwo
  split
  · split <;> rfl
  · rfl

/-- A read splits the text: the lexeme's characters and what is left make it up. -/
theorem read_append (c : Char) (cs : List Char) :
    (read c cs).1.chars ++ (read c cs).2 = c :: cs := by
  unfold read
  split
  · exact number_append _
  · split
    · exact word_append _
    · split <;> first
        | exact fraction_append _
        | exact string_append _
        | exact oneOrTwo_append ..
        | rfl

/-! ## A read makes progress -/

@[simp] theorem chars_plain (k : Kind) (cs : List Char) : (plain k cs).chars = cs := rfl

theorem chars_number_ne_nil {c : Char} (h : c.isDigit) (cs : List Char) :
    (number (c :: cs)).1.chars ≠ [] := by
  unfold number
  split
  · split <;> simp
  · split <;> simp [h]
  · simp [h]

theorem isWordPart_of_isWordStart {c : Char} (h : isWordStart c) : isWordPart c := by
  simp only [isWordStart, isWordPart, Char.isAlphanum, Bool.or_eq_true] at h ⊢
  exact h.imp_left Or.inl

theorem chars_word_ne_nil {c : Char} (h : isWordStart c) (cs : List Char) :
    (word (c :: cs)).1.chars ≠ [] := by
  simp [word, isWordPart_of_isWordStart h]

@[simp] theorem chars_fraction_ne_nil (cs : List Char) : (fraction cs).1.chars ≠ [] := by
  unfold fraction
  split <;> simp

@[simp] theorem chars_string_ne_nil (cs : List Char) : (string cs).1.chars ≠ [] := by
  suffices h : ∀ body ending, (quoted body ending).chars ≠ [] from h _ _
  intro body ending
  cases ending <;> simp [chars]

@[simp] theorem chars_oneOrTwo_ne_nil (c d : Char) (one two : Kind) (cs : List Char) :
    (oneOrTwo c d one two cs).1.chars ≠ [] := by
  unfold oneOrTwo
  split
  · split <;> simp
  · simp

/-- A read takes at least one character. -/
theorem chars_read_ne_nil (c : Char) (cs : List Char) : (read c cs).1.chars ≠ [] := by
  unfold read
  split
  · next h => exact chars_number_ne_nil h cs
  · split
    · next h => exact chars_word_ne_nil h cs
    · split <;> simp

end Lexeme

end MiniC
