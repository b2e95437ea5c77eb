import MiniC.Proofs.Gap

/-!
# The steps of a text, part by part

**All at once.** Scanning through the end of input gives the tokens and the warnings of the steps
of the cursor (`tokens_scanAll`, `warnings_scanAll`).

**Gaps.** A gap at the front of a text is skipped: it moves the place and changes nothing else
(`next_gap`, `steps_gap`). This is the converse of `scans_next`, where a gap is what was skipped.

**Tokens.** The text of a token is read as that token if the input ends after it or goes on with a
blank (`read_lexical`). The scanner reads a token there that is at least as long
(`covers_of_lexical`), and it cannot be longer, as no token but a string contains a blank.
-/

namespace MiniC

/-! ## All steps at once -/

theorem Cursor.next_nil (p : Place) : next ⟨[], p⟩ = (⟨.endOfInput p, []⟩, ⟨[], p⟩) := by
  rw [next]
  rfl

theorem Cursor.steps_of_eof {c : Cursor} (h : c.next.1.token.kind = .eof) :
    c.steps = [c.next.1] := by
  rw [steps, dif_pos h]

theorem Cursor.steps_of_ne_eof {c : Cursor} (h : c.next.1.token.kind ≠ .eof) :
    c.steps = c.next.1 :: c.next.2.steps := by
  rw [steps, dif_neg h]

theorem Cursor.length_steps_pos (c : Cursor) : 0 < c.steps.length := by
  by_cases h : c.next.1.token.kind = .eof
  · rw [steps_of_eof h]
    exact Nat.succ_pos _
  · rw [steps_of_ne_eof h]
    exact Nat.succ_pos _

/-- Each step but the last takes a character of the text. -/
theorem Cursor.length_steps_le (c : Cursor) : c.steps.length ≤ c.rest.length + 1 := by
  fun_induction steps c with
  | case1 c h => exact Nat.le_add_left _ _
  | case2 c h ih =>
    have hlt := c.length_next_lt h
    rw [List.length_cons]
    omega

namespace Scanner

/-- All tokens of a scanner are those of the steps of its cursor. -/
theorem tokens_scanAll (s : Scanner) : s.scanAll.1 = s.cursor.steps.map Step.token := by
  fun_induction scanAll s with
  | case1 s h =>
    rw [Cursor.steps_of_eof h]
    rfl
  | case2 s h tokens s' hs ih =>
    rw [hs] at ih
    rw [Cursor.steps_of_ne_eof h, List.map_cons]
    exact congrArg (s.scan.1 :: ·) ih

/-- All warnings are those of the steps, after those that waited already. -/
theorem warnings_scanAll (s : Scanner) :
    s.scanAll.2.warnings = s.warnings ++ s.cursor.steps.flatMap Step.warnings := by
  fun_induction scanAll s with
  | case1 s h =>
    rw [Cursor.steps_of_eof h, List.flatMap_singleton]
    rfl
  | case2 s h tokens s' hs ih =>
    rw [hs] at ih
    rw [Cursor.steps_of_ne_eof h, List.flatMap_cons, ← List.append_assoc, ih]
    rfl

end Scanner

/-! ## Gaps at the front -/

namespace Piece

/-- The pieces that are skipped. -/
def isSkipped : Piece → Bool
  | blank _ | lineComment _ _ | blockComment _ => true
  | openComment _ | lexeme _ => false

theorem splitClose?_of_not_close {body : List Char} (h : ¬ ['*', '/'] <:+: body)
    (rest : List Char) : splitClose? (body ++ '*' :: '/' :: rest) = some (body, rest) := by
  induction body with
  | nil => rfl
  | cons c body ih =>
    have hbody : ¬ ['*', '/'] <:+: body := by
      intro hclose
      exact h (hclose.trans (List.suffix_cons c body).isInfix)
    have hfront : ∀ t, c = '*' → body ++ '*' :: '/' :: rest = '/' :: t → False := by
      rintro t rfl heq
      cases body with
      | nil => simp at heq
      | cons d body =>
        obtain rfl : d = '/' := (List.cons.inj heq).1
        exact h ⟨[], body, rfl⟩
    rw [List.cons_append, splitClose?.eq_3 _ _ hfront, ih hbody]
    rfl

theorem read?_blank {c : Char} (h : c ∈ [' ', '\t', '\x0c', '\r', '\n']) (rest : List Char) :
    read? ([c] ++ rest) = some (blank c, rest) := by
  simp only [List.mem_cons, List.not_mem_nil, or_false] at h
  rcases h with rfl | rfl | rfl | rfl | rfl <;> rfl

theorem read?_lineComment {body : List Char} (h : '\n' ∉ body) (rest : List Char) :
    read? ('/' :: '/' :: (body ++ ['\n']) ++ rest) = some (lineComment body true, rest) := by
  have hall : ∀ c ∈ body, (c != '\n') = true := by
    intro c hc
    simpa using fun heq : c = '\n' => h (heq ▸ hc)
  have htake : (body ++ '\n' :: rest).takeWhile (· != '\n') = body := by
    rw [List.takeWhile_append_of_pos hall]
    simp
  have hdrop : (body ++ '\n' :: rest).dropWhile (· != '\n') = '\n' :: rest := by
    rw [List.dropWhile_append_of_pos hall]
    simp
  show some (readLineComment (body ++ ['\n'] ++ rest)) = _
  rw [List.append_assoc, List.singleton_append, readLineComment, htake, hdrop]

theorem read?_blockComment {body : List Char} (h : ¬ ['*', '/'] <:+: body) (rest : List Char) :
    read? ('/' :: '*' :: (body ++ ['*', '/']) ++ rest) = some (blockComment body, rest) := by
  have hsplit : splitClose? (body ++ ['*', '/'] ++ rest) = some (body, rest) := by
    rw [List.append_assoc]
    exact splitClose?_of_not_close h rest
  show some (readBlockComment (body ++ ['*', '/'] ++ rest)) = _
  rw [readBlockComment, hsplit]

theorem read?_openLine {body : List Char} (h : '\n' ∉ body) :
    read? ('/' :: '/' :: body) = some (lineComment body false, []) := by
  have hall : ∀ c ∈ body, (c != '\n') = true := by
    intro c hc
    simpa using fun heq : c = '\n' => h (heq ▸ hc)
  rw [read?, readLineComment, List.dropWhile_eq_nil_iff.2 hall, List.takeWhile_eq_self_iff.2 hall]

theorem read?_openComment {body : List Char} (h : ¬ ['*', '/'] <:+: body) :
    read? ('/' :: '*' :: body) = some (openComment body, []) := by
  have hsplit : splitClose? body = none := by
    rw [Option.eq_none_iff_forall_not_mem]
    intro split hsplit
    exact h ⟨split.1, split.2, by simpa using splitClose?_append hsplit⟩
  rw [read?, readBlockComment, hsplit]

/-- A separator is read as one piece, which is skipped. -/
theorem read?_separator {s : List Char} (hs : Separator s) (rest : List Char) :
    ∃ p, read? (s ++ rest) = some (p, rest) ∧ p.isSkipped := by
  cases hs with
  | blank hc => exact ⟨_, read?_blank hc rest, rfl⟩
  | line hbody => exact ⟨_, read?_lineComment hbody rest, rfl⟩
  | block hbody => exact ⟨_, read?_blockComment hbody rest, rfl⟩

end Piece

namespace Cursor

theorem next_of_isSkipped {c : Cursor} {p : Piece} {rest : List Char}
    (h : Piece.read? c.rest = some (p, rest)) (hp : p.isSkipped) :
    c.next = next ⟨rest, c.place.after p.chars⟩ := by
  rw [next]
  split
  · next hr => cases hr.symm.trans h
  · next hr =>
    cases hr.symm.trans h
    cases p with
    | blank | lineComment | blockComment => rfl
    | openComment | lexeme => cases hp

theorem next_separator {s : List Char} (hs : Separator s) (rest : List Char) (p : Place) :
    next ⟨s ++ rest, p⟩ = next ⟨rest, p.after s⟩ := by
  obtain ⟨piece, hread, hskip⟩ := Piece.read?_separator hs rest
  have hchars : piece.chars = s := List.append_cancel_right (Piece.read?_append hread)
  rw [next_of_isSkipped hread hskip, hchars]

/-- **A gap is skipped.** -/
theorem next_gap {g : List Char} (hg : Gap g) (rest : List Char) (p : Place) :
    next ⟨g ++ rest, p⟩ = next ⟨rest, p.after g⟩ := by
  induction hg generalizing p with
  | nil => rfl
  | cons hs _ ih => rw [List.append_assoc, next_separator hs, ih, Place.after_append]

theorem steps_eq_of_next_eq {c c' : Cursor} (h : c.next = c'.next) : c.steps = c'.steps := by
  by_cases heof : c.next.1.token.kind = .eof
  · rw [steps_of_eof heof, steps_of_eof (h ▸ heof), h]
  · have heof' : c'.next.1.token.kind ≠ .eof := h ▸ heof
    rw [steps_of_ne_eof heof, steps_of_ne_eof heof', h]

theorem steps_gap {g : List Char} (hg : Gap g) (rest : List Char) (p : Place) :
    (⟨g ++ rest, p⟩ : Cursor).steps = (⟨rest, p.after g⟩ : Cursor).steps :=
  steps_eq_of_next_eq (next_gap hg rest p)

end Cursor

/-! ## Tokens contain no blanks -/

theorem not_isBlank_of_isWordPart {c : Char} (h : isWordPart c) : ¬ isBlank c := by
  intro hblank
  have hmem := Piece.mem_blanks_of_isBlank hblank
  simp only [List.mem_cons, List.not_mem_nil, or_false] at hmem
  rcases hmem with rfl | rfl | rfl | rfl | rfl <;> exact absurd h (by decide)

theorem isWordPart_of_isDigit {c : Char} (h : c.isDigit) : isWordPart c := by
  simp [isWordPart, Char.isAlphanum, h]

/-- An exponent is made of letters, digits and signs. -/
theorem IsExponent.forall_mem {e : List Char} {P : Char → Prop} (h : IsExponent e)
    (hpart : ∀ c, isWordPart c → P c) (hsign : P '+' ∧ P '-') : ∀ c ∈ e, P c := by
  have hmarker : ∀ {m : Char}, m = 'e' ∨ m = 'E' → P m := by
    rintro m (rfl | rfl) <;> exact hpart _ (by decide)
  cases h with
  | unsigned hm hds =>
    rw [List.forall_mem_cons]
    exact ⟨hmarker hm, fun c hc => hpart c (isWordPart_of_isDigit (hds.2 c hc))⟩
  | signed hm hs hds =>
    rw [List.forall_mem_cons, List.forall_mem_cons]
    refine ⟨hmarker hm, ?_, fun c hc => hpart c (isWordPart_of_isDigit (hds.2 c hc))⟩
    rcases hs with rfl | rfl
    · exact hsign.1
    · exact hsign.2

namespace Lexical

variable {k : Kind} {w : List Char}

theorem exists_body (h : Lexical k w) (hk : k = .stringLiteral) :
    ∃ body, IsStringBody body ∧ w = '"' :: (body ++ ['"']) := by
  cases h with
  | word _ _ => exact absurd hk (kind_word _).2.2
  | string hbody => exact ⟨_, hbody, rfl⟩
  | fixed hfixed =>
    subst hk
    cases hfixed
  | _ => cases hk

/-- A token other than a string is made of letters, digits and underscores, or of points and
signs, or it is spelled by its kind. -/
theorem forall_mem {P : Char → Prop} (h : Lexical k w) (hk : k ≠ .stringLiteral)
    (hpart : ∀ c, isWordPart c → P c) (hpoint : P '.') (hsign : P '+' ∧ P '-')
    (hfixed : k.hasFixedText → ∀ c ∈ k.spelling.toList, P c) : ∀ c ∈ w, P c := by
  have hdigits : ∀ {ds : List Char}, IsDigits ds → ∀ c ∈ ds, P c :=
    fun hds c hc => hpart c (isWordPart_of_isDigit (hds.2 c hc))
  have hpower : ∀ {e : List Char}, e = [] ∨ IsExponent e → ∀ c ∈ e, P c := by
    rintro e (rfl | he)
    · exact fun c hc => absurd hc List.not_mem_nil
    · exact he.forall_mem hpart hsign
  cases h with
  | word hc hcs =>
    rw [List.forall_mem_cons]
    exact ⟨hpart _ (Lexeme.isWordPart_of_isWordStart hc), fun d hd => hpart d (hcs d hd)⟩
  | integer hds => exact hdigits hds
  | point hds =>
    rw [List.forall_mem_append, List.forall_mem_singleton]
    exact ⟨hdigits hds, hpoint⟩
  | decimal hds hfs he =>
    rw [List.forall_mem_append, List.forall_mem_cons, List.forall_mem_append]
    exact ⟨hdigits hds, hpoint, hdigits hfs, hpower he⟩
  | scientific hds he =>
    rw [List.forall_mem_append]
    exact ⟨hdigits hds, hpower (.inr he)⟩
  | fraction hfs he =>
    rw [List.forall_mem_cons, List.forall_mem_append]
    exact ⟨hpoint, hdigits hfs, hpower he⟩
  | string => exact absurd rfl hk
  | fixed hfixed' => exact hfixed hfixed'

/-- Only a string contains blanks. -/
theorem not_isBlank (h : Lexical k w) (hk : k ≠ .stringLiteral) : ∀ c ∈ w, ¬ isBlank c := by
  refine h.forall_mem hk (fun c => not_isBlank_of_isWordPart) (by decide) (by decide) ?_
  intro hfixed
  have hall : (k.spelling.toList.all fun c => !isBlank c) = true := by
    cases k <;> cases hfixed <;> rfl
  simpa using hall

theorem ne_nil (h : Lexical k w) : w ≠ [] := by
  rintro rfl
  obtain rfl : k = .error := h.kind_eq
  rcases h.keepsText_or_fixed with ⟨-, herror⟩ | ⟨hfixed, -⟩
  · exact herror rfl
  · cases hfixed

/-- The only token that begins like a comment is the slash. -/
theorem eq_nil_of_slash {cs : List Char} (h : Lexical k w) (hw : w = '/' :: cs) : cs = [] := by
  have hdigit : ¬ '/'.isDigit := by decide
  cases h with
  | word hc _ =>
    obtain ⟨rfl, -⟩ := List.cons.inj hw
    exact absurd hc (by decide)
  | integer hds => exact absurd (hds.2 '/' (hw ▸ List.mem_cons_self)) hdigit
  | point hds => exact absurd (isDigit_of_append_eq hds hw) hdigit
  | decimal hds _ _ => exact absurd (isDigit_of_append_eq hds hw) hdigit
  | scientific hds _ => exact absurd (isDigit_of_append_eq hds hw) hdigit
  | fraction _ _ => cases hw
  | string _ => cases hw
  | @fixed k hfixed =>
    cases k <;> cases hfixed <;> cases hw
    rfl

end Lexical

/-! ## A token at the front -/

/-- The text ends here or goes on with a blank. -/
def Delimited (rest : List Char) : Prop := ∀ c, rest.head? = some c → isBlank c

namespace Lexeme

/-- The lexeme that a text of the given kind is. -/
def ofText (k : Kind) (w : List Char) : Lexeme :=
  if k = .stringLiteral then quoted w.tail.dropLast .closed else plain k w

variable {k : Kind} {w rest : List Char} {c : Char} {cs : List Char}

/-- What is read is no longer than the text, as the blank after it would be part of it. -/
theorem eq_of_covers {chars rest' : List Char} (happ : chars ++ rest' = w ++ rest)
    (hlen : w.length ≤ chars.length) (hblank : ∀ d ∈ chars, ¬ isBlank d) (hrest : Delimited rest) :
    chars = w ∧ rest' = rest := by
  obtain ⟨more, rfl⟩ : w <+: chars :=
    List.prefix_of_prefix_length_le (happ ▸ List.prefix_append w rest)
      (List.prefix_append chars rest') hlen
  have hmore : more ++ rest' = rest := by
    rw [List.append_assoc] at happ
    exact List.append_cancel_left happ
  cases more with
  | nil => exact ⟨List.append_nil w, hmore⟩
  | cons d more =>
    have hd : isBlank d := hrest d (by rw [← hmore]; rfl)
    exact absurd hd (hblank d (List.mem_append_right w List.mem_cons_self))

/-- **A token at the front is read as it stands.** -/
theorem read_lexical (h : Lexical k w) (hw : w ++ rest = c :: cs) (hrest : Delimited rest)
    (hnul : '\x00' ∉ c :: cs) : read c cs = (ofText k w, rest) := by
  by_cases hk : k = .stringLiteral
  · obtain ⟨body, hbody, rfl⟩ := h.exists_body hk
    rw [List.cons_append, List.append_assoc] at hw
    obtain ⟨rfl, rfl⟩ := List.cons.inj hw
    show string (body ++ '"' :: rest) = _
    rw [string, stringBody_append hbody, ofText, if_pos hk, List.tail_cons, List.dropLast_concat]
  · have hcovers := covers_of_lexical h (hw ▸ List.prefix_append w rest)
    have happ : (read c cs).1.chars ++ (read c cs).2 = w ++ rest := (read_append c cs).trans hw.symm
    have hreads := reads_read hnul
    have hint : Kind.intLiteral ≠ .stringLiteral := by decide
    have hlen := hcovers.length_le
    rw [ofText, if_neg hk, ← Prod.mk.eta (p := read c cs)]
    generalize (read c cs).1 = l, (read c cs).2 = rest' at *
    cases hreads with
    | @token k' _ _ hl _ hk' =>
      obtain ⟨rfl, rfl⟩ := eq_of_covers happ hlen (hl.not_isBlank hk') hrest
      rw [chars_plain, hl.kind_unique h]
    | integer hds _ _ =>
      obtain ⟨rfl, rfl⟩ := eq_of_covers happ hlen ((Lexical.integer hds).not_isBlank hint) hrest
      rw [chars_plain, h.kind_unique (.integer hds)]
    | mantissa hds he =>
      -- The marker that follows would have to be a blank.
      obtain ⟨rfl, rfl⟩ := eq_of_covers happ hlen ((Lexical.integer hds).not_isBlank hint) hrest
      rcases he with he | he <;> exact absurd (hrest _ he) (by decide)
    | string _ _ =>
      -- The text would begin with a quote and be a string itself.
      obtain ⟨d, w', rfl⟩ := List.exists_cons_of_ne_nil h.ne_nil
      obtain rfl : '"' = d := (List.cons.inj happ).1
      exact absurd h.kind_eq hk
    | newline _ => exact absurd hcovers.isComplete Bool.false_ne_true
    | endOfInput _ => exact absurd hcovers.isComplete Bool.false_ne_true
    | error _ _ => exact absurd hcovers.isComplete Bool.false_ne_true

/-- The escape of a newline is legal. -/
theorem illegalEscapes_eq_nil {body : List Char} (h : ∀ c, ['\\', c] <:+: body → c = 'n')
    (p : Place) : illegalEscapes p body = [] := by
  fun_induction illegalEscapes p body with
  | case1 => rfl
  | case2 p rest q ih =>
    have hrest : rest <:+: '\\' :: 'n' :: rest := (List.suffix_append ['\\', 'n'] rest).isInfix
    exact ih fun c hc => h c (hc.trans hrest)
  | case3 p c rest q hc ih => exact absurd (h c ⟨[], rest, rfl⟩) hc
  | case4 p c rest _ ih => exact ih fun d hd => h d (hd.trans (List.suffix_cons c rest).isInfix)

theorem chars_ofText (h : Lexical k w) : (ofText k w).chars = w := by
  by_cases hk : k = .stringLiteral
  · obtain ⟨body, -, rfl⟩ := h.exists_body hk
    rw [ofText, if_pos hk, List.tail_cons, List.dropLast_concat]
    rfl
  · rw [ofText, if_neg hk, chars_plain]

theorem kind_ofText (k : Kind) (w : List Char) : (ofText k w).kind = k := by
  by_cases hk : k = .stringLiteral
  · rw [ofText, if_pos hk, hk]
    rfl
  · rw [ofText, if_neg hk]
    rfl

end Lexeme

theorem Lexical.not_isBlank_head {k : Kind} {c : Char} {w : List Char} (h : Lexical k (c :: w)) :
    ¬ isBlank c := by
  by_cases hk : k = .stringLiteral
  · obtain ⟨body, -, hw⟩ := h.exists_body hk
    obtain ⟨rfl, -⟩ := List.cons.inj hw
    decide
  · exact h.not_isBlank hk c List.mem_cons_self

theorem Piece.read?_lexeme {c : Char} {cs : List Char} (hblank : ¬ isBlank c)
    (hslash : c = '/' → cs.head? ≠ some '/' ∧ cs.head? ≠ some '*') :
    read? (c :: cs) = some (lexeme (Lexeme.read c cs).1, (Lexeme.read c cs).2) := by
  unfold read?
  split
  · next h => cases h
  · next h =>
    obtain ⟨rfl, rfl⟩ := List.cons.inj h
    exact absurd rfl (hslash rfl).1
  · next h =>
    obtain ⟨rfl, rfl⟩ := List.cons.inj h
    exact absurd rfl (hslash rfl).2
  · next h =>
    obtain ⟨rfl, rfl⟩ := List.cons.inj h
    rw [if_neg hblank]

/-- The text of a token, and then a blank or the end, is one piece. -/
theorem Piece.read?_lexical {k : Kind} {w rest : List Char} (h : Lexical k w)
    (hrest : Delimited rest) (hnul : '\x00' ∉ w ++ rest) :
    read? (w ++ rest) = some (.lexeme (Lexeme.ofText k w), rest) := by
  obtain ⟨c, cs, rfl⟩ := List.exists_cons_of_ne_nil h.ne_nil
  have hread : Lexeme.read c (cs ++ rest) = (Lexeme.ofText k (c :: cs), rest) :=
    Lexeme.read_lexical h rfl hrest hnul
  have hslash : c = '/' → (cs ++ rest).head? ≠ some '/' ∧ (cs ++ rest).head? ≠ some '*' := by
    rintro rfl
    obtain rfl := h.eq_nil_of_slash rfl
    rw [List.nil_append]
    constructor <;> intro hhead <;> exact absurd (hrest _ hhead) (by decide)
  rw [List.cons_append, read?_lexeme h.not_isBlank_head hslash, hread]

namespace Cursor

variable {k : Kind} {w rest : List Char}

theorem next_of_lexeme {c : Cursor} {l : Lexeme} {rest : List Char}
    (h : Piece.read? c.rest = some (.lexeme l, rest)) :
    c.next = (⟨l.token ⟨c.place, c.place.after l.chars⟩, l.warnings c.place⟩,
      ⟨rest, c.place.after l.chars⟩) := by
  rw [next]
  split
  · next hr => cases hr.symm.trans h
  · next hr =>
    cases hr.symm.trans h
    rfl

/-- **The text of a token, and then a blank or the end, is one step.** -/
theorem next_lexical (h : Lexical k w) (hrest : Delimited rest) (hnul : '\x00' ∉ w ++ rest)
    (p : Place) : next ⟨w ++ rest, p⟩ =
      (⟨(Lexeme.ofText k w).token ⟨p, p.after w⟩, (Lexeme.ofText k w).warnings p⟩,
        ⟨rest, p.after w⟩) := by
  rw [next_of_lexeme (Piece.read?_lexical h hrest hnul), Lexeme.chars_ofText h]

end Cursor

end MiniC
