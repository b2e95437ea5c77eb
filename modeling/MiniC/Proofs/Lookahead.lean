import MiniC.Proofs.Pieces

/-!
# How far a read looks ahead

A read looks at characters that it does not take: an exponent is only seen to be incomplete after
its marker and its sign. It never looks beyond a *break*, though, a blank or a slash, because no
token but a string goes on over one.

**Theorem (`Lexeme.read_front`).** What is read depends only on the text before its first break.
The texts of tokens that stand at the front are the same in two texts that agree that far, and the
scanner reads the longest of them.

**Theorem (`Piece.read?_akin`).** So a piece that was read in one text is read again when the text
after it is replaced by another that looks the same to it (`Akin`). A piece that runs into the end
of the text is the exception.
-/

namespace MiniC

/-! ## Breaks -/

/-- The characters over which only a string goes on: blanks, and the slash that begins comments. -/
def isBreak (c : Char) : Bool := isBlank c || c = '/'

/-- The text before its first break. -/
def front (cs : List Char) : List Char := cs.takeWhile fun c => !isBreak c

section Front

variable {w cs rest : List Char}

theorem front_append (h : ∀ c ∈ w, ¬ isBreak c) (rest : List Char) :
    front (w ++ rest) = w ++ front rest :=
  List.takeWhile_append_of_pos fun c hc => by simpa using h c hc

theorem front_append_congr {rest' : List Char} (h : front rest' = front rest) (w : List Char) :
    front (w ++ rest') = front (w ++ rest) := by
  unfold front at h ⊢
  rw [List.takeWhile_append, List.takeWhile_append, h]

theorem front_eq_nil {c : Char} (h : isBreak c) (cs : List Char) : front (c :: cs) = [] := by
  simp [front, h]

/-- A text without breaks stands in front of another if it stands in front of its front. -/
theorem prefix_front_iff (h : ∀ c ∈ w, ¬ isBreak c) : w <+: front cs ↔ w <+: cs := by
  constructor
  · intro hw
    exact hw.trans (List.takeWhile_prefix _)
  · rintro ⟨rest, rfl⟩
    rw [front_append h]
    exact List.prefix_append w _

theorem head?_front {c : Char} (h : ¬ isBreak c) :
    (front cs).head? = some c ↔ cs.head? = some c := by
  rw [front, List.head?_takeWhile, Option.filter_eq_some_iff]
  simp [h]

end Front

/-- Only a string and the slash itself contain breaks. -/
theorem Lexical.not_isBreak {k : Kind} {w : List Char} (h : Lexical k w)
    (hstring : k ≠ .stringLiteral) (hdiv : k ≠ .div) : ∀ c ∈ w, ¬ isBreak c := by
  have hpart : ∀ c, isWordPart c → ¬ isBreak c := by
    intro c hc
    have hslash : c ≠ '/' := by
      rintro rfl
      exact absurd hc (by decide)
    simp [isBreak, not_isBlank_of_isWordPart hc, hslash]
  refine h.forall_mem hstring hpart (by decide) (by decide) ?_
  intro hfixed
  have hall : (k.spelling.toList.all fun c => !isBreak c) = true := by
    cases k <;> cases hfixed <;> first | exact absurd rfl hdiv | rfl
  simpa using hall

/-- A token that does not begin with a quote or a slash contains no break. -/
theorem Lexical.not_isBreak_of_front {k : Kind} {w cs : List Char} {c : Char} (h : Lexical k w)
    (hw : w <+: c :: cs) (hquote : c ≠ '"') (hslash : c ≠ '/') : ∀ d ∈ w, ¬ isBreak d := by
  obtain ⟨rest, hrest⟩ := hw
  apply h.not_isBreak
  · intro hk
    obtain ⟨body, -, rfl⟩ := h.exists_body hk
    exact hquote (List.cons.inj hrest).1.symm
  · rintro rfl
    rcases h.keepsText_or_fixed with ⟨hkeeps, -⟩ | ⟨-, rfl⟩
    · cases hkeeps
    · exact hslash (List.cons.inj hrest).1.symm

/-! ## What is read depends on the front alone -/

namespace Lexeme

variable {c : Char} {cs cs' rest rest' : List Char} {l : Lexeme}

theorem Reads.exists_lexical (h : l.Reads rest) (hl : l.isComplete) : ∃ k, Lexical k l.chars := by
  cases h with
  | token _ h _ _ => exact ⟨_, h⟩
  | integer hds _ _ => exact ⟨_, .integer hds⟩
  | mantissa hds _ => exact ⟨_, .integer hds⟩
  | string _ hbody => exact ⟨_, .string hbody⟩
  | newline _ | endOfInput _ | error _ _ => cases hl

/-- The kind of a token, from its text and from the front of what follows. -/
theorem Reads.kind_eq {k : Kind} {w : List Char} (h : (plain k w).Reads rest) (hk : k ≠ .error) :
    k = if w.all Char.isDigit then
        if (front rest).head? = some 'e' ∨ (front rest).head? = some 'E' then .floatLiteral
        else .intLiteral
      else Lexical.kindOf w := by
  have hmarker : ((front rest).head? = some 'e' ∨ (front rest).head? = some 'E') ↔
      rest.head? = some 'e' ∨ rest.head? = some 'E' := by
    rw [head?_front (by decide), head?_front (by decide)]
  cases h with
  | token _ hl hdigits _ =>
    rw [if_neg]
    · exact hl.kind_eq
    · intro hall
      exact hdigits ⟨hl.ne_nil, List.all_eq_true.1 hall⟩
  | integer hds he hE =>
    rw [if_pos (List.all_eq_true.2 hds.2), if_neg]
    rw [hmarker, not_or]
    exact ⟨he, hE⟩
  | mantissa hds he => rw [if_pos (List.all_eq_true.2 hds.2), if_pos (hmarker.2 he)]
  | error => exact absurd rfl hk

theorem isPrefix_chars_read (c : Char) (cs : List Char) : (read c cs).1.chars <+: c :: cs :=
  ⟨_, read_append c cs⟩

/-- Only a quote begins a string. -/
theorem Reads.exists_plain (h : l.Reads rest) (hhead : l.chars.head? ≠ some '"') :
    ∃ k w, l = plain k w := by
  cases h with
  | string _ _ | newline _ | endOfInput _ => exact absurd rfl hhead
  | _ => exact ⟨_, _, rfl⟩

theorem exists_plain_read (hquote : c ≠ '"') (hnul : '\x00' ∉ c :: cs) :
    ∃ k w, (read c cs).1 = plain k w := by
  apply (reads_read hnul).exists_plain
  intro hhead
  obtain ⟨w, hw⟩ := List.head?_eq_some_iff.1 hhead
  have happ := read_append c cs
  rw [hw] at happ
  exact hquote (List.cons.inj happ).1.symm

/-- Where no token is read, the first character is an error of its own. -/
theorem read_eq_error (hquote : c ≠ '"') (hnul : '\x00' ∉ c :: cs)
    (hl : ¬ (read c cs).1.isComplete) : (read c cs).1 = plain .error [c] := by
  obtain ⟨k, w, hplain⟩ := exists_plain_read hquote hnul
  have hreads := reads_read hnul
  have happ := read_append c cs
  rw [hplain] at hl hreads happ ⊢
  cases hreads with
  | token _ h _ _ =>
    rcases h.keepsText_or_fixed with ⟨-, hk⟩ | ⟨hk, -⟩
    · simp [Lexeme.isComplete, hk] at hl
    · obtain rfl : k = .error := by simpa [Lexeme.isComplete] using hl
      cases hk
  | integer | mantissa => simp [Lexeme.isComplete] at hl
  | error _ _ => rw [(List.cons.inj happ).1]

/-- Where no string and no slash is read, no break is. -/
theorem not_isBreak_chars_read (hquote : c ≠ '"') (hslash : c ≠ '/') (hblank : ¬ isBlank c)
    (hnul : '\x00' ∉ c :: cs) : ∀ d ∈ (read c cs).1.chars, ¬ isBreak d := by
  by_cases hl : (read c cs).1.isComplete
  · obtain ⟨k, hk⟩ := (reads_read hnul).exists_lexical hl
    exact hk.not_isBreak_of_front (isPrefix_chars_read c cs) hquote hslash
  · rw [read_eq_error hquote hnul hl]
    simp [isBreak, hblank, hslash]

section Agree

variable (hquote : c ≠ '"') (hslash : c ≠ '/') (hfront : front (c :: cs) = front (c :: cs'))

include hquote hslash hfront

/-- The same texts of tokens stand in front of two texts that agree up to a break. -/
theorem prefix_of_front_eq {k : Kind} {w : List Char} (h : Lexical k w) (hw : w <+: c :: cs) :
    w <+: c :: cs' := by
  have hbreak := h.not_isBreak_of_front hw hquote hslash
  rwa [← prefix_front_iff hbreak, ← hfront, prefix_front_iff hbreak]

/-- A token that is read in one text is covered by what is read in the other. -/
theorem covers_of_front_eq (hnul : '\x00' ∉ c :: cs) (hl : (read c cs).1.isComplete) :
    (read c cs').1.Covers (read c cs).1.chars := by
  obtain ⟨k, hk⟩ := (reads_read hnul).exists_lexical hl
  exact covers_of_lexical hk (prefix_of_front_eq hquote hslash hfront hk (isPrefix_chars_read c cs))

variable (hnul : '\x00' ∉ c :: cs) (hnul' : '\x00' ∉ c :: cs')

include hnul hnul'

/-- A token that is read in one text is read in the other with the same characters: neither can be
longer. -/
theorem chars_read_front (hl : (read c cs).1.isComplete) :
    (read c cs').1.chars = (read c cs).1.chars := by
  have hcovers := covers_of_front_eq hquote hslash hfront hnul hl
  have hcovers' := covers_of_front_eq hquote hslash hfront.symm hnul' hcovers.isComplete
  obtain ⟨k, hk⟩ := (reads_read hnul).exists_lexical hl
  have hstart := prefix_of_front_eq hquote hslash hfront hk (isPrefix_chars_read c cs)
  have hchars :=
    List.prefix_of_prefix_length_le hstart (isPrefix_chars_read c cs') hcovers.length_le
  exact (hchars.eq_of_length (le_antisymm hcovers.length_le hcovers'.length_le)).symm

/-- What follows a token has the same front. -/
theorem front_read_snd (hl : (read c cs).1.isComplete) :
    front (read c cs').2 = front (read c cs).2 := by
  obtain ⟨k, hk⟩ := (reads_read hnul).exists_lexical hl
  have hbreak := hk.not_isBreak_of_front (isPrefix_chars_read c cs) hquote hslash
  have happ := read_append c cs'
  rw [chars_read_front hquote hslash hfront hnul hnul' hl] at happ
  rw [← read_append c cs, ← happ, front_append hbreak, front_append hbreak] at hfront
  exact (List.append_cancel_left hfront).symm

/-- **What is read depends on the front alone.** -/
theorem read_front : (read c cs').1 = (read c cs).1 := by
  by_cases hl : (read c cs).1.isComplete
  · have hl' := (covers_of_front_eq hquote hslash hfront hnul hl).isComplete
    have hchars := chars_read_front hquote hslash hfront hnul hnul' hl
    have hrest := front_read_snd hquote hslash hfront hnul hnul' hl
    have hreads := reads_read hnul
    have hreads' := reads_read hnul'
    obtain ⟨k, w, hplain⟩ := exists_plain_read hquote hnul
    obtain ⟨k', w', hplain'⟩ := exists_plain_read hquote hnul'
    rw [hplain] at hl hchars hreads ⊢
    rw [hplain'] at hl' hchars hreads' ⊢
    obtain rfl : w' = w := hchars
    rw [hreads.kind_eq (by simpa [Lexeme.isComplete] using hl),
      hreads'.kind_eq (by simpa [Lexeme.isComplete] using hl'), hrest]
  · -- A token in the other text would be a token here.
    have hl' : ¬ (read c cs').1.isComplete := by
      intro hcomplete
      exact hl (covers_of_front_eq hquote hslash hfront.symm hnul' hcomplete).isComplete
    rw [read_eq_error hquote hnul hl, read_eq_error hquote hnul' hl']

end Agree

/-! ## Strings -/

/-- A string that does not run into the end of the text has a body without raw quotes, newlines
and lone backslashes, however it ends. -/
theorem isStringBody_stringBody (hnul : '\x00' ∉ cs) (h : (stringBody cs).2.1 ≠ .endOfInput) :
    IsStringBody (stringBody cs).1 := by
  induction cs using stringBody.induct with
  | case1 => exact absurd rfl h
  | case2 rest => exact .nil
  | case3 rest => exact .nil
  | case4 c rest body ending rest' heq ih =>
    simp only [List.mem_cons, not_or] at hnul
    simp only [stringBody, heq] at ih h ⊢
    exact .escape (Ne.symm hnul.2.1) (ih hnul.2.2 h)
  | case5 c rest hquote hnewline hescape body ending rest' heq ih =>
    simp only [List.mem_cons, not_or] at hnul
    by_cases hc : c = '\\'
    · cases rest with
      | nil =>
        subst hc
        exact absurd rfl h
      | cons d rest => exact (hescape d rest hc rfl).elim
    · simp only [stringBody, heq] at ih h ⊢
      exact .char hquote hc hnewline (Ne.symm hnul.1) (ih hnul.2 h)

/-- The scanner stops a string before the newline that ends it. -/
theorem stringBody_newline {body : List Char} (h : IsStringBody body) (t : List Char) :
    stringBody (body ++ '\n' :: t) = (body, .newline, '\n' :: t) := by
  induction h with
  | nil => rfl
  | @escape c body _ _ ih => simp [stringBody, ih]
  | @char c body _ hb _ _ _ ih => simp [stringBody, ih, hb]

end Lexeme

/-! ## Texts that look the same to what stands before them -/

/-- The text `rest'` looks the same as `rest` to a piece that stands before it: the fronts agree,
the newline that ends a string is still there, and no slash makes a comment of a slash. -/
structure Akin (rest rest' : List Char) : Prop where
  front : front rest' = front rest
  newline : rest.head? = some '\n' → rest'.head? = some '\n'
  slash : rest'.head? = some '/' → rest.head? = some '/'

theorem Akin.append {rest rest' : List Char} (h : Akin rest rest') (w : List Char) :
    Akin (w ++ rest) (w ++ rest') := by
  cases w with
  | nil => exact h
  | cons c w => exact ⟨front_append_congr h.front (c :: w), id, id⟩

namespace Piece

/-- The pieces that end only because the text does. -/
def isOpen : Piece → Bool
  | lineComment _ closed => !closed
  | openComment _ => true
  | lexeme (.quoted _ .endOfInput) => true
  | _ => false

variable {cs rest rest' : List Char} {p : Piece}

theorem eq_nil_of_isOpen (h : read? cs = some (p, rest)) (hnul : '\x00' ∉ cs) (hopen : p.isOpen) :
    rest = [] := by
  have hreads := reads_of_read? h
  cases p with
  | blank c | blockComment body => cases hopen
  | lineComment body closed =>
    cases hreads with
    | line => cases hopen
    | openLine => rfl
  | openComment body =>
    cases hreads with
    | openBlock => rfl
  | lexeme l =>
    have hlexeme := reads_lexeme_of_read? h hnul
    cases hlexeme with
    | endOfInput => rfl
    | _ => cases hopen

theorem read?_quote (cs : List Char) :
    read? ('"' :: cs) = some (lexeme (Lexeme.string cs).1, (Lexeme.string cs).2) :=
  read?_lexeme (by decide) nofun

/-- A closed string is read before any text. -/
theorem read?_string {body : List Char} (h : IsStringBody body) (rest : List Char) :
    read? ((Lexeme.quoted body .closed).chars ++ rest) =
      some (lexeme (.quoted body .closed), rest) := by
  rw [Lexeme.chars, List.cons_append, List.append_assoc, read?_quote, Lexeme.string,
    List.singleton_append, Lexeme.stringBody_append h]

theorem read?_akin_string (hnul : '\x00' ∉ cs) (hopen : ¬ (lexeme (Lexeme.string cs).1).isOpen)
    (hakin : Akin (Lexeme.string cs).2 rest') :
    read? ((Lexeme.string cs).1.chars ++ rest') = some (lexeme (Lexeme.string cs).1, rest') := by
  have hbody := Lexeme.isStringBody_stringBody hnul
  have hclosed : Ending.closed ≠ .endOfInput := by decide
  have hnewline : Ending.newline ≠ .endOfInput := by decide
  have hreads := Lexeme.reads_stringBody hnul
  rw [Lexeme.string] at hopen hakin ⊢
  generalize Lexeme.stringBody cs = result at *
  obtain ⟨body, ending, rest⟩ := result
  cases ending with
  | closed => exact read?_string (hbody hclosed) rest'
  | newline =>
    cases hreads with
    | newline hn =>
      obtain ⟨t, rfl⟩ := List.head?_eq_some_iff.1 (hakin.newline hn)
      show read? ('"' :: (body ++ '\n' :: t)) = _
      rw [read?_quote, Lexeme.string, Lexeme.stringBody_newline (hbody hnewline)]
  | endOfInput => exact absurd rfl hopen

section Front

variable (hnul' : '\x00' ∉ rest') (hfront : MiniC.front rest' = MiniC.front rest)
include hfront

/-- A slash is a token before the same texts. -/
theorem read?_slash (hslash : rest.head? ≠ some '/' ∧ rest.head? ≠ some '*')
    (hslash' : rest'.head? = some '/' → rest.head? = some '/') :
    read? ('/' :: rest') = some (lexeme (.plain .div ['/']), rest') := by
  refine read?_lexeme (by decide) fun _ => ⟨fun h => hslash.1 (hslash' h), fun h => ?_⟩
  rw [← head?_front (by decide), hfront, head?_front (by decide)] at h
  exact hslash.2 h

include hnul'

theorem read?_unbroken {c : Char} {l : Lexeme} (h : Lexeme.read c cs = (l, rest))
    (hnul : '\x00' ∉ c :: cs) (hblank : ¬ isBlank c) (hquote : c ≠ '"') (hslash : c ≠ '/') :
    read? (l.chars ++ rest') = some (lexeme l, rest') := by
  obtain ⟨rfl, rfl⟩ : (Lexeme.read c cs).1 = l ∧ (Lexeme.read c cs).2 = rest := by simp [h]
  have hstart := Lexeme.isPrefix_chars_read c cs
  have hchars : '\x00' ∉ (Lexeme.read c cs).1.chars := fun hmem => hnul (hstart.subset hmem)
  have hbreak := Lexeme.not_isBreak_chars_read hquote hslash hblank hnul
  obtain ⟨cs', hcs'⟩ : ∃ cs', (Lexeme.read c cs).1.chars ++ rest' = c :: cs' := by
    obtain ⟨d, w, hw⟩ := List.exists_cons_of_ne_nil (Lexeme.chars_read_ne_nil c cs)
    obtain ⟨t, ht⟩ := hstart
    rw [hw] at ht ⊢
    exact ⟨w ++ rest', by rw [← (List.cons.inj ht).1]; rfl⟩
  have hfront' : MiniC.front (c :: cs) = MiniC.front (c :: cs') := by
    rw [← hcs', ← Lexeme.read_append c cs, front_append hbreak, front_append hbreak, hfront]
  have hnul'' : '\x00' ∉ c :: cs' := by
    rw [← hcs', List.mem_append, not_or]
    exact ⟨hchars, hnul'⟩
  have hread := Lexeme.read_front hquote hslash hfront' hnul hnul''
  have hsnd : (Lexeme.read c cs').2 = rest' := by
    have happ := Lexeme.read_append c cs'
    rw [hread, ← hcs'] at happ
    exact List.append_cancel_left happ
  rw [hcs', read?_lexeme hblank fun hc => absurd hc hslash, hread, hsnd]

/-- A token that is no string is read again before any text with the same front, unless a slash
there makes a comment of it. -/
theorem read?_plain {k : Kind} {w : List Char} (h : read? cs = some (lexeme (.plain k w), rest))
    (hnul : '\x00' ∉ cs) (hslash' : rest'.head? = some '/' → rest.head? = some '/') :
    read? (w ++ rest') = some (lexeme (.plain k w), rest') := by
  obtain ⟨c, cs, rfl, hblank, hslash, hread⟩ := exists_cons_of_read? h
  have hquote : c ≠ '"' := by
    rintro rfl
    cases hread
  by_cases hc : c = '/'
  · subst hc
    obtain ⟨hplain, rfl⟩ := Prod.ext_iff.1 hread
    cases hplain
    exact read?_slash hfront (hslash rfl) hslash'
  · exact read?_unbroken hnul' hfront hread hnul hblank hquote hc

end Front

/-- **A piece is read again before any text that looks the same to it.** -/
theorem read?_akin (h : read? cs = some (p, rest)) (hnul : '\x00' ∉ cs) (hnul' : '\x00' ∉ rest')
    (hopen : ¬ p.isOpen) (hakin : Akin rest rest') :
    read? (p.chars ++ rest') = some (p, rest') := by
  have hreads := reads_of_read? h
  cases p with
  | blank c =>
    cases hreads with
    | blank _ hc => exact read?_blank hc rest'
  | lineComment body closed =>
    cases hreads with
    | line _ hbody => exact read?_lineComment hbody rest'
    | openLine => exact absurd rfl hopen
  | blockComment body =>
    cases hreads with
    | block _ hbody => exact read?_blockComment hbody rest'
  | openComment body => exact absurd rfl hopen
  | lexeme l =>
    cases l with
    | plain k w => exact read?_plain hnul' hakin.front h hnul hakin.slash
    | quoted body ending =>
      obtain ⟨c, cs, rfl, -, -, hread⟩ := exists_cons_of_read? h
      have hquote : c = '"' := by
        by_contra hc
        obtain ⟨k, w, hplain⟩ := Lexeme.exists_plain_read hc hnul
        rw [hread] at hplain
        cases hplain
      subst hquote
      obtain ⟨hstring, rfl⟩ := Prod.ext_iff.1 hread
      replace hstring : (Lexeme.string cs).1 = .quoted body ending := hstring
      rw [← hstring] at hopen ⊢
      exact read?_akin_string (fun hmem => hnul (List.mem_cons_of_mem _ hmem)) hopen hakin

end Piece

end MiniC
