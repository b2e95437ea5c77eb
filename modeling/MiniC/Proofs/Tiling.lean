import MiniC.Proofs.Gap

/-!
# Tokens tile the text

**Places.** The place of an index is counted from the text alone: its line is one more than the
newlines before the index, its column one more than the characters since the last of them
(`placeAt`). The place that the scanner keeps up to date is the place of what it has read
(`after_origin`).

**Theorem (`tokenize_tiles`).** The tokens of a source stand in it one after another, each exactly
at its span. Before, between and after them there is nothing but blanks and comments, and the text
of each token is the one that its kind and lexeme tell.

The invariant of a run is that the scanner is in step with an index of the text (`InStep`): the
unread text starts there, and the place is the one of that index.
-/

namespace MiniC

/-! ## The place of an index -/

/-- The line and the column of the character at an index, or of the end of the text. -/
def placeAt (text : List Char) (i : Nat) : Place where
  line := 1 + (text.take i).count '\n'
  column := 1 + ((text.take i).reverse.takeWhile (· != '\n')).length

theorem after_origin (s : List Char) : Place.origin.after s =
    ⟨1 + s.count '\n', 1 + (s.reverse.takeWhile (· != '\n')).length⟩ := by
  induction s using List.reverseRecOn with
  | nil => rfl
  | append_singleton s c ih =>
    rw [Place.after_append, ih, Place.after_cons, Place.after_nil, Place.step]
    by_cases hc : c = '\n'
    · subst hc
      simp [Nat.add_assoc]
    · simp [hc, Nat.add_comm]

theorem placeAt_eq (text : List Char) (i : Nat) :
    placeAt text i = Place.origin.after (text.take i) := (after_origin _).symm

section Slices

variable {text s rest : List Char} {i : Nat} (h : text.drop i = s ++ rest)

include h

theorem drop_add_length : text.drop (i + s.length) = rest := by
  rw [← List.drop_drop, h, List.drop_left]

theorem extract_add_length : text.extract i (i + s.length) = s := by
  rw [List.extract_eq_take_drop, h, Nat.add_sub_cancel_left, List.take_left]

theorem placeAt_add_length : placeAt text (i + s.length) = (placeAt text i).after s := by
  rw [placeAt_eq, placeAt_eq, List.take_add, h, List.take_left, Place.after_append]

theorem add_length_le (hs : s ≠ []) : i + s.length ≤ text.length := by
  have hlen := congrArg List.length h
  have hpos := List.length_pos_iff.2 hs
  rw [List.length_drop, List.length_append] at hlen
  omega

end Slices

/-! ## Tilings -/

/-- From index `i` on, the text is the tokens at their ranges, and gaps. The relation `P` says what
holds of each token and its range. -/
inductive Tiles (P : Token → Nat → Nat → Prop) (text : List Char) :
    Nat → List (Nat × Nat) → List Token → Prop
  | last {i : Nat} : FinalGap (text.drop i) → Tiles P text i [] []
  | token {i a b : Nat} {t : Token} {ranges : List (Nat × Nat)} {tokens : List Token} :
      i ≤ a → a < b → b ≤ text.length → Gap (text.extract i a) → P t a b →
      Tiles P text b ranges tokens → Tiles P text i ((a, b) :: ranges) (t :: tokens)

theorem Tiles.mono {P Q : Token → Nat → Nat → Prop} {text : List Char} {i : Nat}
    {ranges : List (Nat × Nat)} {tokens : List Token} (h : Tiles P text i ranges tokens)
    (hPQ : ∀ t a b, b ≤ text.length → P t a b → Q t a b) : Tiles Q text i ranges tokens := by
  induction h with
  | last hg => exact .last hg
  | token hia hab hb hg ht _ ih => exact .token hia hab hb hg (hPQ _ _ _ hb ht) ih

/-! ## One scan, by index -/

/-- The token is the lexeme that starts at index `a`, and it ends before index `b`. -/
inductive ReadAt (text : List Char) (t : Token) (a b : Nat) : Prop
  | intro {c : Char} {cs : List Char} : text.drop a = c :: cs →
      b = a + (Lexeme.read c cs).1.chars.length →
      t = (Lexeme.read c cs).1.token ⟨placeAt text a, placeAt text b⟩ → ReadAt text t a b

/-- The cursor has read the text up to index `i`. -/
structure InStep (text : List Char) (i : Nat) (c : Cursor) : Prop where
  rest : c.rest = text.drop i
  place : c.place = placeAt text i

theorem placeAt_length (text : List Char) (i : Nat) :
    placeAt text text.length = (placeAt text i).after (text.drop i) := by
  rw [placeAt_eq, placeAt_eq, ← Place.after_append, List.take_append_drop, List.take_length]

/-- **One scan keeps the cursor in step.** It finds a token after a gap, or the end of input. -/
theorem next_inStep {text : List Char} {i : Nat} {c : Cursor} (h : InStep text i c) :
    FinalGap (text.drop i) ∧ c.next.1.token = .endOfInput (placeAt text text.length) ∨
    ∃ a b, i ≤ a ∧ a < b ∧ b ≤ text.length ∧ Gap (text.extract i a) ∧
      ReadAt text c.next.1.token a b ∧ InStep text b c.next.2 := by
  have hscan := c.scans_next
  generalize c.next.1.token = t at hscan ⊢
  generalize c.next.2 = c' at hscan ⊢
  cases hscan with
  | endOfInput hg =>
    left
    rw [h.rest] at hg
    rw [h.rest, h.place, ← placeAt_length]
    exact ⟨hg, rfl⟩
  | @lexeme gap cs d hg hrest =>
    right
    have hgap : text.drop i = gap ++ d :: cs := h.rest ▸ hrest
    have hread : text.drop (i + gap.length) =
        (Lexeme.read d cs).1.chars ++ (Lexeme.read d cs).2 := by
      rw [drop_add_length hgap, Lexeme.read_append]
    have hne := Lexeme.chars_read_ne_nil d cs
    have hpos := List.length_pos_iff.2 hne
    have hstart : c.place.after gap = placeAt text (i + gap.length) := by
      rw [h.place, placeAt_add_length hgap]
    have hstop := placeAt_add_length hread
    rw [Place.after_append, hstart, ← hstop]
    refine ⟨i + gap.length, _, by omega, by omega, add_length_le hread hne, ?_, ?_, ?_⟩
    · rw [extract_add_length hgap]
      exact hg
    · exact .intro (drop_add_length hgap) rfl rfl
    · exact ⟨(drop_add_length hread).symm, rfl⟩

/-! ## All scans -/

theorem Lexeme.Reads.kind_ne_eof {l : Lexeme} {rest : List Char} (h : l.Reads rest) :
    l.kind ≠ .eof := by
  cases h with
  | token _ hl _ _ =>
    rintro rfl
    rcases hl.keepsText_or_fixed with ⟨hkeeps, -⟩ | ⟨hfixed, -⟩
    · exact absurd hkeeps (by decide)
    · exact absurd hfixed (by decide)
  | _ => exact nofun

/-- The lexeme of a token, in a text without an end marker: one of the outcomes of a read, and a
token whenever the text of a token starts there. -/
theorem ReadAt.exists_lexeme {text : List Char} {t : Token} {a b : Nat} (h : ReadAt text t a b)
    (hnul : '\x00' ∉ text) :
    ∃ l : Lexeme, t = l.token ⟨placeAt text a, placeAt text b⟩ ∧ b = a + l.chars.length ∧
      text.extract a b = l.chars ∧ l.Reads (text.drop b) ∧
      ∀ k w, Lexical k w → w <+: text.drop a → l.Covers w := by
  obtain @⟨c, cs, hdrop, rfl, ht⟩ := h
  have hread : text.drop a = (Lexeme.read c cs).1.chars ++ (Lexeme.read c cs).2 := by
    rw [hdrop, Lexeme.read_append]
  have hnul' : '\x00' ∉ c :: cs := by
    rw [← hdrop]
    intro hmem
    exact hnul (List.mem_of_mem_drop hmem)
  refine ⟨(Lexeme.read c cs).1, ht, rfl, extract_add_length hread, ?_, ?_⟩
  · rw [drop_add_length hread]
    exact Lexeme.reads_read hnul'
  · intro k w hw hfront
    rw [hdrop] at hfront
    exact Lexeme.covers_of_lexical hw hfront

theorem ReadAt.kind_ne_eof {text : List Char} {t : Token} {a b : Nat} (h : ReadAt text t a b)
    (hnul : '\x00' ∉ text) : t.kind ≠ .eof := by
  obtain ⟨l, rfl, -, -, hreads, -⟩ := h.exists_lexeme hnul
  exact hreads.kind_ne_eof

/-- **All scans keep the cursor in step**, so the tokens tile the text. -/
theorem scanAll_tiles {text : List Char} (hnul : '\x00' ∉ text) {i : Nat} {s : Scanner}
    (h : InStep text i s.cursor) :
    ∃ ranges tokens, s.scanAll.1 = tokens ++ [.endOfInput (placeAt text text.length)] ∧
      (∀ t ∈ tokens, t.kind ≠ .eof) ∧ Tiles (ReadAt text) text i ranges tokens := by
  fun_induction Scanner.scanAll s generalizing i with
  | case1 s heof =>
    rcases next_inStep h with ⟨hgap, htoken⟩ | ⟨a, b, -, -, -, -, hread, -⟩
    · exact ⟨[], [], congrArg ([·]) htoken, nofun, .last hgap⟩
    · exact absurd heof (hread.kind_ne_eof hnul)
  | case2 s heof tokens s' hs ih =>
    rcases next_inStep h with ⟨-, htoken⟩ | ⟨a, b, hia, hab, hb, hgap, hread, hstep⟩
    · exact absurd (congrArg Token.kind htoken) heof
    · obtain ⟨ranges, tokens', htokens, hkinds, htiles⟩ := ih hstep
      refine ⟨(a, b) :: ranges, s.scan.1 :: tokens', ?_, ?_, ?_⟩
      · rw [hs] at htokens
        exact congrArg (s.scan.1 :: ·) htokens
      · exact List.forall_mem_cons.2 ⟨heof, hkinds⟩
      · exact .token hia hab hb hgap hread htiles

/-- The characters of a source before its first end marker. -/
def readable (source : String) : List Char := source.toList.take (source.toList.idxOf '\x00')

theorem readable_eq_takeWhile (source : String) :
    readable source = source.toList.takeWhile (· != '\x00') := by
  rw [List.takeWhile_eq_take_findIdx_not, readable, List.idxOf]
  congr 2
  funext c
  rw [bne, Bool.not_not]

theorem nul_notMem_readable (source : String) : '\x00' ∉ readable source := by
  rw [readable_eq_takeWhile]
  intro hmem
  simpa using List.mem_takeWhile_imp hmem

/-- The scanner reads the readable characters, and its tokens tile them. -/
theorem tiles_readable (source : String) : ∃ ranges tokens,
    (tokenize source).1 =
      tokens ++ [.endOfInput (placeAt (readable source) (readable source).length)] ∧
    (∀ t ∈ tokens, t.kind ≠ .eof) ∧
    Tiles (ReadAt (readable source)) (readable source) 0 ranges tokens := by
  have hstep : InStep (readable source) 0 (Scanner.ofText source).cursor :=
    ⟨(readable_eq_takeWhile source).symm, rfl⟩
  exact scanAll_tiles (nul_notMem_readable source) hstep

/-! ## What each token spells -/

/-- The characters `slice` of the token, before `rest`, are those that its kind and its lexeme
tell. A string stands in quotes, of which the second is missing at the end of a line; at the end
of the text it is an error. -/
def Token.SpelledBy (t : Token) (slice rest : List Char) : Prop :=
  match t.kind with
  | .stringLiteral => slice = '"' :: (t.lexeme.toList ++ ['"']) ∨
      slice = '"' :: t.lexeme.toList ∧ rest.head? = some '\n'
  | .error => slice = t.lexeme.toList ∧ slice.head? ≠ some '"' ∨
      slice = '"' :: t.lexeme.toList ∧ rest = []
  | k => if k.hasFixedText then slice = k.spelling.toList ∧ t.lexeme = ""
      else slice = t.lexeme.toList

namespace Lexeme

theorem toList_lexeme_token (l : Lexeme) (span : Span) : (l.token span).lexeme.toList = l.text :=
  String.toList_ofList

theorem spelledBy_of_keepsText {k : Kind} {cs rest : List Char} (hkeeps : k.keepsText)
    (herror : k ≠ .error) (hstring : k ≠ .stringLiteral) (span : Span) :
    ((plain k cs).token span).SpelledBy cs rest := by
  have hfixed : ¬ k.hasFixedText := by
    simp only [Kind.keepsText, Bool.not_eq_true', Bool.or_eq_false_iff] at hkeeps
    simp [Kind.hasFixedText, hkeeps.1]
  have htext : cs = ((plain k cs).token span).lexeme.toList := by
    rw [toList_lexeme_token, text, if_pos hkeeps]
  unfold Token.SpelledBy
  split
  · next hk => exact absurd hk hstring
  · next hk => exact absurd hk herror
  · exact (if_neg hfixed).mpr htext

theorem Reads.spelledBy {l : Lexeme} {rest : List Char} (h : l.Reads rest) (span : Span) :
    (l.token span).SpelledBy l.chars rest := by
  cases h with
  | @token k cs _ hl _ hk =>
    rcases hl.keepsText_or_fixed with ⟨hkeeps, herror⟩ | ⟨hfixed, rfl⟩
    · exact spelledBy_of_keepsText hkeeps herror hk span
    · cases k <;> cases hfixed <;> exact ⟨rfl, rfl⟩
  | integer hds _ _ => exact spelledBy_of_keepsText (k := .intLiteral) rfl nofun nofun span
  | mantissa hds _ => exact spelledBy_of_keepsText (k := .floatLiteral) rfl nofun nofun span
  | @string body _ hbody =>
    left
    rw [toList_lexeme_token]
    rfl
  | @newline body _ hrest =>
    right
    rw [toList_lexeme_token]
    exact ⟨rfl, hrest⟩
  | endOfInput body =>
    right
    rw [toList_lexeme_token]
    exact ⟨rfl, rfl⟩
  | @error c _ hc =>
    left
    rw [toList_lexeme_token]
    exact ⟨rfl, by simpa using hc⟩

end Lexeme

/-- The token stands at the range: its span and its spelling are those of the text there. -/
structure Token.StandsAt (text : List Char) (t : Token) (a b : Nat) : Prop where
  span : t.span = ⟨placeAt text a, placeAt text b⟩
  spelledBy : t.SpelledBy (text.extract a b) (text.drop b)

theorem ReadAt.standsAt {text : List Char} {t : Token} {a b : Nat} (h : ReadAt text t a b)
    (hnul : '\x00' ∉ text) : t.StandsAt text a b := by
  obtain ⟨l, rfl, -, hslice, hreads, -⟩ := h.exists_lexeme hnul
  refine ⟨rfl, ?_⟩
  rw [hslice]
  exact hreads.spelledBy _

/-- **Tokens tile the source.** Up to its first end marker, a source is the tokens of the scanner,
each at the range that its span tells and spelled as its kind and lexeme tell, with gaps before,
between and after them; the end of input follows at the end. -/
theorem tokenize_tiles (source : String) : ∃ ranges tokens,
    (tokenize source).1 =
      tokens ++ [.endOfInput (placeAt (readable source) (readable source).length)] ∧
    (∀ t ∈ tokens, t.kind ≠ .eof) ∧
    Tiles (Token.StandsAt (readable source)) (readable source) 0 ranges tokens := by
  obtain ⟨ranges, tokens, htokens, hkinds, htiles⟩ := tiles_readable source
  refine ⟨ranges, tokens, htokens, hkinds, htiles.mono fun t a b _ h => ?_⟩
  exact h.standsAt (nul_notMem_readable source)

end MiniC
