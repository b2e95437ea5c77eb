import MiniC.Proofs.Tiling

/-!
# Every token is a longest match

**Theorem (`tokenize_longest`).** Where the text of a token starts, the scanner takes the longest
one, and its kind is the one of that text. Digits are the exception: they are a floating-point
literal when an exponent marker follows, complete or not. Where no text of a token starts, the
scanner takes a string up to the end of its line, an error that is the rest of the source from a
quote on, or an error of one character.

The source is read up to its first end marker. No text of a token contains one, so it makes no
difference whether the longest match is sought in the whole source or in the part that is read
(`front_readable`).
-/

namespace MiniC

/-! ## Longest matches -/

/-- The text of a token is at the front of `rest`. -/
def StartsToken (rest : List Char) : Prop := ∃ k w, Lexical k w ∧ w <+: rest

/-- The longest text of a token at the front of `rest` is `w`. -/
structure IsLongest (w rest : List Char) : Prop where
  lexical : ∃ k, Lexical k w
  front : w <+: rest
  length_le : ∀ k v, Lexical k v → v <+: rest → v.length ≤ w.length

/-- The token takes the characters from index `a` to index `b` of the source by the rule of the
longest match. -/
inductive Token.Munches (source : List Char) (t : Token) (a b : Nat) : Prop
  | token : IsLongest (source.extract a b) (source.drop a) → ¬ IsDigits (source.extract a b) →
      (∀ k, Lexical k (source.extract a b) ↔ k = t.kind) → Munches source t a b
  | digits : IsLongest (source.extract a b) (source.drop a) → IsDigits (source.extract a b) →
      t.kind = (if source[b]? = some 'e' ∨ source[b]? = some 'E' then .floatLiteral
        else .intLiteral) → Munches source t a b
  | newline : ¬ StartsToken (source.drop a) → source[a]? = some '"' → source[b]? = some '\n' →
      t.kind = .stringLiteral → Munches source t a b
  | endOfInput : ¬ StartsToken (source.drop a) → source[a]? = some '"' →
      b = source.idxOf '\x00' → t.kind = .error → Munches source t a b
  | error : ¬ StartsToken (source.drop a) → b = a + 1 → t.kind = .error → Munches source t a b

/-! ## The end marker makes no difference -/

section Readable

variable {source : String} {a b : Nat}

theorem length_readable : (readable source).length = source.toList.idxOf '\x00' := by
  rw [readable, List.length_take]
  exact min_eq_left List.idxOf_le_length

theorem take_readable (h : b ≤ (readable source).length) :
    (readable source).take b = source.toList.take b := by
  rw [length_readable] at h
  rw [readable, List.take_take, min_eq_left h]

theorem extract_readable (h : b ≤ (readable source).length) :
    (readable source).extract a b = source.toList.extract a b := by
  rw [List.extract_eq_drop_take', List.extract_eq_drop_take', take_readable h]

theorem placeAt_readable (h : b ≤ (readable source).length) :
    placeAt (readable source) b = placeAt source.toList b := by
  rw [placeAt_eq, placeAt_eq, take_readable h]

theorem drop_readable (source : String) (a : Nat) : (readable source).drop a =
    (source.toList.drop a).take ((readable source).length - a) := by
  rw [length_readable, readable, List.drop_take]

/-- What follows the characters that are read can only be the end marker. -/
theorem eq_nul_of_unread {c : Char} (h : source.toList[(readable source).length]? = some c) :
    c = '\x00' := by
  rw [length_readable] at h
  obtain ⟨hlt, hget⟩ := List.getElem?_eq_some_iff.1 h
  rw [← hget, List.getElem_idxOf hlt]

/-- A text without the end marker that starts in the part that is read ends there. -/
theorem length_le_readable {w : List Char} (hw : '\x00' ∉ w) (ha : a ≤ (readable source).length)
    (h : w <+: source.toList.drop a) : w.length ≤ (readable source).length - a := by
  by_contra hlt
  rw [Nat.not_le] at hlt
  obtain ⟨t, ht⟩ := h
  have hget : (w ++ t)[(readable source).length - a]? = w[(readable source).length - a]? :=
    List.getElem?_append_left hlt
  rw [ht, List.getElem?_drop, Nat.add_sub_cancel' ha, List.getElem?_eq_getElem hlt] at hget
  have hmem := List.getElem_mem hlt
  rw [eq_nul_of_unread hget] at hmem
  exact hw hmem

theorem front_readable {w : List Char} (hw : '\x00' ∉ w) (ha : a ≤ (readable source).length) :
    w <+: (readable source).drop a ↔ w <+: source.toList.drop a := by
  rw [drop_readable, List.prefix_take_iff]
  exact ⟨And.left, fun h => ⟨h, length_le_readable hw ha h⟩⟩

theorem head?_drop_readable {c : Char} (hc : c ≠ '\x00') (hb : b ≤ (readable source).length) :
    ((readable source).drop b).head? = some c ↔ source.toList[b]? = some c := by
  have hfront : ∀ cs : List Char, [c] <+: cs ↔ cs.head? = some c := by
    intro cs
    cases cs <;> simp [eq_comm]
  rw [← List.head?_drop, ← hfront, ← hfront]
  exact front_readable (by simpa using hc.symm) hb

end Readable

/-! ## What a read takes -/

section Match

variable {source : List Char} {a b : Nat} {l : Lexeme} (hslice : source.extract a b = l.chars)
  (hcovers : ∀ k w, Lexical k w → w <+: source.drop a → l.Covers w)

include hslice in
theorem chars_front : l.chars <+: source.drop a := by
  rw [← hslice, List.extract_eq_take_drop]
  exact List.take_prefix _ _

include hslice in
theorem getElem?_of_chars {c : Char} {cs : List Char} (h : l.chars = c :: cs) :
    source[a]? = some c := by
  obtain ⟨t, ht⟩ := chars_front hslice
  rw [← List.head?_drop, ← ht, h]
  rfl

include hslice hcovers in
theorem isLongest_of_lexical {k : Kind} (h : Lexical k l.chars) :
    IsLongest (source.extract a b) (source.drop a) := by
  rw [hslice]
  refine ⟨⟨k, h⟩, chars_front hslice, ?_⟩
  intro k' v hv hfront
  exact (hcovers k' v hv hfront).length_le

include hcovers in
theorem not_startsToken (h : ¬ l.isComplete) : ¬ StartsToken (source.drop a) := by
  rintro ⟨k, w, hw, hfront⟩
  exact h (hcovers k w hw hfront).isComplete

include hslice hcovers in
theorem munches_of_lexical (h : Lexical l.kind l.chars) (hdigits : ¬ IsDigits l.chars)
    (span : Span) : (l.token span).Munches source a b := by
  refine .token (isLongest_of_lexical hslice hcovers h) (hslice ▸ hdigits) ?_
  intro k
  rw [hslice]
  constructor
  · intro hk
    exact hk.kind_unique h
  · rintro rfl
    exact h

end Match

/-- The lexeme of a token, sought in the whole source. -/
theorem ReadAt.exists_lexeme_source {source : String} {t : Token} {a b : Nat}
    (h : ReadAt (readable source) t a b) (hb : b ≤ (readable source).length) :
    ∃ l : Lexeme, t = l.token ⟨placeAt source.toList a, placeAt source.toList b⟩ ∧
      b = a + l.chars.length ∧ source.toList.extract a b = l.chars ∧
      l.Reads ((readable source).drop b) ∧
      ∀ k w, Lexical k w → w <+: source.toList.drop a → l.Covers w := by
  obtain ⟨l, ht, hlen, hslice, hreads, hcovers⟩ := h.exists_lexeme (nul_notMem_readable source)
  have ha : a ≤ (readable source).length := by omega
  rw [placeAt_readable ha, placeAt_readable hb] at ht
  rw [extract_readable hb] at hslice
  refine ⟨l, ht, hlen, hslice, hreads, ?_⟩
  intro k w hw hfront
  exact hcovers k w hw ((front_readable hw.nul_notMem ha).2 hfront)

theorem ReadAt.munches {source : String} {t : Token} {a b : Nat}
    (h : ReadAt (readable source) t a b) (hb : b ≤ (readable source).length) :
    t.span = ⟨placeAt source.toList a, placeAt source.toList b⟩ ∧
      t.Munches source.toList a b := by
  obtain ⟨l, rfl, hlen, hslice, hreads, hcovers⟩ := h.exists_lexeme_source hb
  refine ⟨rfl, ?_⟩
  generalize hrest : (readable source).drop b = rest at hreads
  have hnext : ∀ {c : Char}, c ≠ '\x00' → (rest.head? = some c ↔ source.toList[b]? = some c) := by
    intro c hc
    rw [← hrest]
    exact head?_drop_readable hc hb
  cases hreads with
  | token _ hl hdigits _ => exact munches_of_lexical hslice hcovers hl hdigits _
  | integer hds he hE =>
    refine .digits (isLongest_of_lexical hslice hcovers (.integer hds)) (hslice ▸ hds) ?_
    rw [if_neg]
    · rfl
    · rw [not_or, ← hnext (by decide), ← hnext (by decide)]
      exact ⟨he, hE⟩
  | mantissa hds he =>
    refine .digits (isLongest_of_lexical hslice hcovers (.integer hds)) (hslice ▸ hds) ?_
    rw [if_pos]
    · rfl
    · rw [← hnext (by decide), ← hnext (by decide)]
      exact he
  | string _ hbody =>
    refine munches_of_lexical hslice hcovers (.string hbody) ?_ _
    exact not_isDigits_of_mem (c := '"') (by decide) List.mem_cons_self
  | newline hn =>
    exact .newline (not_startsToken hcovers nofun) (getElem?_of_chars hslice rfl)
      ((hnext (by decide)).1 hn) rfl
  | endOfInput body =>
    refine .endOfInput (not_startsToken hcovers nofun) (getElem?_of_chars hslice rfl) ?_ rfl
    rw [← length_readable]
    exact le_antisymm hb (List.drop_eq_nil_iff.1 hrest)
  | error _ _ => exact .error (not_startsToken hcovers nofun) hlen rfl

/-- **Every token is a longest match.** The tokens tile what is read of a source, each at the range
that its span tells, and each by the rule of the longest match in the whole source. -/
theorem tokenize_longest (source : String) : ∃ ranges tokens,
    (tokenize source).1 =
      tokens ++ [.endOfInput (placeAt (readable source) (readable source).length)] ∧
    (∀ t ∈ tokens, t.kind ≠ .eof) ∧
    Tiles (fun t a b => t.span = ⟨placeAt source.toList a, placeAt source.toList b⟩ ∧
      t.Munches source.toList a b) (readable source) 0 ranges tokens := by
  obtain ⟨ranges, tokens, htokens, hkinds, htiles⟩ := tiles_readable source
  refine ⟨ranges, tokens, htokens, hkinds, htiles.mono ?_⟩
  intro t a b hb h
  exact h.munches hb

end MiniC
