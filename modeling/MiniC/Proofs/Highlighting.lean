import MiniC.Proofs.InRange
import MiniC.Proofs.Warnings

/-!
# What highlighting shows of the tokens

**Theorem (`shows_tokens`).** On the lines of a source, a character that no token covers is dimmed,
and a character that a token covers has the style of the token, if the token starts on that line.

**Continuations.** The tokens of a line are those that start on it. A string goes on after an
escaped newline, and there it is dimmed like what lies between tokens
(`not_shows_escapedNewline`).

**Order.** The tokens of a source are in order (`InOrder`), as they tile it, so no character is
covered twice. On a line they bring no column back, and nothing is clamped but what lies past the
end of the line: each token is cut at its own borders (`cut_cons_onLine`). By induction over the
tokens, every character gets the style of the one that covers it (`styled_cut`).
-/

namespace MiniC

open Screen

/-! ## Places a span covers -/

instance : LT Place := ⟨fun p q => p.line < q.line ∨ p.line = q.line ∧ p.column < q.column⟩

theorem Place.le_iff {p q : Place} :
    p ≤ q ↔ p.line < q.line ∨ p.line = q.line ∧ p.column ≤ q.column := Iff.rfl

theorem Place.lt_iff {p q : Place} :
    p < q ↔ p.line < q.line ∨ p.line = q.line ∧ p.column < q.column := Iff.rfl

/-- The place of a character lies in the half-open range of the span. -/
def Span.Covers (s : Span) (p : Place) : Prop := s.start ≤ p ∧ p < s.stop

instance (s : Span) (p : Place) : Decidable (s.Covers p) :=
  inferInstanceAs (Decidable
    ((s.start.line < p.line ∨ s.start.line = p.line ∧ s.start.column ≤ p.column) ∧
      (p.line < s.stop.line ∨ p.line = s.stop.line ∧ p.column < s.stop.column)))

theorem Span.Covers.not_isEmpty {s : Span} {p : Place} (h : s.Covers p) : s.isEmpty = false := by
  have hle := Place.le_iff.1 h.1
  have hlt := Place.lt_iff.1 h.2
  rw [Span.isEmpty, decide_eq_false_iff_not]
  intro heq
  rw [heq] at hle
  omega

/-! ## Tokens in order -/

/-- Tokens as they stand in a text: each covers something, and the next starts where it stops or
later. -/
structure InOrder (tokens : List Token) : Prop where
  nonempty : ∀ t ∈ tokens, t.span.start < t.span.stop
  pairwise : tokens.Pairwise fun t t' => t.span.stop ≤ t'.span.start

namespace InOrder

variable {tokens : List Token}

theorem filter (h : InOrder tokens) (p : Token → Bool) : InOrder (tokens.filter p) :=
  ⟨fun t ht => h.nonempty t (List.mem_of_mem_filter ht), h.pairwise.filter p⟩

/-- No place is covered by two tokens. -/
theorem eq_of_covers (h : InOrder tokens) {t t' : Token} (ht : t ∈ tokens) (ht' : t' ∈ tokens)
    {p : Place} (hp : t.span.Covers p) (hp' : t'.span.Covers p) : t = t' := by
  have hapart : ∀ {t t' : Token}, t.span.stop ≤ t'.span.start → t.span.Covers p →
      ¬t'.span.Covers p := by
    intro t t' hle hp hp'
    have hstop := Place.lt_iff.1 hp.2
    have hstart := Place.le_iff.1 hp'.1
    rw [Place.le_iff] at hle
    omega
  obtain ⟨i, hi, rfl⟩ := List.mem_iff_getElem.1 ht
  obtain ⟨j, hj, rfl⟩ := List.mem_iff_getElem.1 ht'
  have hpair := List.pairwise_iff_getElem.1 h.pairwise
  rcases lt_trichotomy i j with hij | rfl | hji
  · exact absurd hp' (hapart (hpair i j hi hj hij) hp)
  · rfl
  · exact absurd hp (hapart (hpair j i hj hi hji) hp')

end InOrder

theorem placeAt_lt_placeAt {text : List Char} {i j : Nat} (hij : i < j) (hj : j ≤ text.length) :
    placeAt text i < placeAt text j := by
  have hle := Place.le_iff.1 (placeAt_le_placeAt text hij.le)
  have hne : ¬((placeAt text i).line = (placeAt text j).line ∧
      (placeAt text i).column = (placeAt text j).column) := by
    intro heq
    apply placeAt_ne hij hj
    show (⟨(placeAt text i).line, (placeAt text i).column⟩ : Place) = placeAt text j
    rw [heq.1, heq.2]
  rw [Place.lt_iff]
  omega

theorem Tiles.inOrder {text : List Char} {i : Nat} {ranges : List (Nat × Nat)}
    {tokens : List Token} (h : Tiles (ReadAt text) text i ranges tokens) : InOrder tokens := by
  refine ⟨?_, ?_⟩
  · intro t ht
    obtain ⟨a, b, -, hab, hb, hread⟩ := h.exists_range ht
    rw [hread.span_eq]
    exact placeAt_lt_placeAt hab hb
  · induction h with
    | last => exact .nil
    | @token i a b t ranges tokens _ _ _ _ hread htiles ih =>
      refine List.pairwise_cons.2 ⟨?_, ih⟩
      intro t' ht'
      obtain ⟨a', b', hba, -, -, hread'⟩ := htiles.exists_range ht'
      rw [hread.span_eq, hread'.span_eq]
      exact placeAt_le_placeAt text hba

/-- The tokens of a source that cover anything, which are all but the end of input. -/
theorem inOrder_tokenize (source : String) :
    InOrder ((tokenize source).1.filter fun t => !t.span.isEmpty) := by
  obtain ⟨ranges, tokens, htokens, -, htiles⟩ := tiles_readable source
  have hlast (p : Place) : [Token.endOfInput p].filter (fun t => !t.span.isEmpty) = [] := by
    simp [Token.endOfInput, Span.point, Span.isEmpty]
  rw [htokens, List.filter_append, hlast, List.append_nil]
  exact htiles.inOrder.filter _

namespace Highlight

/-! ## Tokens of one line -/

/-- The index in its line of the first character of a token. -/
def first (t : Token) : Nat := t.span.start.column - 1

/-- The index after the last character of a token on line `n`, which has `length` characters. -/
def past (n length : Nat) (t : Token) : Nat :=
  if t.span.stop.line = n then t.span.stop.column - 1 else length

theorem startsOn_iff {n : Nat} {t : Token} :
    startsOn n t ↔ t.span.start.line = n ∧ t.span.isEmpty = false := by
  rw [startsOn, Bool.and_eq_true, decide_eq_true_eq, Bool.not_eq_true']

/-- Tokens in order that start on line `n`. -/
structure OnLine (n : Nat) (tokens : List Token) : Prop extends InOrder tokens where
  line : ∀ t ∈ tokens, t.span.start.line = n

theorem onLine_tokenize (source : String) (n : Nat) :
    OnLine n ((tokenize source).1.filter (startsOn n)) := by
  have hfilter : (tokenize source).1.filter (startsOn n) =
      ((tokenize source).1.filter fun t => !t.span.isEmpty).filter (·.span.start.line = n) := by
    rw [List.filter_filter]
    rfl
  refine ⟨hfilter ▸ (inOrder_tokenize source).filter _, ?_⟩
  intro t ht
  exact (startsOn_iff.1 (List.mem_filter.1 ht).2).1

namespace OnLine

variable {n : Nat} {t : Token} {tokens : List Token}

theorem tail (h : OnLine n (t :: tokens)) : OnLine n tokens where
  nonempty t' ht' := h.nonempty t' (.tail _ ht')
  pairwise := h.pairwise.of_cons
  line t' ht' := h.line t' (.tail _ ht')

theorem covers_iff (h : OnLine n tokens) (ht : t ∈ tokens) {length j : Nat} (hj : j < length) :
    t.span.Covers ⟨n, j + 1⟩ ↔ first t ≤ j ∧ j < past n length t := by
  have hline := h.line t ht
  have hlt := Place.lt_iff.1 (h.nonempty t ht)
  simp only [Span.Covers, Place.le_iff, Place.lt_iff, first, past]
  split <;> omega

theorem first_le_past (h : OnLine n tokens) (ht : t ∈ tokens) {length : Nat} :
    min (first t) length ≤ past n length t := by
  have hline := h.line t ht
  have hlt := Place.lt_iff.1 (h.nonempty t ht)
  rw [first, past]
  split <;> omega

/-- Another token starts only after a token that stops on the line. -/
theorem past_le_first (h : OnLine n (t :: tokens)) {t' : Token} (ht' : t' ∈ tokens)
    (length : Nat) : past n length t ≤ first t' := by
  have hline := h.line t List.mem_cons_self
  have hline' := h.line t' (.tail _ ht')
  have hlt := Place.lt_iff.1 (h.nonempty t List.mem_cons_self)
  have hle := Place.le_iff.1 (List.rel_of_pairwise_cons h.pairwise ht')
  rw [first, past]
  split <;> omega

end OnLine

/-! ## A cut at tokens in order -/

theorem extract_min (cs : List Char) (i j : Nat) :
    cs.extract (min i cs.length) (min j cs.length) = cs.extract i j := by
  rw [List.extract_eq_take_drop, List.extract_eq_take_drop]
  rcases Nat.le_total i cs.length with hi | hi
  · rw [Nat.min_eq_left hi, List.take_eq_take_iff, List.length_drop]
    omega
  · rw [Nat.min_eq_right hi, List.drop_eq_nil_of_le le_rfl, List.drop_eq_nil_of_le hi,
      List.take_nil, List.take_nil]

variable {n : Nat} {cs : List Char} {column : Nat} {t : Token} {tokens : List Token}

/-- Each token of a line in order is cut at its own borders, or at the end of the line. -/
theorem cut_cons_onLine (current : Option Span) (h : OnLine n (t :: tokens))
    (hlength : column ≤ cs.length) (hcolumn : column ≤ first t) :
    let start := min (first t) cs.length
    let stop := min (past n cs.length t) cs.length
    column ≤ start ∧ start ≤ stop ∧ cut n current column (cs.drop column) (t :: tokens) =
      gap (cs.extract column start) ++ ⟨cs.extract start stop, t.highlight current⟩ ::
        cut n current stop (cs.drop stop) tokens := by
  intro start stop
  obtain ⟨start', stop', hstart, hstop, hle, hle', hend, hcut⟩ :=
    cut_cons n current hlength t tokens
  have hpast : start ≤ past n cs.length t := h.first_le_past List.mem_cons_self
  obtain rfl : start' = start := by
    rw [Checked.clamp?_eq hlength, Option.some_inj] at hstart
    rw [← hstart]
    show max column (min (first t) cs.length) = min (first t) cs.length
    omega
  obtain rfl : stop' = stop := by
    rw [stop?] at hstop
    simp only [stop, past] at hpast ⊢
    split at hstop
    · next hline =>
      rw [Checked.clamp?_eq (hle'.trans hend), Option.some_inj] at hstop
      rw [if_pos hline] at hpast ⊢
      omega
    · next hline =>
      rw [if_neg hline, Nat.min_self]
      exact (Option.some_inj.1 hstop).symm
  exact ⟨hle, hle', hcut⟩

/-! ## Styles by column -/

/-- The characters of a line with their styles. -/
def styled (l : Line) : List (Char × Style) := l.flatMap fun f => f.text.map (·, f.style)

/-- The style of the character with index `j` of line `n`: that of the token that covers it, or
that of a gap. -/
def styleAt (n : Nat) (current : Option Span) (tokens : List Token) (j : Nat) : Style :=
  (tokens.find? fun t => t.span.Covers ⟨n, j + 1⟩).elim gapStyle (Token.highlight current)

theorem styled_gap (text : List Char) : styled (gap text) = text.map (·, gapStyle) := by
  rw [gap]
  split
  · next h => rw [List.isEmpty_iff.1 h]; rfl
  · exact List.flatMap_singleton _ _

/-- A text with a style for each index. -/
def paint (style : Nat → Style) (text : List Char) : List (Char × Style) :=
  text.mapIdx fun j c => (c, style j)

theorem paint_congr {f g : Nat → Style} {text : List Char} (h : ∀ j < text.length, f j = g j) :
    paint f text = paint g text :=
  List.mapIdx_eq_mapIdx_iff.2 fun j hj => by rw [h j hj]

theorem paint_const (s : Style) (text : List Char) :
    paint (fun _ => s) text = text.map (·, s) := by
  apply List.ext_getElem?
  intro j
  simp [paint]

theorem paint_append (f : Nat → Style) (text text' : List Char) :
    paint f (text ++ text') = paint f text ++ paint (fun j => f (text.length + j)) text' := by
  rw [paint, List.mapIdx_append]
  simp only [Nat.add_comm]
  rfl

section StyleAt

variable {current : Option Span} {j : Nat}

theorem styleAt_of_forall_not_covers (h : ∀ t ∈ tokens, ¬t.span.Covers ⟨n, j + 1⟩) :
    styleAt n current tokens j = gapStyle := by
  have hnone : (tokens.find? fun t => t.span.Covers ⟨n, j + 1⟩) = none := by
    rw [List.find?_eq_none]
    intro t ht
    simpa using h t ht
  rw [styleAt, hnone]
  rfl

theorem styleAt_of_forall_lt (h : OnLine n tokens) (hbefore : ∀ t ∈ tokens, j < first t) :
    styleAt n current tokens j = gapStyle := by
  apply styleAt_of_forall_not_covers
  intro t ht
  have hlt := hbefore t ht
  rw [h.covers_iff ht (Nat.lt_succ_self j)]
  omega

theorem styleAt_of_lt_past (h : OnLine n (t :: tokens)) {length : Nat} (hj : j < length)
    (hfirst : first t ≤ j) (hpast : j < past n length t) :
    styleAt n current (t :: tokens) j = t.highlight current := by
  have hcovers := (h.covers_iff List.mem_cons_self hj).2 ⟨hfirst, hpast⟩
  rw [styleAt, List.find?_cons_of_pos (by simpa using hcovers)]
  rfl

theorem styleAt_of_past_le (h : OnLine n (t :: tokens)) {length : Nat} (hj : j < length)
    (hpast : past n length t ≤ j) :
    styleAt n current (t :: tokens) j = styleAt n current tokens j := by
  have hcovers : ¬t.span.Covers ⟨n, j + 1⟩ := by
    rw [h.covers_iff List.mem_cons_self hj]
    omega
  rw [styleAt, List.find?_cons_of_neg (by simpa using hcovers)]
  rfl

end StyleAt

/-- **Every character has the style of the token that covers it.** -/
theorem styled_cut (current : Option Span) (h : OnLine n tokens) (hlength : column ≤ cs.length)
    (hcolumn : ∀ t ∈ tokens, column ≤ first t) :
    styled (cut n current column (cs.drop column) tokens) =
      paint (fun j => styleAt n current tokens (column + j)) (cs.drop column) := by
  induction tokens generalizing column with
  | nil =>
    rw [cut, styled_gap, ← paint_const]
    rfl
  | cons t tokens ih =>
    obtain ⟨hstart, hstop, hcut⟩ :=
      cut_cons_onLine current h hlength (hcolumn t List.mem_cons_self)
    have hnext (t' : Token) (ht' : t' ∈ tokens) : past n cs.length t ≤ first t' :=
      h.past_le_first ht' _
    have hpast : min (first t) cs.length ≤ past n cs.length t := h.first_le_past List.mem_cons_self
    set start := min (first t) cs.length with hstart'
    set stop := min (past n cs.length t) cs.length with hstop'
    have hbefore : (cs.extract column start).length = start - column :=
      length_extract (Nat.min_le_right _ _)
    have hwithin : (cs.extract start stop).length = stop - start :=
      length_extract (Nat.min_le_right _ _)
    have hlast : stop ≤ cs.length := Nat.min_le_right _ _
    have hrest := ih h.tail hlast fun t' ht' => (Nat.min_le_left _ _).trans (hnext t' ht')
    -- The gap before the token, the token, and what comes after it.
    have hgap : styled (gap (cs.extract column start)) =
        paint (fun j => styleAt n current (t :: tokens) (column + j))
          (cs.extract column start) := by
      rw [styled_gap, ← paint_const]
      refine paint_congr fun j hj => (styleAt_of_forall_lt h ?_).symm
      intro t' ht'
      rcases List.mem_cons.1 ht' with rfl | ht'
      · omega
      · have := hnext t' ht'
        omega
    have htoken : (cs.extract start stop).map (·, t.highlight current) =
        paint (fun j => styleAt n current (t :: tokens)
          (column + ((cs.extract column start).length + j))) (cs.extract start stop) := by
      rw [← paint_const]
      refine paint_congr fun j hj => ?_
      have hlt : column + ((cs.extract column start).length + j) < cs.length := by omega
      exact (styleAt_of_lt_past h hlt (by omega) (by omega)).symm
    have hafter : styled (cut n current stop (cs.drop stop) tokens) =
        paint (fun j => styleAt n current (t :: tokens) (column + ((cs.extract column start).length +
          ((cs.extract start stop).length + j)))) (cs.drop stop) := by
      rw [hrest]
      refine paint_congr fun j hj => ?_
      rw [List.length_drop] at hj
      have hlt : stop + j < cs.length := by omega
      rw [hbefore, hwithin, show column + (start - column + (stop - start + j)) = stop + j by omega]
      exact (styleAt_of_past_le h hlt (by omega)).symm
    rw [hcut, drop_eq_extract_append cs hstart, drop_eq_extract_append cs hstop, paint_append,
      paint_append, ← hgap, ← htoken, ← hafter, styled, List.flatMap_append, List.flatMap_cons]
    rfl

/-! ## Lines of a source -/

theorem styled_line (text : List Char) (n : Nat) {tokens : List Token} (current : Option Span)
    (h : OnLine n (tokens.filter (startsOn n))) :
    styled (line text n tokens current) =
      paint (styleAt n current (tokens.filter (startsOn n))) (text.map showChar) := by
  have hcut := styled_cut current h (Nat.zero_le (text.map showChar).length)
    fun t _ => Nat.zero_le (first t)
  simp only [Nat.zero_add] at hcut
  exact hcut

theorem mem_filter_startsOn {tokens : List Token} {n : Nat} {t : Token} {p : Place}
    (ht : t ∈ tokens) (hline : t.span.start.line = n) (hp : t.span.Covers p) :
    t ∈ tokens.filter (startsOn n) :=
  List.mem_filter.2 ⟨ht, startsOn_iff.2 ⟨hline, hp.not_isEmpty⟩⟩

/-- At most one token covers a place, and it is found if it starts on the line. -/
theorem styleAt_of_covers {source : String} {n j : Nat} {t : Token} (ht : t ∈ (tokenize source).1)
    (hcovers : t.span.Covers ⟨n, j + 1⟩) (current : Option Span) :
    styleAt n current ((tokenize source).1.filter (startsOn n)) j =
      if t.span.start.line = n then t.highlight current else gapStyle := by
  have honly : ∀ t' ∈ (tokenize source).1, t'.span.Covers ⟨n, j + 1⟩ → t' = t := by
    have hmem {t' : Token} (ht' : t' ∈ (tokenize source).1) (hp : t'.span.Covers ⟨n, j + 1⟩) :
        t' ∈ (tokenize source).1.filter fun t => !t.span.isEmpty := by
      rw [List.mem_filter, hp.not_isEmpty]
      exact ⟨ht', rfl⟩
    intro t' ht' hp
    exact (inOrder_tokenize source).eq_of_covers (hmem ht' hp) (hmem ht hcovers) hp hcovers
  rw [styleAt]
  cases hfind : ((tokenize source).1.filter (startsOn n)).find? fun t => t.span.Covers ⟨n, j + 1⟩ with
  | none =>
    have hline : t.span.start.line ≠ n := by
      intro hline
      have hnone := List.find?_eq_none.1 hfind t (mem_filter_startsOn ht hline hcovers)
      exact hnone (decide_eq_true hcovers)
    rw [if_neg hline]
    rfl
  | some t' =>
    have hmem := List.mem_of_find?_eq_some hfind
    obtain rfl := honly t' (List.mem_of_mem_filter hmem) (by simpa using List.find?_some hfind)
    rw [if_pos ((onLine_tokenize source n).line _ hmem)]
    rfl

/-- Every character of the lines of a source is shown in the style that `styleOn` gives for its line
and the token that covers it, and dimmed if no token covers it. -/
def Shows (source : String) (styleOn : Nat → Token → Style) : Prop :=
  ∀ (i : Nat) (text : List Char), (lines source.toList)[i]? = some text →
    ∀ (j : Nat) (c : Char), text[j]? = some c →
      ∃ style, (styled (line text (i + 1) (tokenize source).1 none))[j]? =
          some (showChar c, style) ∧
        (∀ t ∈ (tokenize source).1, t.span.Covers ⟨i + 1, j + 1⟩ → style = styleOn (i + 1) t) ∧
        ((∀ t ∈ (tokenize source).1, ¬t.span.Covers ⟨i + 1, j + 1⟩) → style = gapStyle)

end Highlight

/-- **Every character is shown as the token that covers it**, on the line where the token starts. The
part of a token on later lines is dimmed like a gap. -/
theorem shows_tokens (source : String) :
    Highlight.Shows source fun n t => if t.span.start.line = n then t.kind.style else gapStyle := by
  intro i text _ j c hc
  have honLine := Highlight.onLine_tokenize source (i + 1)
  refine ⟨_, ?_, fun t ht hcovers => Highlight.styleAt_of_covers ht hcovers none, ?_⟩
  · rw [Highlight.styled_line text (i + 1) none honLine, Highlight.paint, List.getElem?_mapIdx,
      List.getElem?_map, hc]
    rfl
  · intro hnone
    exact Highlight.styleAt_of_forall_not_covers
      fun t ht => hnone t (List.mem_of_mem_filter ht)

/-- A string goes on after an escaped newline, and is dimmed there. -/
theorem not_shows_escapedNewline :
    ¬Highlight.Shows "\"a\\\nb\"" fun _ t => t.kind.style := by
  intro h
  let t : Token := ⟨.stringLiteral, "a\\\nb", ⟨⟨1, 1⟩, ⟨2, 3⟩⟩⟩
  have htokens : (tokenize "\"a\\\nb\"").1 = [t, .endOfInput ⟨2, 1⟩] := by cbv
  obtain ⟨style, hstyle, hcovered, -⟩ := h 1 ['b', '"'] (by cbv) 0 'b' rfl
  rw [htokens] at hstyle hcovered
  have hdimmed : style = gapStyle :=
    (congrArg Prod.snd (Option.some_inj.1 hstyle)).symm
  have hliteral : style = Kind.stringLiteral.style := hcovered t List.mem_cons_self (by decide)
  rw [hdimmed] at hliteral
  exact absurd hliteral (by decide)

end MiniC
