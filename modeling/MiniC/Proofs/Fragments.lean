import MiniC.Proofs.Highlighting
import MiniC.Proofs.LongestMatch

/-!
# The fragments of a highlighted line

**Theorem (`highlighting_keeps_text`).** For any tokens, in whatever order, the fragments of a line
are cut within its range, and together they are the line with blanks for tabs. With the tokens of a
source, at most one fragment is on the background of the current token. On a line of the source it
is the current token, from its first character up to the end of the line.

**Loses nothing.** What a cut does not take off the front of the line is what it cuts next, so
nothing about the tokens is needed (`text_cut`).

**Raised once.** The tokens that start on a line are in order, and each is cut at its own borders
(`cut_cons_onLine`). Spans tell tokens apart, so only one of them is the current one.

**Lines and indices.** A line of the source starts at some index at column one and has no newline
(`LineAt`); so the columns of its tokens count from that index on. A carriage return before the
newline is not part of the line, even where a token goes over it.
-/

namespace MiniC

open Screen

/-! ## Lines by index -/

theorem dropReturn_isPrefix (line : List Char) : dropReturn line <+: line := by
  rw [dropReturn]
  split
  · exact List.dropLast_prefix line
  · exact List.prefix_rfl

/-- A text with a newline is its first line, the newline, and what follows. -/
theorem eq_takeWhile_append_newline {cs rest : List Char} {x : Char}
    (h : cs.dropWhile (· != '\n') = x :: rest) :
    cs = cs.takeWhile (· != '\n') ++ '\n' :: rest := by
  have hsplit := List.takeWhile_append_dropWhile (p := (· != '\n')) (l := cs)
  have hhead := List.head?_dropWhile_not (· != '\n') cs
  rw [h] at hsplit hhead
  obtain rfl : x = '\n' := by simpa using hhead
  exact hsplit.symm

/-- A text that is not cut at a newline is one line. -/
theorem takeWhile_eq_self_of_dropWhile {cs : List Char} (h : cs.dropWhile (· != '\n') = []) :
    cs.takeWhile (· != '\n') = cs := by
  have hsplit := List.takeWhile_append_dropWhile (p := (· != '\n')) (l := cs)
  rwa [h, List.append_nil] at hsplit

/-- Reading up to the line with index `i`, from the start of line `n` on, goes down `i` lines. -/
theorem lines_split {text : List Char} (cs : List Char) :
    ∀ n i : Nat, (lines cs)[i]? = some text → ∃ before after, cs = before ++ text ++ after ∧
      '\n' ∉ text ∧ (Place.mk n 1).after before = ⟨n + i, 1⟩ := by
  fun_induction lines cs with
  | case1 =>
    intro n i h
    cases h
  | case2 c cs line hdrop =>
    have hline : line = c :: cs := takeWhile_eq_self_of_dropWhile hdrop
    intro n i h
    cases i with
    | zero =>
      obtain rfl : line = text := Option.some_inj.1 h
      refine ⟨[], [], ?_, Piece.newline_notMem_takeWhile _, rfl⟩
      rw [hline, List.nil_append, List.append_nil]
    | succ i => cases h
  | case3 c cs line x rest hdrop ih =>
    have hsplit : c :: cs = line ++ '\n' :: rest := eq_takeWhile_append_newline hdrop
    have hnewline : '\n' ∉ line := Piece.newline_notMem_takeWhile _
    intro n i h
    cases i with
    | zero =>
      obtain rfl : dropReturn line = text := Option.some_inj.1 h
      obtain ⟨s, hs⟩ := dropReturn_isPrefix line
      refine ⟨[], s ++ '\n' :: rest, ?_, ?_, rfl⟩
      · rw [hsplit, List.nil_append, ← List.append_assoc, hs]
      · intro hmem
        exact hnewline ((dropReturn_isPrefix line).subset hmem)
    | succ i =>
      obtain ⟨before, after, hrest, htext, hplace⟩ := ih (n + 1) i h
      refine ⟨line ++ '\n' :: before, after, ?_, htext, ?_⟩
      · rw [hsplit, hrest]
        simp only [List.append_assoc, List.cons_append]
      -- The first newline is what leads from line `n` to the next.
      · have hline : ((Place.mk n 1).after line).line = n := by
          rw [Place.line_after, List.count_eq_zero.2 hnewline, Nat.add_zero]
        rw [Place.after_append, Place.after_cons, Place.step, if_pos rfl, hline, hplace,
          Nat.add_right_comm, Nat.add_assoc]

/-- The text from index `k` on is that of line `n`. -/
structure LineAt (cs : List Char) (n : Nat) (text : List Char) (k : Nat) : Prop where
  place : placeAt cs k = ⟨n, 1⟩
  le : k + text.length ≤ cs.length
  extract : cs.extract k (k + text.length) = text
  newline : '\n' ∉ text

theorem exists_lineAt {cs text : List Char} {i : Nat} (h : (lines cs)[i]? = some text) :
    ∃ k, LineAt cs (i + 1) text k := by
  obtain ⟨before, after, hcs, hnewline, hplace⟩ := lines_split cs 1 i h
  rw [List.append_assoc] at hcs
  have hdrop : cs.drop before.length = text ++ after := by rw [hcs, List.drop_left]
  refine ⟨before.length, ?_, ?_, extract_add_length hdrop, hnewline⟩
  · rw [placeAt_eq, hcs, List.take_left, Nat.add_comm i]
    exact hplace
  · rw [hcs, List.length_append, List.length_append]
    omega

theorem extract_extract (cs : List Char) (k stop i j : Nat) :
    (cs.extract k stop).extract i j = cs.extract (k + i) (min (k + j) stop) := by
  rw [List.extract_eq_drop_take', List.extract_eq_drop_take', List.extract_eq_drop_take',
    List.take_drop, List.take_take, List.drop_drop]

/-- Without a newline, only the column grows. -/
theorem placeAt_of_notMem {text : List Char} {i j : Nat} (hij : i ≤ j) (hj : j ≤ text.length)
    (h : '\n' ∉ text.extract i j) :
    placeAt text j = ⟨(placeAt text i).line, (placeAt text i).column + (j - i)⟩ := by
  have hline := (placeAt text i).line_after (text.extract i j)
  have hcolumn := (placeAt text i).column_after h
  rw [← placeAt_eq_after text hij, List.count_eq_zero.2 h, Nat.add_zero] at hline
  rw [← placeAt_eq_after text hij, Highlight.length_extract hj] at hcolumn
  rw [← hline, ← hcolumn]

namespace LineAt

variable {cs text : List Char} {n k j : Nat}

theorem placeAt_eq (h : LineAt cs n text k) (hk : k ≤ j) (hj : j ≤ k + text.length) :
    placeAt cs j = ⟨n, j - k + 1⟩ := by
  have hnewline : '\n' ∉ cs.extract k j := by
    intro hmem
    apply h.newline
    rw [← h.extract]
    rw [List.extract_eq_take_drop] at hmem ⊢
    exact List.take_subset_take_left _ (by omega) hmem
  rw [placeAt_of_notMem hk (hj.trans h.le) hnewline, h.place, Nat.add_comm]

/-- The indices of a line are its columns. -/
theorem column_eq (h : LineAt cs n text k) (hj : j ≤ cs.length) (hline : (placeAt cs j).line = n) :
    k ≤ j ∧ (placeAt cs j).column = j - k + 1 := by
  have hk : k ≤ j := by
    -- The line starts at its first column, so what comes before it is on other lines.
    by_contra hlt
    have hle := (Nat.le_add_right k _).trans h.le
    have hplace := Place.lt_iff.1 (placeAt_lt_placeAt (not_le.1 hlt) hle)
    have hpos : 1 ≤ (placeAt cs j).column := Nat.le_add_right _ _
    simp only [h.place, hline] at hplace
    omega
  have hnewline : '\n' ∉ cs.extract k j := by
    have hcount := (placeAt cs k).line_after (cs.extract k j)
    rw [← placeAt_eq_after cs hk, hline, h.place, Nat.left_eq_add] at hcount
    exact List.count_eq_zero.1 hcount
  rw [placeAt_of_notMem hk hj hnewline, h.place, Nat.add_comm]
  exact ⟨hk, rfl⟩

end LineAt

namespace Highlight

/-! ## What a line says -/

theorem text_gap (text : List Char) : Line.text (gap text) = text := by
  rw [gap]
  split
  · next h => rw [List.isEmpty_iff.1 h]; rfl
  · exact List.flatMap_singleton _ _

/-- **The fragments of a cut are what was cut**, for any tokens: each one takes a part off the
front, which may be empty. -/
theorem text_cut (n : Nat) (current : Option Span) (column : Nat) (rest : List Char)
    (tokens : List Token) : Line.text (cut n current column rest tokens) = rest := by
  induction tokens generalizing column rest with
  | nil => exact text_gap rest
  | cons t tokens ih =>
    set before := rest.take (t.span.start.column - 1 - column)
    set rest' := rest.drop before.length
    set column' := column + before.length
    set text := if t.span.stop.line = n then rest'.take (t.span.stop.column - 1 - column')
      else rest'
    have hbefore : before ++ rest' = rest := by
      apply List.prefix_iff_eq_append.1
      exact List.take_prefix _ _
    have htext : text ++ rest'.drop text.length = rest' := by
      apply List.prefix_iff_eq_append.1
      show (if _ then _ else _) <+: _
      split
      · exact List.take_prefix _ _
      · exact List.prefix_rfl
    calc Line.text (cut n current column rest (t :: tokens))
      _ = Line.text (gap before) ++ (text ++
          Line.text (cut n current (column' + text.length) (rest'.drop text.length) tokens)) :=
        List.flatMap_append
      _ = before ++ (text ++ rest'.drop text.length) := by rw [text_gap, ih]
      _ = rest := by rw [htext, hbefore]

theorem text_line (text : List Char) (n : Nat) (tokens : List Token) (current : Option Span) :
    Line.text (line text n tokens current) = text.map showChar :=
  text_cut n current 0 _ _

/-! ## The current token -/

/-- Whether a fragment is on the background of the current token. -/
def isRaised (f : Fragment) : Bool := f.style.background = some Palette.currentToken

/-- What line `n`, with characters `cs`, has of a token that starts on it. -/
def part (n : Nat) (cs : List Char) (t : Token) : List Char :=
  cs.extract (first t) (past n cs.length t)

theorem isRaised_highlight (text : List Char) (t : Token) (current : Option Span) :
    isRaised ⟨text, t.highlight current⟩ = decide (current = some t.span) := by
  have hkind : t.kind.style.background = none := by cases t.kind <;> rfl
  rw [isRaised, Token.highlight]
  split
  · next h => simp [h, Style.on, Style.strong]
  · next h => simp [h, hkind]

theorem filter_gap (text : List Char) : (gap text).filter isRaised = [] := by
  rw [gap]
  split <;> rfl

/-- Only the current token is raised, in its part of the line. -/
theorem filter_cut {n : Nat} {tokens : List Token} (h : OnLine n tokens) (current : Option Span)
    {cs : List Char} {column : Nat} (hlength : column ≤ cs.length)
    (hcolumn : ∀ t ∈ tokens, column ≤ first t) :
    (cut n current column (cs.drop column) tokens).filter isRaised =
      (tokens.filter (current = some ·.span)).map fun t => ⟨part n cs t, t.highlight current⟩ := by
  induction tokens generalizing column with
  | nil => exact filter_gap _
  | cons t tokens ih =>
    obtain ⟨-, -, hcut⟩ := cut_cons_onLine current h hlength (hcolumn t List.mem_cons_self)
    have hstop : min (past n cs.length t) cs.length ≤ cs.length := Nat.min_le_right _ _
    have hrest := ih h.tail hstop
      fun t' ht' => (Nat.min_le_left _ _).trans (h.past_le_first ht' _)
    rw [hcut, extract_min, List.filter_append, filter_gap, List.nil_append, List.filter_cons,
      List.filter_cons, isRaised_highlight, hrest]
    split <;> rfl

/-! ## The current token of a source -/

theorem part_map (f : Char → Char) (n : Nat) (cs : List Char) (t : Token) :
    part n (cs.map f) t = (part n cs t).map f := by
  rw [part, part, List.extract_eq_take_drop, List.extract_eq_take_drop, List.length_map,
    List.map_take, List.map_drop]

/-- The part of a token on the line where it starts is the token up to the end of the line. -/
theorem part_eq {cs text : List Char} {n k a b : Nat} {t : Token} (h : LineAt cs n text k)
    (hab : a < b) (hb : b ≤ cs.length) (hspan : t.span = ⟨placeAt cs a, placeAt cs b⟩)
    (hline : (placeAt cs a).line = n) : part n text t = cs.extract a (min b (k + text.length)) := by
  obtain ⟨hk, hcolumn⟩ := h.column_eq (hab.le.trans hb) hline
  have hfirst : first t = a - k := by
    rw [first, hspan]
    show (placeAt cs a).column - 1 = a - k
    omega
  have hpast : min (k + past n text.length t) (k + text.length) = min b (k + text.length) := by
    simp only [past, hspan]
    by_cases hstop : (placeAt cs b).line = n
    · have hcolumn' := (h.column_eq hb hstop).2
      rw [if_pos hstop]
      omega
    -- A token that stops on a later line goes over the end of this one.
    · have hafter : k + text.length < b := by
        by_contra hle
        exact hstop (congrArg Place.line (h.placeAt_eq (by omega) (by omega)))
      rw [if_neg hstop]
      omega
  have hextract := extract_extract cs k (k + text.length) (first t) (past n text.length t)
  rw [h.extract, hpast, hfirst, Nat.add_sub_cancel' hk] at hextract
  rw [part, hfirst]
  exact hextract

/-- A token stands in the source or is the end of input. -/
theorem exists_readAt {source : String} {t : Token} (ht : t ∈ (tokenize source).1) :
    (∃ a b, a < b ∧ b ≤ (readable source).length ∧ ReadAt (readable source) t a b) ∨
      t.kind = .eof ∧ t.span.isEmpty := by
  obtain ⟨ranges, tokens, htokens, -, htiles⟩ := tiles_readable source
  rw [htokens] at ht
  rcases List.mem_append.1 ht with ht | ht
  · obtain ⟨a, b, -, hab, hb, hread⟩ := htiles.exists_range ht
    exact .inl ⟨a, b, hab, hb, hread⟩
  · obtain rfl := List.mem_singleton.1 ht
    exact .inr ⟨rfl, decide_eq_true rfl⟩

theorem startsOn_of_kind_ne_eof {source : String} {t : Token} (ht : t ∈ (tokenize source).1)
    (hkind : t.kind ≠ .eof) : startsOn t.span.start.line t := by
  rcases exists_readAt ht with ⟨a, b, hab, hb, hread⟩ | ⟨heof, -⟩
  · refine startsOn_iff.2 ⟨rfl, ?_⟩
    rw [hread.span_eq]
    exact decide_eq_false (placeAt_ne hab hb)
  · exact absurd heof hkind

theorem filter_span {tokens : List Token} (h : (tokens.map Token.span).Nodup) {t : Token}
    (ht : t ∈ tokens) : tokens.filter (some t.span = some ·.span) = [t] := by
  have hspan : ∀ t' ∈ tokens, decide (some t.span = some t'.span) = decide (t' = t) := by
    intro t' ht'
    rw [decide_eq_decide, Option.some_inj]
    exact ⟨fun heq => List.inj_on_of_nodup_map h ht' ht heq.symm, fun heq => heq ▸ rfl⟩
  rw [List.filter_congr hspan, List.filter_eq, List.count_eq_one_of_mem h.of_map ht,
    List.replicate_one]

/-- At most one token of a source is raised on a line, the current one if it starts there. -/
theorem filter_line (source : String) (text : List Char) (n : Nat) (current : Option Span) :
    (line text n (tokenize source).1 current).filter isRaised = [] ∧
      (∀ t ∈ (tokenize source).1, startsOn n t → current ≠ some t.span) ∨
    ∃ t ∈ (tokenize source).1, startsOn n t ∧ current = some t.span ∧
      (line text n (tokenize source).1 current).filter isRaised =
        [⟨(part n text t).map showChar, t.highlight current⟩] := by
  have hfilter : (line text n (tokenize source).1 current).filter isRaised = _ :=
    filter_cut (onLine_tokenize source n) current (Nat.zero_le (text.map showChar).length)
      fun t _ => Nat.zero_le (first t)
  rw [hfilter]
  by_cases hcurrent : ∃ t ∈ (tokenize source).1.filter (startsOn n), current = some t.span
  · obtain ⟨t, ht, rfl⟩ := hcurrent
    right
    have hnodup : (((tokenize source).1.filter (startsOn n)).map Token.span).Nodup :=
      (nodup_spans source).sublist (List.filter_sublist.map _)
    refine ⟨t, List.mem_of_mem_filter ht, (List.mem_filter.1 ht).2, rfl, ?_⟩
    rw [filter_span hnodup ht, List.map_singleton, part_map]
  · left
    refine ⟨?_, fun t ht hstarts heq => hcurrent ⟨t, List.mem_filter.2 ⟨ht, hstarts⟩, heq⟩⟩
    rw [List.map_eq_nil_iff, List.filter_eq_nil_iff]
    intro t ht heq
    exact hcurrent ⟨t, ht, of_decide_eq_true heq⟩

/-- On line `n` of the source, which reads `text`, the token starts with the characters `cs`: they
are all of the token, or all up to the end of the line. -/
def StartsWith (source : String) (n : Nat) (text : List Char) (t : Token) (cs : List Char) : Prop :=
  ∃ a b stop, a < b ∧ b ≤ (readable source).length ∧ t.StandsAt (readable source) a b ∧
    t.span.start.line = n ∧ stop ≤ source.toList.length ∧
    placeAt source.toList stop = ⟨n, text.length + 1⟩ ∧ cs = source.toList.extract a (min b stop)

theorem startsWith_part {source : String} {text : List Char} {i : Nat}
    (h : (lines source.toList)[i]? = some text) {t : Token} (ht : t ∈ (tokenize source).1)
    (hstarts : startsOn (i + 1) t) : StartsWith source (i + 1) text t (part (i + 1) text t) := by
  obtain ⟨k, hline⟩ := exists_lineAt h
  obtain ⟨hfirst, hnonempty⟩ := startsOn_iff.1 hstarts
  rcases exists_readAt ht with ⟨a, b, hab, hb, hread⟩ | ⟨-, hempty⟩
  · have hspan := hread.span_eq
    rw [placeAt_readable hb, placeAt_readable (hab.le.trans hb)] at hspan
    have hb' : b ≤ source.toList.length := hb.trans (List.length_take_le' _ _)
    have hstart : (placeAt source.toList a).line = i + 1 := by
      rw [hspan] at hfirst
      exact hfirst
    refine ⟨a, b, k + text.length, hab, hb, hread.standsAt (nul_notMem_readable source),
      hfirst, hline.le, ?_, part_eq hline hab hb' hspan hstart⟩
    rw [hline.placeAt_eq (Nat.le_add_right _ _) le_rfl, Nat.add_sub_cancel_left]
  · rw [hempty] at hnonempty
    cases hnonempty

end Highlight

/-- **Highlighting keeps the text.** The fragments of a line together are the line, for any tokens.
With those of a source, a fragment is raised only if the current token starts on the line, and then
it is what the line has of that token. -/
theorem highlighting_keeps_text :
    (∀ (text : List Char) (n : Nat) (tokens : List Token) (current : Option Span), ∃ l,
      Highlight.line? text n tokens current = some l ∧ l = Highlight.line text n tokens current ∧
        Line.text l = text.map Highlight.showChar) ∧
    (∀ (source : String) (text : List Char) (n : Nat) (current : Option Span),
      ((Highlight.line text n (tokenize source).1 current).filter Highlight.isRaised).length ≤ 1) ∧
    ∀ (source : String) (text : List Char) (i : Nat) (current : Option Span),
      (lines source.toList)[i]? = some text →
      let raised := (Highlight.line text (i + 1) (tokenize source).1 current).filter
        Highlight.isRaised
      raised = [] ∧ (∀ t ∈ (tokenize source).1, t.span.start.line = i + 1 → t.kind ≠ .eof →
        current ≠ some t.span) ∨
      ∃ t ∈ (tokenize source).1, current = some t.span ∧
        ∃ cs, Highlight.StartsWith source (i + 1) text t cs ∧
          raised = [⟨cs.map Highlight.showChar, t.highlight current⟩] := by
  refine ⟨?_, ?_, ?_⟩
  · intro text n tokens current
    exact ⟨_, Highlight.line?_eq text n tokens current, rfl,
      Highlight.text_line text n tokens current⟩
  · intro source text n current
    rcases Highlight.filter_line source text n current with ⟨hnil, -⟩ | ⟨t, -, -, -, hsingle⟩
    · rw [hnil]
      exact Nat.zero_le 1
    · rw [hsingle, List.length_singleton]
  · intro source text i current h
    rcases Highlight.filter_line source text (i + 1) current with
      ⟨hnil, hnone⟩ | ⟨t, ht, hstarts, hcurrent, hsingle⟩
    · left
      refine ⟨hnil, ?_⟩
      intro t ht hline hkind
      exact hnone t ht (hline ▸ Highlight.startsOn_of_kind_ne_eof ht hkind)
    · right
      exact ⟨t, ht, hcurrent, _, Highlight.startsWith_part h ht hstarts, hsingle⟩

/-- A string with an escaped newline is raised on its first line, up to the backslash. -/
theorem highlighting_keeps_text_escapedNewline :
    (lines "\"a\\\nb\"".toList)[0]? = some ['"', 'a', '\\'] ∧
      ∃ t ∈ (tokenize "\"a\\\nb\"").1, some t.span = some ⟨⟨1, 1⟩, ⟨2, 3⟩⟩ ∧
        ∃ cs, Highlight.StartsWith "\"a\\\nb\"" 1 ['"', 'a', '\\'] t cs ∧
          cs.map Highlight.showChar = ['"', 'a', '\\'] := by
  have hline : (lines "\"a\\\nb\"".toList)[0]? = some ['"', 'a', '\\'] := by cbv
  have htokens : (tokenize "\"a\\\nb\"").1 =
      [⟨.stringLiteral, "a\\\nb", ⟨⟨1, 1⟩, ⟨2, 3⟩⟩⟩, .endOfInput ⟨2, 1⟩] := by cbv
  obtain ⟨-, -, hcurrent⟩ := highlighting_keeps_text
  rcases hcurrent "\"a\\\nb\"" ['"', 'a', '\\'] 0 (some ⟨⟨1, 1⟩, ⟨2, 3⟩⟩) hline with
    ⟨-, hnone⟩ | ⟨t, ht, hspan, cs, hcs, hsingle⟩
  · rw [htokens] at hnone
    exact absurd rfl (hnone _ List.mem_cons_self rfl (by decide))
  · rw [htokens] at hsingle
    have hraised : [['"', 'a', '\\']] = [cs.map Highlight.showChar] :=
      congrArg (List.map Fragment.text) hsingle
    exact ⟨hline, t, ht, hspan.symm, cs, hcs, (List.singleton_inj.1 hraised).symm⟩

end MiniC
