import MiniC.Recording
import MiniC.Proofs.EndOfInput
import MiniC.Proofs.Lookahead
import MiniC.Proofs.Spans

/-!
# Every warning has its reason in the text

**Strings.** From its opening quote on, a string is read as single characters and backslash pairs,
up to a closing quote, a newline or the end of the text (`QuotedFrom`). There is one way to do so
(`QuotedFrom.unique`).

**Theorem (`warnings_exact`).** The warnings recorded with a string are one for each of its pairs
that is not the escape of a newline, at the two characters of the pair, and then one for the whole
string if a newline has ended it. The end of input has a warning exactly if a block comment is left
open before it. No other step has any (`Tells`).

**Order.** Every warning ends at an index of the text, and these indices never go back from one
warning to the next (`Rising`); so their places do not either.
-/

namespace MiniC

/-! ## The order of places -/

/-- Places are ordered as a text is read. -/
instance : LE Place := ⟨fun p q => p.line < q.line ∨ p.line = q.line ∧ p.column ≤ q.column⟩

theorem Place.le_after (p : Place) (s : List Char) : p ≤ p.after s := by
  have hline := p.line_after s
  by_cases hnewline : '\n' ∈ s
  · have hpos := List.count_pos_iff.2 hnewline
    exact .inl (by omega)
  · have hcolumn := p.column_after hnewline
    rw [List.count_eq_zero.2 hnewline] at hline
    exact .inr ⟨hline.symm, by omega⟩

theorem placeAt_le_placeAt (text : List Char) {i j : Nat} (h : i ≤ j) :
    placeAt text i ≤ placeAt text j := by
  rw [placeAt_eq_after text h]
  exact Place.le_after _ _

/-! ## Strings, read by index -/

/-- From index `i` on the text is the rest of a string: its backslash pairs, each with the index of
the backslash and the character that it takes with it, the index where the string ends, and how. -/
inductive QuotedFrom (text : List Char) : Nat → List (Nat × Char) → Nat → Ending → Prop
  | closed {i : Nat} : text[i]? = some '"' → QuotedFrom text i [] (i + 1) .closed
  | newline {i : Nat} : text[i]? = some '\n' → QuotedFrom text i [] i .newline
  | endOfInput {i : Nat} : text[i]? = none → QuotedFrom text i [] i .endOfInput
  /-- A backslash before the end of the text takes nothing with it. -/
  | backslash {i : Nat} : text[i]? = some '\\' → text[i + 1]? = none →
      QuotedFrom text i [] (i + 1) .endOfInput
  | pair {i b : Nat} {c : Char} {pairs : List (Nat × Char)} {ending : Ending} :
      text[i]? = some '\\' → text[i + 1]? = some c → QuotedFrom text (i + 2) pairs b ending →
      QuotedFrom text i ((i, c) :: pairs) b ending
  | single {i b : Nat} {c : Char} {pairs : List (Nat × Char)} {ending : Ending} :
      text[i]? = some c → c ≠ '\\' → c ≠ '"' → c ≠ '\n' → QuotedFrom text (i + 1) pairs b ending →
      QuotedFrom text i pairs b ending

/-- A string can be read in one way only. -/
theorem QuotedFrom.unique {text : List Char} {i b b' : Nat} {pairs pairs' : List (Nat × Char)}
    {ending ending' : Ending} (h : QuotedFrom text i pairs b ending)
    (h' : QuotedFrom text i pairs' b' ending') : pairs' = pairs ∧ ending' = ending := by
  induction h generalizing pairs' with
  | closed | newline | endOfInput | backslash => cases h' <;> grind
  | pair hi hc _ ih =>
    cases h' with
    | pair hi' hc' h' =>
      obtain ⟨rfl, rfl⟩ := ih h'
      cases hc.symm.trans hc'
      exact ⟨rfl, rfl⟩
    | _ => grind
  | single hi _ _ _ _ ih =>
    cases h' with
    | single _ _ _ _ h' => exact ih h'
    | _ => grind

/-- The warnings for the pairs of a string that are not legal. -/
def escapeWarnings (text : List Char) (pairs : List (Nat × Char)) : List Warning :=
  (pairs.filter fun p => p.2 ≠ 'n').map fun p =>
    .illegalEscape p.2 ⟨placeAt text p.1, placeAt text (p.1 + 2)⟩

section Slice

variable {text cs : List Char} {i : Nat}

theorem getElem?_of_drop_cons {c : Char} (h : text.drop i = c :: cs) : text[i]? = some c := by
  rw [← List.head?_drop, h]
  rfl

theorem drop_add_one {c : Char} (h : text.drop i = c :: cs) : text.drop (i + 1) = cs := by
  rw [← List.drop_drop, h, List.drop_one, List.tail_cons]

theorem placeAt_add_one {c : Char} (h : text.drop i = c :: cs) :
    placeAt text (i + 1) = (placeAt text i).step c :=
  placeAt_add_length (s := [c]) h

end Slice

/-- **What the scanner takes as a string is read as one**, with the warnings of its pairs. -/
theorem quotedFrom_stringBody {text cs : List Char} {i : Nat} (h : text.drop i = cs) :
    ∃ pairs, QuotedFrom text i pairs
        (i + (Lexeme.stringBody cs).1.length +
          if (Lexeme.stringBody cs).2.1 = .closed then 1 else 0)
        (Lexeme.stringBody cs).2.1 ∧
      Lexeme.illegalEscapes (placeAt text i) (Lexeme.stringBody cs).1 =
        escapeWarnings text pairs := by
  induction cs using Lexeme.stringBody.induct generalizing i with
  | case1 => exact ⟨[], .endOfInput (List.getElem?_eq_none (List.drop_eq_nil_iff.1 h)), rfl⟩
  | case2 rest => exact ⟨[], .closed (getElem?_of_drop_cons h), rfl⟩
  | case3 rest => exact ⟨[], .newline (getElem?_of_drop_cons h), rfl⟩
  | case4 c rest body ending rest' heq ih =>
    have h1 := drop_add_one h
    obtain ⟨pairs, hquoted, hescapes⟩ := ih (drop_add_one h1)
    have hplace : placeAt text (i + 2) = (placeAt text i).after ['\\', c] := by
      rw [placeAt_add_one h1, placeAt_add_one h]
      rfl
    have hstring : Lexeme.stringBody ('\\' :: c :: rest) = ('\\' :: c :: body, ending, rest') := by
      rw [Lexeme.stringBody, heq]
    rw [heq, hplace] at hescapes
    rw [heq] at hquoted
    rw [hstring]
    refine ⟨(i, c) :: pairs, .pair (getElem?_of_drop_cons h) (getElem?_of_drop_cons h1) ?_, ?_⟩
    · convert hquoted using 1
      simp only [List.length_cons]
      omega
    · rw [Lexeme.illegalEscapes, hescapes, ← hplace, escapeWarnings, escapeWarnings]
      by_cases hc : c = 'n' <;> simp [hc]
  | case5 c rest hquote hnewline hpair body ending rest' heq ih =>
    obtain ⟨pairs, hquoted, hescapes⟩ := ih (drop_add_one h)
    have hstring : Lexeme.stringBody (c :: rest) = (c :: body, ending, rest') := by
      rw [Lexeme.stringBody.eq_5 _ _ hquote hnewline hpair, heq]
    rw [heq, placeAt_add_one h] at hescapes
    rw [heq] at hquoted
    rw [hstring]
    by_cases hc : c = '\\'
    · -- Nothing follows the backslash, or it would take it with it.
      subst hc
      obtain rfl : rest = [] := by
        cases rest with
        | nil => rfl
        | cons d rest => exact (hpair d rest rfl rfl).elim
      cases heq
      have hnone : text[i + 1]? = none :=
        List.getElem?_eq_none (List.drop_eq_nil_iff.1 (drop_add_one h))
      exact ⟨[], .backslash (getElem?_of_drop_cons h) hnone, rfl⟩
    · refine ⟨pairs, .single (getElem?_of_drop_cons h) hc hquote hnewline ?_, ?_⟩
      · convert hquoted using 1
        simp only [List.length_cons]
        omega
      · rw [Lexeme.illegalEscapes.eq_3 _ _ _ fun d _ hd _ => hc hd, hescapes]

/-! ## What each step tells -/

/-- The token at index `a` is a string, whole or cut off. -/
def Token.IsStringAt (text : List Char) (t : Token) (a : Nat) : Prop :=
  t.kind = .stringLiteral ∨ t.kind = .error ∧ text[a]? = some '"'

/-- The warnings of a step whose token stands at the range from `a` to `b` are those that the text
there calls for. -/
structure Step.WarnsAt (text : List Char) (s : Step) (a b : Nat) : Prop where
  /-- A string can be read from its quote to its end. -/
  reading : s.token.IsStringAt text a →
    text[a]? = some '"' ∧ ∃ pairs ending, QuotedFrom text (a + 1) pairs b ending
  string : ∀ pairs ending, text[a]? = some '"' → QuotedFrom text (a + 1) pairs b ending →
    s.warnings = escapeWarnings text pairs ++
      if ending = .newline then [.unterminatedString s.token.span] else []
  other : ¬ s.token.IsStringAt text a → s.warnings = []

/-- After index `i` there is a gap and then, from index `a` on, a block comment that is never
closed. -/
structure OpenCommentAt (text : List Char) (i a : Nat) : Prop where
  le : i ≤ a
  gap : Gap (text.extract i a)
  comment : ∃ body, text.drop a = '/' :: '*' :: body ∧ ¬ ['*', '/'] <:+: body

/-- From index `i` on, the steps are the tokens of the text, each with the warnings that it calls
for, and the end of input. -/
inductive Tells (text : List Char) : Nat → List Step → Prop
  | last {i : Nat} : FinalGap (text.drop i) → (∀ a, ¬ OpenCommentAt text i a) →
      Tells text i [⟨.endOfInput (placeAt text text.length), []⟩]
  | openComment {i a : Nat} : OpenCommentAt text i a →
      Tells text i [⟨.endOfInput (placeAt text text.length),
        [.unterminatedComment ⟨placeAt text a, placeAt text text.length⟩]⟩]
  | token {i a b : Nat} {s : Step} {steps : List Step} : i ≤ a → a < b → b ≤ text.length →
      Gap (text.extract i a) → s.token.StandsAt text a b → s.WarnsAt text a b →
      Tells text b steps → Tells text i (s :: steps)

/-! ## The end of input -/

namespace Cursor

theorem next_openComment {body : List Char} (h : ¬ ['*', '/'] <:+: body) (p : Place) :
    (next ⟨'/' :: '*' :: body, p⟩).1 = ⟨.endOfInput (p.after ('/' :: '*' :: body)),
      [.unterminatedComment ⟨p, p.after ('/' :: '*' :: body)⟩]⟩ := by
  rw [next_of_openComment (c := ⟨_, p⟩) (Piece.read?_openComment h)]
  rfl

theorem next_openLine {body : List Char} (h : '\n' ∉ body) (p : Place) :
    (next ⟨'/' :: '/' :: body, p⟩).1 = ⟨.endOfInput (p.after ('/' :: '/' :: body)), []⟩ := by
  rw [next_of_isSkipped (c := ⟨_, p⟩) (Piece.read?_openLine h) rfl, next_nil, Piece.chars,
    if_neg Bool.false_ne_true, List.append_nil]

/-- A last gap has no warning, unless it leaves a block comment open. -/
theorem next_finalGap {cs : List Char} (h : FinalGap cs) (p : Place) :
    (next ⟨cs, p⟩).1 = ⟨.endOfInput (p.after cs), []⟩ ∨
      ∃ g body, Gap g ∧ ¬ ['*', '/'] <:+: body ∧ cs = g ++ '/' :: '*' :: body := by
  cases h with
  | gap hg =>
    left
    have hnext := next_gap hg [] p
    rw [List.append_nil] at hnext
    rw [hnext, next_nil]
  | openLine hg hbody =>
    left
    rw [next_gap hg, next_openLine hbody, Place.after_append]
  | openBlock hg hbody => exact .inr ⟨_, _, hg, hbody, rfl⟩

theorem finalGap_of_eof {c : Cursor} (h : c.next.1.token.kind = .eof) : FinalGap c.rest := by
  have hscan := c.scans_next
  generalize c.next.1.token = t at hscan h
  generalize c.next.2 = c' at hscan
  cases hscan with
  | endOfInput hgap => exact hgap
  | lexeme _ _ => exact absurd h (Lexeme.kind_read_ne_eof _ _)

end Cursor

section Last

variable {text : List Char} {i : Nat}

/-- A gap and what follows it make up the rest of the text. -/
theorem drop_eq_extract_append (text : List Char) {i a : Nat} (h : i ≤ a) :
    text.drop i = text.extract i a ++ text.drop a := by
  rw [List.extract_eq_take_drop]
  conv_lhs => rw [← List.take_append_drop (a - i) (text.drop i)]
  rw [List.drop_drop, Nat.add_sub_cancel' h]

/-- The warning for a comment that is left open. -/
theorem next_of_openCommentAt {a : Nat} (h : OpenCommentAt text i a) :
    (Cursor.next ⟨text.drop i, placeAt text i⟩).1 = ⟨.endOfInput (placeAt text text.length),
      [.unterminatedComment ⟨placeAt text a, placeAt text text.length⟩]⟩ := by
  obtain ⟨hle, hgap, body, hbody, hclose⟩ := h
  have happ := drop_eq_extract_append text hle
  have hlength : i + (text.extract i a).length = a := by
    have ha : ¬ text.length ≤ a := by
      rw [← List.drop_eq_nil_iff, hbody]
      exact List.cons_ne_nil _ _
    rw [List.extract_eq_take_drop, List.length_take, List.length_drop]
    omega
  have hplace := placeAt_add_length happ
  rw [hlength] at hplace
  rw [happ, Cursor.next_gap hgap, ← hplace, hbody, Cursor.next_openComment hclose, ← hbody,
    ← placeAt_length]

/-- **The end of input is told as it is**: with a warning if and only if a comment is left open. -/
theorem tells_endOfInput {c : Cursor} (h : InStep text i c) (heof : c.next.1.token.kind = .eof) :
    Tells text i [c.next.1] := by
  obtain ⟨rest, place⟩ := c
  obtain ⟨rfl, rfl⟩ : rest = text.drop i ∧ place = placeAt text i := ⟨h.rest, h.place⟩
  have hgap : FinalGap (text.drop i) := Cursor.finalGap_of_eof heof
  rcases Cursor.next_finalGap hgap (placeAt text i) with hnext | ⟨g, body, hg, hclose, happ⟩
  · rw [hnext, ← placeAt_length]
    refine .last hgap ?_
    intro a ha
    have hwarnings := congrArg Step.warnings (next_of_openCommentAt ha)
    rw [hnext] at hwarnings
    cases hwarnings
  · have hopen : OpenCommentAt text i (i + g.length) := by
      refine ⟨Nat.le_add_right _ _, ?_, body, drop_add_length happ, hclose⟩
      rw [extract_add_length happ]
      exact hg
    rw [next_of_openCommentAt hopen]
    exact .openComment hopen

end Last

/-! ## Tokens -/

namespace Cursor

/-- The step from `c` is a gap that is skipped, and then a lexeme with its own warnings. -/
inductive Reads (c : Cursor) : Step × Cursor → Prop
  | intro {g rest : List Char} {l : Lexeme} : Gap g → c.rest = g ++ (l.chars ++ rest) →
      Piece.read? (l.chars ++ rest) = some (.lexeme l, rest) →
      Reads c (⟨l.token ⟨c.place.after g, c.place.after (g ++ l.chars)⟩,
        l.warnings (c.place.after g)⟩, ⟨rest, c.place.after (g ++ l.chars)⟩)

theorem Reads.of_after {c : Cursor} {s rest : List Char} (hs : Separator s)
    (hrest : s ++ rest = c.rest) {r : Step × Cursor} (h : Reads ⟨rest, c.place.after s⟩ r) :
    Reads c r := by
  obtain ⟨hg, happ, hread⟩ := h
  simp only [← Place.after_append, ← List.append_assoc]
  refine .intro (.cons hs hg) ?_ hread
  rw [← hrest, List.append_assoc]
  exact congrArg (s ++ ·) happ

/-- Every step but the end of input reads a lexeme. -/
theorem reads_next {c : Cursor} (h : c.next.1.token.kind ≠ .eof) : Reads c c.next := by
  fun_induction next c with
  | case1 => exact absurd rfl h
  | case2 c rest l hr =>
    have happ : l.chars ++ rest = c.rest := Piece.read?_append hr
    exact .intro .nil happ.symm (happ ▸ hr)
  | case3 => exact absurd rfl h
  | case4 c rest b hr after _ ih =>
    cases Piece.reads_of_read? hr with
    | blank _ hb => exact (ih h).of_after (.blank hb) (Piece.read?_append hr)
  | case5 c rest b n hr after _ ih =>
    cases Piece.reads_of_read? hr with
    | line _ hb => exact (ih h).of_after (.line hb) (Piece.read?_append hr)
    | openLine hb =>
      rw [next_nil] at h
      exact absurd rfl h
  | case6 c rest b hr after _ ih =>
    cases Piece.reads_of_read? hr with
    | block _ hb => exact (ih h).of_after (.block hb) (Piece.read?_append hr)

end Cursor

section Token

variable {text cs rest : List Char} {a : Nat}

theorem warnsAt_string (h : text.drop a = '"' :: cs) :
    let l := (Lexeme.string cs).1
    let b := a + l.chars.length
    Step.WarnsAt text ⟨l.token ⟨placeAt text a, placeAt text b⟩, l.warnings (placeAt text a)⟩
      a b := by
  intro l b
  have hget := getElem?_of_drop_cons h
  have hstop : (placeAt text a).after l.chars = placeAt text b := by
    rw [← Lexeme.string_append cs] at h
    exact (placeAt_add_length h).symm
  obtain ⟨pairs, hquoted, hescapes⟩ := quotedFrom_stringBody (drop_add_one h)
  have hl : l = .quoted (Lexeme.stringBody cs).1 (Lexeme.stringBody cs).2.1 := rfl
  generalize (Lexeme.stringBody cs).1 = body, (Lexeme.stringBody cs).2.1 = ending at *
  have hb : a + 1 + body.length + (if ending = .closed then 1 else 0) = b := by
    cases ending <;> simp [b, hl, Lexeme.chars] <;> omega
  have hwarnings : l.warnings (placeAt text a) = escapeWarnings text pairs ++
      if ending = .newline then [.unterminatedString ⟨placeAt text a, placeAt text b⟩] else [] := by
    rw [← hescapes, placeAt_add_one h, ← hstop, hl]
    rfl
  rw [hb] at hquoted
  refine ⟨fun _ => ⟨hget, pairs, ending, hquoted⟩, ?_, ?_⟩
  · intro pairs' ending' _ hquoted'
    obtain ⟨rfl, rfl⟩ := hquoted.unique hquoted'
    exact hwarnings
  · intro hother
    refine absurd ?_ hother
    rw [hl]
    cases ending with
    | closed | newline => exact .inl rfl
    | endOfInput => exact .inr ⟨rfl, hget⟩

theorem Lexeme.Reads.kind_ne_stringLiteral {k : Kind} {w : List Char}
    (h : (Lexeme.plain k w).Reads rest) : k ≠ .stringLiteral := by
  cases h with
  | token _ _ _ hk => exact hk
  | integer | mantissa | error => exact nofun

/-- **The warnings of a lexeme are those that its text calls for.** -/
theorem warnsAt_of_read? {l : Lexeme} (hnul : '\x00' ∉ text)
    (hdrop : text.drop a = l.chars ++ rest)
    (h : Piece.read? (l.chars ++ rest) = some (.lexeme l, rest)) :
    let b := a + l.chars.length
    Step.WarnsAt text ⟨l.token ⟨placeAt text a, placeAt text b⟩, l.warnings (placeAt text a)⟩
      a b := by
  obtain ⟨c, cs, hcs, -, -, hread⟩ := Piece.exists_cons_of_read? h
  have hnul' : '\x00' ∉ l.chars ++ rest := by
    rw [← hdrop]
    exact fun hmem => hnul (List.mem_of_mem_drop hmem)
  have hreads := Piece.reads_lexeme_of_read? h hnul'
  rw [hcs] at hdrop hnul'
  by_cases hquote : c = '"'
  · subst hquote
    obtain rfl : (Lexeme.string cs).1 = l := congrArg Prod.fst hread
    exact warnsAt_string hdrop
  · have hget : text[a]? ≠ some '"' := by
      rw [getElem?_of_drop_cons hdrop]
      simpa using hquote
    obtain ⟨k, w, hplain⟩ := Lexeme.exists_plain_read hquote hnul'
    obtain rfl : l = .plain k w := by rw [← hplain, hread]
    refine ⟨?_, fun _ _ hquote' => absurd hquote' hget, fun _ => rfl⟩
    rintro (hk | ⟨-, hquote'⟩)
    · exact absurd hk hreads.kind_ne_stringLiteral
    · exact absurd hquote' hget

end Token

/-! ## All steps -/

variable {text : List Char} {i : Nat}

/-- One step finds a token after a gap, with the warnings that it calls for. -/
theorem Cursor.Reads.exists_range {c : Cursor} {r : Step × Cursor} (hr : c.Reads r)
    (h : InStep text i c) (hnul : '\x00' ∉ text) :
    ∃ a b, i ≤ a ∧ a < b ∧ b ≤ text.length ∧ Gap (text.extract i a) ∧
      r.1.token.StandsAt text a b ∧ r.1.WarnsAt text a b ∧ InStep text b r.2 := by
  obtain @⟨g, rest, l, hg, happ, hread⟩ := hr
  rw [h.rest] at happ
  have hdrop := drop_add_length happ
  have hne : l.chars ≠ [] := Piece.chars_ne_nil_of_read? hread
  have hpos := List.length_pos_iff.2 hne
  have hstart : c.place.after g = placeAt text (i + g.length) := by
    rw [h.place, placeAt_add_length happ]
  have hstop := placeAt_add_length hdrop
  rw [Place.after_append, hstart, ← hstop]
  refine ⟨i + g.length, i + g.length + l.chars.length, by omega, by omega,
    add_length_le hdrop hne, ?_, ?_, warnsAt_of_read? hnul hdrop hread, ?_⟩
  · rw [extract_add_length happ]
    exact hg
  · obtain ⟨d, cs, hcs, -, -, hl⟩ := Piece.exists_cons_of_read? hread
    have hat : ReadAt text (l.token ⟨placeAt text (i + g.length),
        placeAt text (i + g.length + l.chars.length)⟩) (i + g.length)
        (i + g.length + l.chars.length) := by
      refine .intro (hdrop.trans hcs) ?_ ?_ <;> rw [hl]
    exact hat.standsAt hnul
  · exact ⟨(drop_add_length hdrop).symm, rfl⟩

/-- **Every step is told as it is.** -/
theorem tells_steps (hnul : '\x00' ∉ text) {c : Cursor} (h : InStep text i c) :
    Tells text i c.steps := by
  fun_induction Cursor.steps c generalizing i with
  | case1 c heof => exact tells_endOfInput h heof
  | case2 c heof ih =>
    obtain ⟨a, b, hia, hab, hb, hgap, hstands, hwarns, hstep⟩ :=
      (Cursor.reads_next heof).exists_range h hnul
    exact .token hia hab hb hgap hstands hwarns (ih hstep)

/-! ## Warnings in order -/

/-- The warnings end one after another, at indices from `i` to `j`. -/
def Rising (text : List Char) (i j : Nat) (ws : List Warning) : Prop :=
  ∃ ends : List Nat, ws.map (fun w => w.span.stop) = ends.map (placeAt text) ∧
    ends.Pairwise (· ≤ ·) ∧ ∀ k ∈ ends, i ≤ k ∧ k ≤ j

namespace Rising

theorem nil (i j : Nat) : Rising text i j [] := ⟨[], rfl, .nil, nofun⟩

theorem singleton {j k : Nat} {w : Warning} (hw : w.span.stop = placeAt text k) (hik : i ≤ k)
    (hkj : k ≤ j) : Rising text i j [w] := by
  refine ⟨[k], by simp [hw], List.pairwise_singleton _ _, ?_⟩
  simpa using ⟨hik, hkj⟩

theorem of_le {j k : Nat} {ws : List Warning} (h : Rising text j k ws) (hij : i ≤ j) :
    Rising text i k ws := by
  obtain ⟨ends, hends, hsorted, hbounds⟩ := h
  exact ⟨ends, hends, hsorted, fun m hm => ⟨hij.trans (hbounds m hm).1, (hbounds m hm).2⟩⟩

theorem append {j k : Nat} {ws ws' : List Warning} (hij : i ≤ j) (hjk : j ≤ k)
    (h : Rising text i j ws) (h' : Rising text j k ws') : Rising text i k (ws ++ ws') := by
  obtain ⟨ends, hends, hsorted, hbounds⟩ := h
  obtain ⟨ends', hends', hsorted', hbounds'⟩ := h'
  refine ⟨ends ++ ends', ?_, ?_, ?_⟩
  · rw [List.map_append, List.map_append, hends, hends']
  · refine List.pairwise_append.2 ⟨hsorted, hsorted', ?_⟩
    intro m hm m' hm'
    have := hbounds m hm
    have := hbounds' m' hm'
    omega
  · intro m hm
    rcases List.mem_append.1 hm with hm | hm
    · have := hbounds m hm
      omega
    · have := hbounds' m hm
      omega

theorem pairwise {j : Nat} {ws : List Warning} (h : Rising text i j ws) :
    (ws.map fun w => w.span.stop).Pairwise (· ≤ ·) := by
  obtain ⟨ends, hends, hsorted, -⟩ := h
  rw [hends, List.pairwise_map]
  exact hsorted.imp (placeAt_le_placeAt text)

end Rising

theorem QuotedFrom.rising {pairs : List (Nat × Char)} {b : Nat} {ending : Ending}
    (h : QuotedFrom text i pairs b ending) :
    i ≤ b ∧ Rising text i b (escapeWarnings text pairs) := by
  induction h with
  | closed => exact ⟨Nat.le_succ _, .nil _ _⟩
  | newline => exact ⟨le_rfl, .nil _ _⟩
  | endOfInput => exact ⟨le_rfl, .nil _ _⟩
  | backslash => exact ⟨Nat.le_succ _, .nil _ _⟩
  | @pair i b c pairs ending _ _ _ ih =>
    obtain ⟨hle, hrising⟩ := ih
    refine ⟨by omega, ?_⟩
    have hfirst : Rising text i (i + 2) (escapeWarnings text [(i, c)]) := by
      by_cases hc : c = 'n'
      · simpa [escapeWarnings, hc] using .nil i (i + 2)
      · simpa [escapeWarnings, hc] using .singleton rfl (Nat.le_add_right i 2) le_rfl
    have happ : escapeWarnings text ((i, c) :: pairs) =
        escapeWarnings text [(i, c)] ++ escapeWarnings text pairs := by
      rw [escapeWarnings, ← List.singleton_append, List.filter_append, List.map_append]
      rfl
    rw [happ]
    exact hfirst.append (Nat.le_add_right i 2) hle hrising
  | single _ _ _ _ _ ih => exact ⟨by omega, ih.2.of_le (Nat.le_succ _)⟩

theorem Step.WarnsAt.rising {s : Step} {a b : Nat} (h : s.WarnsAt text a b)
    (hspan : s.token.span.stop = placeAt text b) : Rising text a b s.warnings := by
  by_cases hstring : s.token.IsStringAt text a
  · obtain ⟨hquote, pairs, ending, hquoted⟩ := h.reading hstring
    obtain ⟨hle, hrising⟩ := hquoted.rising
    rw [h.string pairs ending hquote hquoted]
    have hlast : Rising text b b
        (if ending = .newline then [.unterminatedString s.token.span] else []) := by
      split
      · exact .singleton hspan le_rfl le_rfl
      · exact .nil b b
    exact (hrising.append hle le_rfl hlast).of_le (Nat.le_succ a)
  · rw [h.other hstring]
    exact .nil a b

theorem Tells.rising {steps : List Step} (h : Tells text i steps) (hi : i ≤ text.length) :
    Rising text i text.length (steps.flatMap Step.warnings) := by
  induction h with
  | last => exact .nil _ _
  | openComment => exact .singleton rfl hi le_rfl
  | token hia hab hb _ hstands hwarns _ ih =>
    have hstop := congrArg Span.stop hstands.span
    exact ((hwarns.rising hstop).append hab.le hb (ih hb)).of_le hia

/-- **Every warning has its reason in the text.** The steps of a recording have exactly the
warnings that the text of the source calls for, and these end one after another. -/
theorem warnings_exact (source : String) :
    let steps := (Recording.ofText source).steps
    Tells (readable source) 0 steps ∧
      ((steps.flatMap Step.warnings).map fun w => w.span.stop).Pairwise (· ≤ ·) := by
  have hstep : InStep (readable source) 0 (Cursor.ofText source) :=
    ⟨(readable_eq_takeWhile source).symm, rfl⟩
  have htells := tells_steps (nul_notMem_readable source) hstep
  exact ⟨htells, (htells.rising (Nat.zero_le _)).pairwise⟩

/-- An escaped newline stays in the string and is a pair like any other; a bare one ends it. The
comment belongs to the end of input. -/
example : (Recording.ofText "\"a\\\nb\\n\n /*").steps.map Step.warnings =
    [[.illegalEscape '\n' ⟨⟨1, 3⟩, ⟨2, 1⟩⟩, .unterminatedString ⟨⟨1, 1⟩, ⟨2, 4⟩⟩],
      [.unterminatedComment ⟨⟨3, 2⟩, ⟨3, 4⟩⟩]] := by cbv

end MiniC
