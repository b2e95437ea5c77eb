import MiniC.Proofs.Lexical
import MiniC.Scanner

/-!
# What stands between the tokens

**Gaps.** Blanks and closed comments may stand between two tokens (`Gap`). After the last token a
comment may also be left open: a line comment ends with the text, and a block comment may never be
closed (`FinalGap`).

**Theorem (`scans_next`).** A scan skips a gap and reads one lexeme, or finds that the rest of the
text is a final gap. In both cases its places are those of the text that was passed over.
-/

namespace MiniC

/-! ## Gaps -/

/-- A blank or a comment that is closed. -/
inductive Separator : List Char → Prop
  | blank {c : Char} : c ∈ [' ', '\t', '\x0c', '\r', '\n'] → Separator [c]
  | line {body : List Char} : '\n' ∉ body → Separator ('/' :: '/' :: (body ++ ['\n']))
  | block {body : List Char} : ¬ ['*', '/'] <:+: body →
      Separator ('/' :: '*' :: (body ++ ['*', '/']))

/-- A sequence of separators. -/
inductive Gap : List Char → Prop
  | nil : Gap []
  | cons {s g : List Char} : Separator s → Gap g → Gap (s ++ g)

/-- A gap through the end of the text. -/
inductive FinalGap : List Char → Prop
  | gap {g : List Char} : Gap g → FinalGap g
  | openLine {g body : List Char} : Gap g → '\n' ∉ body → FinalGap (g ++ '/' :: '/' :: body)
  | openBlock {g body : List Char} : Gap g → ¬ ['*', '/'] <:+: body →
      FinalGap (g ++ '/' :: '*' :: body)

theorem FinalGap.cons {s g : List Char} (hs : Separator s) (hg : FinalGap g) :
    FinalGap (s ++ g) := by
  cases hg with
  | gap hg => exact .gap (.cons hs hg)
  | openLine hg hbody =>
    rw [← List.append_assoc]
    exact .openLine (.cons hs hg) hbody
  | openBlock hg hbody =>
    rw [← List.append_assoc]
    exact .openBlock (.cons hs hg) hbody

/-! ## Comments end where they first can -/

namespace Piece

/-- A closing mark that does not start here comes later. -/
theorem close_cons {c : Char} {cs : List Char} (h : ['*', '/'] <:+: c :: cs)
    (hc : ∀ rest, c = '*' → cs = '/' :: rest → False) : ['*', '/'] <:+: cs := by
  rcases List.infix_cons_iff.1 h with ⟨t, ht⟩ | h
  · cases ht
    exact (hc t rfl rfl).elim
  · exact h

theorem not_close_of_splitClose? {cs body rest : List Char}
    (h : splitClose? cs = some (body, rest)) : ¬ ['*', '/'] <:+: body := by
  fun_induction splitClose? cs generalizing body with
  | case1 => cases h
  | case2 => cases h; simp
  | case3 c cs hc ih =>
    obtain ⟨⟨body', rest'⟩, h', heq⟩ := Option.map_eq_some_iff.1 h
    cases heq
    intro hclose
    apply ih h' (close_cons hclose _)
    rintro t rfl rfl
    have happ := splitClose?_append h'
    exact hc _ rfl happ.symm

theorem not_close_of_splitClose?_eq_none {cs : List Char} (h : splitClose? cs = none) :
    ¬ ['*', '/'] <:+: cs := by
  fun_induction splitClose? cs with
  | case1 => simp
  | case2 => cases h
  | case3 c cs hc ih =>
    intro hclose
    exact ih (Option.map_eq_none_iff.1 h) (close_cons hclose hc)

/-! ## Pieces between the tokens -/

theorem mem_blanks_of_isBlank {c : Char} (h : isBlank c) :
    c ∈ [' ', '\t', '\x0c', '\r', '\n'] := by
  simpa [isBlank, or_assoc] using h

theorem newline_notMem_takeWhile (cs : List Char) : '\n' ∉ cs.takeWhile (· != '\n') := by
  intro h
  simpa using List.mem_takeWhile_imp h

/-- The outcomes of a read: a piece and the text after it. -/
inductive Reads : Piece → List Char → Prop
  | blank {c : Char} (rest : List Char) : c ∈ [' ', '\t', '\x0c', '\r', '\n'] →
      Reads (.blank c) rest
  | line {body : List Char} (rest : List Char) : '\n' ∉ body → Reads (.lineComment body true) rest
  | openLine {body : List Char} : '\n' ∉ body → Reads (.lineComment body false) []
  | block {body : List Char} (rest : List Char) : ¬ ['*', '/'] <:+: body →
      Reads (.blockComment body) rest
  | openBlock {body : List Char} : ¬ ['*', '/'] <:+: body → Reads (.openComment body) []
  | lexeme (c : Char) (cs : List Char) : Reads (.lexeme (Lexeme.read c cs).1) (Lexeme.read c cs).2

theorem reads_readLineComment (cs : List Char) :
    Reads (readLineComment cs).1 (readLineComment cs).2 := by
  unfold readLineComment
  split
  · exact .openLine (newline_notMem_takeWhile cs)
  · exact .line _ (newline_notMem_takeWhile cs)

theorem reads_readBlockComment (cs : List Char) :
    Reads (readBlockComment cs).1 (readBlockComment cs).2 := by
  unfold readBlockComment
  split
  · next h => exact .block _ (not_close_of_splitClose? h)
  · next h => exact .openBlock (not_close_of_splitClose?_eq_none h)

theorem reads_of_read? {cs : List Char} {p : Piece} {rest : List Char}
    (h : read? cs = some (p, rest)) : Reads p rest := by
  unfold read? at h
  split at h
  · cases h
  · next cs => simpa [Option.some.inj h] using reads_readLineComment cs
  · next cs => simpa [Option.some.inj h] using reads_readBlockComment cs
  · next c cs _ _ =>
    split at h
    · next hc =>
      cases h
      exact .blank _ (mem_blanks_of_isBlank hc)
    · cases h
      exact .lexeme c cs

theorem eq_nil_of_read? {cs : List Char} (h : read? cs = none) : cs = [] := by
  unfold read? at h
  split at h
  · rfl
  · cases h
  · cases h
  · split at h <;> cases h

end Piece

/-! ## One scan -/

namespace Cursor

/-- The outcomes of a scan from `c`: the end of the text after a last gap, or a gap and a lexeme. -/
inductive Scans (c : Cursor) : Token → Cursor → Prop
  | endOfInput {c' : Cursor} : FinalGap c.rest →
      Scans c (.endOfInput (c.place.after c.rest)) c'
  | lexeme {gap cs : List Char} {d : Char} : Gap gap → c.rest = gap ++ d :: cs →
      Scans c ((Lexeme.read d cs).1.token
        ⟨c.place.after gap, c.place.after (gap ++ (Lexeme.read d cs).1.chars)⟩)
        ⟨(Lexeme.read d cs).2, c.place.after (gap ++ (Lexeme.read d cs).1.chars)⟩

/-- A separator in front changes neither what is scanned nor the places. -/
theorem Scans.of_after {c : Cursor} {s rest : List Char} (hs : Separator s)
    (hrest : s ++ rest = c.rest) {t : Token} {c' : Cursor}
    (h : Scans ⟨rest, c.place.after s⟩ t c') : Scans c t c' := by
  cases h with
  | endOfInput hg =>
    simp only [← Place.after_append, hrest]
    exact .endOfInput (hrest ▸ hg.cons hs)
  | @lexeme gap cs d hg heq =>
    simp only [← Place.after_append, ← List.append_assoc]
    refine .lexeme (.cons hs hg) ?_
    rw [← hrest, List.append_assoc]
    exact congrArg (s ++ ·) heq

/-- An open line comment is a final gap. -/
theorem Scans.of_openLine {c : Cursor} {body : List Char} (hbody : '\n' ∉ body)
    (hrest : (Piece.lineComment body false).chars = c.rest) {t : Token} {c' : Cursor}
    (h : Scans ⟨[], c.place.after (Piece.lineComment body false).chars⟩ t c') : Scans c t c' := by
  have hgap : FinalGap c.rest := by
    rw [← hrest, Piece.chars, if_neg Bool.false_ne_true, List.append_nil]
    exact .openLine .nil hbody
  cases h with
  | endOfInput _ =>
    rw [hrest]
    exact .endOfInput hgap
  | lexeme _ heq => simp at heq

/-- **One scan.** A scan skips a gap and reads a lexeme, or the rest of the text is a final gap. -/
theorem scans_next (c : Cursor) : Scans c c.next.1.token c.next.2 := by
  fun_induction next c with
  | case1 c hr =>
    have hrest := Piece.eq_nil_of_read? hr
    have hplace : c.place = c.place.after c.rest := by rw [hrest, Place.after_nil]
    rw [hplace]
    exact .endOfInput (hrest ▸ .gap .nil)
  | case2 c rest l hr =>
    have happ := Piece.read?_append hr
    have hreads := Piece.reads_of_read? hr
    cases hreads with
    | lexeme d cs =>
      have hrest : c.rest = [] ++ d :: cs := by
        rw [← happ, List.nil_append, Piece.chars, Lexeme.read_append]
      exact .lexeme .nil hrest
  | case3 c rest b hr _ after =>
    have happ := Piece.read?_append hr
    have hreads := Piece.reads_of_read? hr
    cases hreads with
    | openBlock hb =>
      rw [List.append_nil] at happ
      have hgap : FinalGap c.rest := happ ▸ .openBlock .nil hb
      show Scans c (.endOfInput (c.place.after (Piece.openComment b).chars)) after
      rw [happ]
      exact .endOfInput hgap
  | case4 c rest b hr after _ ih =>
    have hreads := Piece.reads_of_read? hr
    cases hreads with
    | blank _ hb => exact ih.of_after (.blank hb) (Piece.read?_append hr)
  | case5 c rest b n hr after _ ih =>
    have happ := Piece.read?_append hr
    have hreads := Piece.reads_of_read? hr
    cases hreads with
    | line _ hb => exact ih.of_after (.line hb) happ
    | openLine hb =>
      rw [List.append_nil] at happ
      exact ih.of_openLine hb happ
  | case6 c rest b hr after _ ih =>
    have hreads := Piece.reads_of_read? hr
    cases hreads with
    | block _ hb => exact ih.of_after (.block hb) (Piece.read?_append hr)

end Cursor

end MiniC
