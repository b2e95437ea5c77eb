import MiniC.Proofs.Steps
import MiniC.Proofs.Tiling

/-!
# The pieces of a text and its steps

The scanner makes its steps while it walks over the text. Here the walk is cut in two: the text is
split into pieces, which knows nothing of places, and the pieces are then turned into steps, which
reads no character of the text again.

**Theorem (`Cursor.steps_eq`).** The steps of a cursor are those of the pieces of its text
(`stepsOf`).

So what a change of the text does to its tokens is a question about the pieces alone. If a text is
put together from pieces that are read back one by one (`pieces_append`), its steps follow.
-/

namespace MiniC

/-! ## Pieces, one by one -/

theorem pieces_nil : pieces [] = [] := by
  rw [pieces]
  rfl

/-- Induction over a text, piece by piece. -/
@[elab_as_elim]
theorem induction_on_pieces {motive : List Char → Prop} (cs : List Char) (nil : motive [])
    (piece : ∀ cs p rest, Piece.read? cs = some (p, rest) → motive rest → motive cs) :
    motive cs := by
  induction cs using pieces.induct with
  | case1 cs hr =>
    obtain rfl := Piece.eq_nil_of_read? hr
    exact nil
  | case2 cs p rest hr ih => exact piece cs p rest hr ih

theorem pieces_of_read? {cs rest : List Char} {p : Piece} (h : Piece.read? cs = some (p, rest)) :
    pieces cs = p :: pieces rest := by
  rw [pieces]
  split
  · next hr => cases hr.symm.trans h
  · next hr =>
    cases hr.symm.trans h
    rfl

/-- The pieces make up the text. -/
theorem flatMap_chars_pieces (cs : List Char) : (pieces cs).flatMap Piece.chars = cs := by
  induction cs using induction_on_pieces with
  | nil =>
    rw [pieces_nil]
    rfl
  | piece cs p rest hr ih => rw [pieces_of_read? hr, List.flatMap_cons, ih, Piece.read?_append hr]

/-- A piece that is read back in front of some text is the first of the pieces. -/
theorem pieces_append {p : Piece} {rest : List Char}
    (h : Piece.read? (p.chars ++ rest) = some (p, rest)) :
    pieces (p.chars ++ rest) = p :: pieces rest := pieces_of_read? h

/-- A run of blanks is that many pieces. -/
theorem pieces_blanks {bs : List Char} (h : ∀ c ∈ bs, isBlank c) (rest : List Char) :
    pieces (bs ++ rest) = bs.map .blank ++ pieces rest := by
  induction bs with
  | nil => rfl
  | cons c bs ih =>
    rw [List.forall_mem_cons] at h
    have hread := Piece.read?_blank (Piece.mem_blanks_of_isBlank h.1) (bs ++ rest)
    rw [List.cons_append, List.map_cons, List.cons_append, ← ih h.2]
    exact pieces_of_read? hread

namespace Piece

variable {cs rest : List Char} {p : Piece}

theorem nul_notMem_of_read? (h : read? cs = some (p, rest)) (hnul : '\x00' ∉ cs) :
    '\x00' ∉ p.chars ∧ '\x00' ∉ rest := by
  rw [← read?_append h, List.mem_append, not_or] at hnul
  exact hnul

/-- A lexeme is read where neither a blank nor a comment begins. -/
theorem exists_cons_of_read? {l : Lexeme} (h : read? cs = some (lexeme l, rest)) :
    ∃ c cs', cs = c :: cs' ∧ ¬ isBlank c ∧
      (c = '/' → cs'.head? ≠ some '/' ∧ cs'.head? ≠ some '*') ∧ Lexeme.read c cs' = (l, rest) := by
  unfold read? at h
  split at h
  · cases h
  · simp only [readLineComment] at h
    split at h <;> cases h
  · simp only [readBlockComment] at h
    split at h <;> cases h
  · next c cs hline hblock =>
    split at h
    · cases h
    · next hblank =>
      refine ⟨c, cs, rfl, hblank, ?_, Prod.ext_iff.2 (by simpa using h)⟩
      rintro rfl
      constructor
      · intro hhead
        obtain ⟨cs', rfl⟩ := List.head?_eq_some_iff.1 hhead
        exact hline cs' rfl rfl
      · intro hhead
        obtain ⟨cs', rfl⟩ := List.head?_eq_some_iff.1 hhead
        exact hblock cs' rfl rfl

/-- What is read as a lexeme is one of the outcomes of reading a lexeme. -/
theorem reads_lexeme_of_read? {l : Lexeme} (h : read? cs = some (lexeme l, rest))
    (hnul : '\x00' ∉ cs) : l.Reads rest := by
  obtain ⟨c, cs', rfl, -, -, hread⟩ := exists_cons_of_read? h
  have hreads := Lexeme.reads_read hnul
  rwa [hread] at hreads

end Piece

/-! ## Steps of pieces -/

/-- The steps of pieces that start at the place `p`. -/
def stepsOf (p : Place) : List Piece → List Step
  | [] => [⟨.endOfInput p, []⟩]
  | .lexeme l :: ps =>
    ⟨l.token ⟨p, p.after l.chars⟩, l.warnings p⟩ :: stepsOf (p.after l.chars) ps
  | .openComment body :: _ =>
    let q := p.after (Piece.openComment body).chars
    [⟨.endOfInput q, [.unterminatedComment ⟨p, q⟩]⟩]
  | piece :: ps => stepsOf (p.after piece.chars) ps

theorem stepsOf_of_isSkipped {piece : Piece} (h : piece.isSkipped) (p : Place) (ps : List Piece) :
    stepsOf p (piece :: ps) = stepsOf (p.after piece.chars) ps := by
  cases piece with
  | blank | lineComment | blockComment => rfl
  | openComment | lexeme => cases h

theorem stepsOf_blanks (bs : List Char) (q : Place) (ps : List Piece) :
    stepsOf q (bs.map .blank ++ ps) = stepsOf (q.after bs) ps := by
  induction bs generalizing q with
  | nil => rfl
  | cons c bs ih => exact ih (q.step c)

namespace Cursor

theorem next_of_openComment {c : Cursor} {body rest : List Char}
    (h : Piece.read? c.rest = some (.openComment body, rest)) :
    c.next = (⟨.endOfInput (c.place.after (Piece.openComment body).chars),
      [.unterminatedComment ⟨c.place, c.place.after (Piece.openComment body).chars⟩]⟩,
      ⟨rest, c.place.after (Piece.openComment body).chars⟩) := by
  rw [next]
  split
  · next hr => cases hr.symm.trans h
  · next hr =>
    cases hr.symm.trans h
    rfl

/-- **The steps of a text are those of its pieces.** -/
theorem steps_eq (cs : List Char) (p : Place) (hnul : '\x00' ∉ cs) :
    (⟨cs, p⟩ : Cursor).steps = stepsOf p (pieces cs) := by
  induction cs using induction_on_pieces generalizing p with
  | nil =>
    have heof : (next ⟨[], p⟩).1.token.kind = .eof := by
      rw [next_nil]
      rfl
    rw [steps_of_eof heof, next_nil, pieces_nil, stepsOf]
  | piece cs piece rest hr ih =>
    have hrest := (Piece.nul_notMem_of_read? hr hnul).2
    rw [pieces_of_read? hr]
    cases piece with
    | lexeme l =>
      have hnext := next_of_lexeme (c := ⟨cs, p⟩) hr
      have hkind : (next ⟨cs, p⟩).1.token.kind ≠ .eof := by
        rw [hnext]
        exact (Piece.reads_lexeme_of_read? hr hnul).kind_ne_eof
      rw [steps_of_ne_eof hkind, hnext, stepsOf, ih _ hrest]
    | openComment body =>
      have hnext := next_of_openComment (c := ⟨cs, p⟩) hr
      have hkind : (next ⟨cs, p⟩).1.token.kind = .eof := by
        rw [hnext]
        rfl
      rw [steps_of_eof hkind, hnext, stepsOf]
    | blank | lineComment | blockComment =>
      rw [steps_eq_of_next_eq (next_of_isSkipped hr rfl), ih _ hrest]
      rfl

end Cursor

/-! ## Sources -/

theorem readable_append {s : String} (h : '\x00' ∉ s.toList) (t : String) :
    readable (s ++ t) = s.toList ++ readable t := by
  have hall : ∀ c ∈ s.toList, (c != '\x00') = true := by
    intro c hc
    simpa using fun heq : c = '\x00' => h (heq ▸ hc)
  rw [readable_eq_takeWhile, readable_eq_takeWhile, String.toList_append,
    List.takeWhile_append_of_pos hall]

/-- A text without an end marker is read to its end. -/
theorem readable_eq_toList {s : String} (h : '\x00' ∉ s.toList) : readable s = s.toList := by
  have hempty : readable "" = [] := rfl
  rw [← String.append_empty (s := s), readable_append h, hempty, List.append_nil,
    String.append_empty]

/-- The tokens and the warnings of a source, from its pieces. -/
theorem tokenize_eq (source : String) :
    tokenize source = ((stepsOf .origin (pieces (readable source))).map Step.token,
      (stepsOf .origin (pieces (readable source))).flatMap Step.warnings) := by
  have hcursor : (Scanner.ofText source).cursor = ⟨readable source, .origin⟩ := by
    rw [readable_eq_takeWhile]
    rfl
  have hsteps := Cursor.steps_eq (readable source) .origin (nul_notMem_readable source)
  rw [← hsteps, ← hcursor, ← Scanner.tokens_scanAll]
  exact Prod.ext rfl (Scanner.warnings_scanAll _)

end MiniC
