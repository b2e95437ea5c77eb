import MiniC.Proofs.Lookahead
import MiniC.Proofs.Verdict

/-!
# Line endings

In some files a line ends with a carriage return and a newline.

**Theorem (`tokenize_withReturns`).** If no newline lies inside a string or ends one, a carriage
return before every newline changes no token, no place, no warning and no verdict.

A carriage return is a blank, and the newline after it starts the next line at its first column, so
it moves no place beyond its own line (`after_withReturns`). Both characters are breaks. So a token
that is no string is read again before them (`front_withReturns`), be it a number whose exponent
was given up at the end of the line. In a comment the carriage return is one more character, and as
it stands before a newline it never comes between the two marks that close a block comment
(`close_of_withReturns`).

A string takes all characters, also the carriage return. One with a newline in it, or one that a
newline ends, has another text then.
-/

namespace MiniC

/-! ## Carriage returns -/

/-- The text with a carriage return before every newline. -/
def withReturns (cs : List Char) : List Char :=
  cs.flatMap fun c => if c = '\n' then ['\r', '\n'] else [c]

/-- The source with a carriage return before every newline. -/
def sourceWithReturns (source : String) : String := String.ofList (withReturns source.toList)

example : sourceWithReturns "a\n\n b\r\n" = "a\r\n\r\n b\r\r\n" := by cbv

section Text

variable {c : Char} {cs : List Char}

theorem withReturns_nil : withReturns [] = [] := rfl

theorem withReturns_cons (hc : c ≠ '\n') (cs : List Char) :
    withReturns (c :: cs) = c :: withReturns cs := by
  rw [withReturns, List.flatMap_cons, if_neg hc]
  rfl

theorem withReturns_append (cs ds : List Char) :
    withReturns (cs ++ ds) = withReturns cs ++ withReturns ds := List.flatMap_append

theorem withReturns_of_notMem (h : '\n' ∉ cs) : withReturns cs = cs := by
  induction cs with
  | nil => rfl
  | cons c cs ih =>
    rw [List.mem_cons, not_or] at h
    rw [withReturns_cons (Ne.symm h.1), ih h.2]

theorem mem_withReturns {d : Char} (h : d ∈ withReturns cs) : d = '\r' ∨ d ∈ cs := by
  obtain ⟨c, hc, hd⟩ := List.mem_flatMap.1 h
  by_cases hnewline : c = '\n'
  · rw [if_pos hnewline, List.mem_cons, List.mem_singleton] at hd
    exact hd.imp_right fun heq => by rwa [heq, ← hnewline]
  · rw [if_neg hnewline, List.mem_singleton] at hd
    exact .inr (hd ▸ hc)

theorem nul_notMem_withReturns (h : '\x00' ∉ cs) : '\x00' ∉ withReturns cs :=
  fun hmem => (mem_withReturns hmem).elim (by decide) h

/-- **No place moves**, but those within a line ending. -/
theorem after_withReturns (p : Place) (cs : List Char) : p.after (withReturns cs) = p.after cs := by
  induction cs generalizing p with
  | nil => rfl
  | cons c cs ih =>
    by_cases hc : c = '\n'
    · subst hc
      exact ih _
    · rw [withReturns_cons hc, Place.after_cons, Place.after_cons, ih]

/-- Both characters of a line ending are breaks. -/
theorem front_withReturns (cs : List Char) : front (withReturns cs) = front cs := by
  induction cs with
  | nil => rfl
  | cons c cs ih =>
    by_cases hc : c = '\n'
    · subst hc
      rfl
    · rw [withReturns_cons hc]
      exact front_append_congr (w := [c]) ih

/-- Only a newline is seen as another character. -/
theorem head?_withReturns (hc : c ≠ '\r') (h : (withReturns cs).head? = some c) :
    cs.head? = some c := by
  cases cs with
  | nil => cases h
  | cons d cs =>
    by_cases hd : d = '\n'
    · subst hd
      exact absurd (Option.some.inj h).symm hc
    · rwa [withReturns_cons hd] at h

/-- **No comment is closed by a carriage return.** -/
theorem close_of_withReturns (h : ['*', '/'] <:+: withReturns cs) : ['*', '/'] <:+: cs := by
  induction cs with
  | nil => exact h
  | cons c cs ih =>
    by_cases hc : c = '\n'
    · subst hc
      have hrest : ['*', '/'] <:+: withReturns cs :=
        Piece.close_cons (Piece.close_cons h nofun) nofun
      exact (ih hrest).trans (List.suffix_cons _ _).isInfix
    · rw [withReturns_cons hc] at h
      by_cases hclose : c = '*' ∧ cs.head? = some '/'
      · obtain ⟨rfl, hslash⟩ := hclose
        obtain ⟨t, rfl⟩ := List.head?_eq_some_iff.1 hslash
        exact ⟨[], t, rfl⟩
      · have hrest : ['*', '/'] <:+: withReturns cs := by
          refine Piece.close_cons h fun t hstar hslash => hclose ⟨hstar, ?_⟩
          exact head?_withReturns (by decide) (by rw [hslash]; rfl)
        exact (ih hrest).trans (List.suffix_cons _ _).isInfix

end Text

/-! ## Pieces -/

namespace Piece

/-- Whether no newline lies inside a string or ends it. A string that the end of the text cuts off
is a string too. -/
def keepsLine : Piece → Bool
  | lexeme (.quoted body ending) => '\n' ∉ body ∧ ending ≠ .newline
  | blank _ | lineComment _ _ | blockComment _ | openComment _ | lexeme (.plain _ _) => true

/-- What the piece is in the text with carriage returns. The newline that closes a line comment is
part of it. -/
def withReturns : Piece → List Piece
  | blank c => (MiniC.withReturns [c]).map blank
  | lineComment body closed => [lineComment (if closed then body ++ ['\r'] else body) closed]
  | blockComment body => [blockComment (MiniC.withReturns body)]
  | openComment body => [openComment (MiniC.withReturns body)]
  | lexeme l => [lexeme l]

variable {cs rest : List Char} {p : Piece}

/-- A token has no newline in it. -/
theorem newline_notMem_chars {l : Lexeme} (h : read? cs = some (lexeme l, rest))
    (hnul : '\x00' ∉ cs) (hline : (lexeme l).keepsLine) : '\n' ∉ l.chars := by
  cases l with
  | quoted body ending =>
    obtain ⟨hbody, -⟩ : '\n' ∉ body ∧ ending ≠ .newline := by simpa [keepsLine] using hline
    cases ending <;> simp [Lexeme.chars, hbody]
  | plain k w =>
    obtain ⟨c, cs, rfl, hblank, -, hread⟩ := exists_cons_of_read? h
    have hquote : c ≠ '"' := by
      rintro rfl
      cases hread
    by_cases hc : c = '/'
    · subst hc
      cases hread
      decide
    · have hbreak := Lexeme.not_isBreak_chars_read hquote hc hblank hnul
      rw [hread] at hbreak
      exact fun hmem => hbreak _ hmem (by decide)

/-- A token is read again before the rest with carriage returns. -/
theorem read?_lexeme_withReturns {l : Lexeme} (h : read? cs = some (lexeme l, rest))
    (hnul : '\x00' ∉ cs) (hline : (lexeme l).keepsLine) (hopen : ¬ (lexeme l).isOpen) :
    read? (l.chars ++ MiniC.withReturns rest) = some (lexeme l, MiniC.withReturns rest) := by
  have hreads := reads_lexeme_of_read? h hnul
  have hnul' := nul_notMem_withReturns (nul_notMem_of_read? h hnul).2
  cases l with
  | plain k w =>
    exact read?_plain hnul' (front_withReturns rest) h hnul (head?_withReturns (by decide))
  | quoted body ending =>
    cases hreads with
    | string _ hbody => exact read?_string hbody _
    | newline => simp [keepsLine] at hline
    | endOfInput => exact absurd rfl hopen

end Piece

theorem withReturns_lineComment {body : List Char} (closed : Bool) (hbody : '\n' ∉ body) :
    withReturns (Piece.lineComment body closed).chars =
      (Piece.lineComment (if closed then body ++ ['\r'] else body) closed).chars := by
  show '/' :: '/' :: withReturns (body ++ if closed then ['\n'] else []) = _
  rw [withReturns_append, withReturns_of_notMem hbody]
  cases closed with
  | false => rfl
  | true =>
    simp only [Piece.chars, if_true, List.append_assoc]
    rfl

theorem withReturns_blockComment (body : List Char) :
    withReturns (Piece.blockComment body).chars =
      (Piece.blockComment (withReturns body)).chars :=
  congrArg ('/' :: '*' :: ·) (withReturns_append body ['*', '/'])

theorem withReturns_openComment (body : List Char) :
    withReturns (Piece.openComment body).chars = (Piece.openComment (withReturns body)).chars := rfl

theorem pieces_withReturns_append {cs rest : List Char} {p : Piece}
    (h : Piece.read? cs = some (p, rest)) (hnul : '\x00' ∉ cs) (hline : p.keepsLine) :
    pieces (withReturns p.chars ++ withReturns rest) =
      p.withReturns ++ pieces (withReturns rest) := by
  have hreads := Piece.reads_of_read? h
  cases p with
  | blank c =>
    cases hreads with
    | blank _ hc =>
      refine pieces_blanks (fun d hd => ?_) _
      rcases mem_withReturns hd with rfl | hmem
      · rfl
      · obtain rfl := List.mem_singleton.1 hmem
        simpa [isBlank, or_assoc] using hc
  | lineComment body closed =>
    cases hreads with
    | line _ hbody =>
      rw [withReturns_lineComment true hbody]
      exact pieces_of_read? (Piece.read?_lineComment (by simpa using hbody) _)
    | openLine hbody =>
      have hchars : (Piece.lineComment body false).chars = '/' :: '/' :: body :=
        congrArg ('/' :: '/' :: ·) (List.append_nil body)
      rw [withReturns_lineComment false hbody, if_neg Bool.false_ne_true, hchars,
        withReturns_nil, List.append_nil]
      exact pieces_of_read? (Piece.read?_openLine hbody)
  | blockComment body =>
    cases hreads with
    | block _ hbody =>
      rw [withReturns_blockComment]
      exact pieces_of_read? (Piece.read?_blockComment (mt close_of_withReturns hbody) _)
  | openComment body =>
    cases hreads with
    | openBlock hbody =>
      rw [withReturns_openComment, withReturns_nil, List.append_nil]
      exact pieces_of_read? (Piece.read?_openComment (mt close_of_withReturns hbody))
  | lexeme l =>
    have hchars : withReturns l.chars = l.chars :=
      withReturns_of_notMem (Piece.newline_notMem_chars h hnul hline)
    show pieces (withReturns l.chars ++ _) = _
    rw [hchars]
    by_cases hopen : (Piece.lexeme l).isOpen
    · -- Nothing comes after the string.
      obtain rfl := Piece.eq_nil_of_isOpen h hnul hopen
      have hcs := Piece.read?_append h
      rw [withReturns_nil]
      exact pieces_of_read? (hcs ▸ h)
    · exact pieces_of_read? (Piece.read?_lexeme_withReturns h hnul hline hopen)

/-- **The pieces of the text with carriage returns.** -/
theorem pieces_withReturns {cs : List Char} (hnul : '\x00' ∉ cs)
    (hline : ∀ p ∈ pieces cs, p.keepsLine) :
    pieces (withReturns cs) = (pieces cs).flatMap Piece.withReturns := by
  induction cs using induction_on_pieces with
  | nil =>
    rw [withReturns_nil, pieces_nil]
    rfl
  | piece cs p rest hr ih =>
    rw [pieces_of_read? hr, List.forall_mem_cons] at hline
    have hrest := (Piece.nul_notMem_of_read? hr hnul).2
    have hpiece := pieces_withReturns_append hr hnul hline.1
    rw [← withReturns_append, Piece.read?_append hr] at hpiece
    rw [hpiece, ih hrest hline.2, pieces_of_read? hr, List.flatMap_cons]

/-! ## Steps -/

/-- **The steps stay the same.** -/
theorem stepsOf_withReturns (q : Place) (ps : List Piece) :
    stepsOf q (ps.flatMap Piece.withReturns) = stepsOf q ps := by
  induction ps generalizing q with
  | nil => rfl
  | cons p ps ih =>
    rw [List.flatMap_cons]
    cases p with
    | blank c =>
      rw [Piece.withReturns, stepsOf_blanks, after_withReturns, ih]
      rfl
    | lineComment body closed =>
      have hplace :
          q.after (Piece.lineComment (if closed then body ++ ['\r'] else body) closed).chars =
            q.after (Piece.lineComment body closed).chars := by
        cases closed with
        | false => rfl
        | true =>
          simp only [Piece.chars, if_true, Place.after_cons, Place.after_append, Place.after_nil]
          rfl
      rw [Piece.withReturns, List.singleton_append, stepsOf_of_isSkipped rfl, hplace, ih]
      rfl
    | blockComment body =>
      have hplace : q.after (Piece.blockComment (withReturns body)).chars =
          q.after (Piece.blockComment body).chars := by
        rw [← withReturns_blockComment, after_withReturns]
      rw [Piece.withReturns, List.singleton_append, stepsOf_of_isSkipped rfl, hplace, ih]
      rfl
    | openComment body =>
      have hplace : q.after (Piece.openComment (withReturns body)).chars =
          q.after (Piece.openComment body).chars := by
        rw [← withReturns_openComment, after_withReturns]
      rw [Piece.withReturns, List.singleton_append, stepsOf, stepsOf, hplace]
    | lexeme l => exact congrArg (_ :: ·) (ih _)

/-! ## Sources -/

theorem readable_sourceWithReturns (source : String) :
    readable (sourceWithReturns source) = withReturns (readable source) := by
  rw [readable_eq_takeWhile, readable_eq_takeWhile, sourceWithReturns, String.toList_ofList]
  induction source.toList with
  | nil => rfl
  | cons c cs ih =>
    by_cases hc : c = '\n'
    · subst hc
      exact congrArg ('\r' :: '\n' :: ·) ih
    · rw [withReturns_cons hc, List.takeWhile_cons, List.takeWhile_cons]
      split
      · rw [withReturns_cons hc, ih]
      · rfl

/-- **Line endings make no difference.** If no newline lies inside a string or ends one, the source
with a carriage return before every newline has the same tokens at the same places, the same
warnings and the same verdict. -/
theorem tokenize_withReturns (source : String)
    (hline : ∀ p ∈ pieces (readable source), p.keepsLine) :
    tokenize (sourceWithReturns source) = tokenize source ∧
      ∀ {ρ : Type} [Reporter ρ] (reporter : ρ),
        (Recognizer.ofText (sourceWithReturns source) reporter).recognize.1 =
          (Recognizer.ofText source reporter).recognize.1 := by
  have htokenize : tokenize (sourceWithReturns source) = tokenize source := by
    rw [tokenize_eq, tokenize_eq, readable_sourceWithReturns,
      pieces_withReturns (nul_notMem_readable source) hline, stepsOf_withReturns]
  refine ⟨htokenize, ?_⟩
  intro ρ _ reporter
  exact recognize_congr reporter reporter (congrArg Prod.fst htokenize)

/-- A number loses its exponent at the end of a line, a star and a slash on two lines close no
comment, and the last comment is never closed. -/
theorem tokenize_withReturns_comments :
    let source := "int a = 1e\n+2 /* *\n/ // */\n\"s\" // t\n\n/* u\n"
    (∀ p ∈ pieces (readable source), p.keepsLine) ∧
      sourceWithReturns source =
        "int a = 1e\r\n+2 /* *\r\n/ // */\r\n\"s\" // t\r\n\r\n/* u\r\n" ∧
      tokenize (sourceWithReturns source) = tokenize source := by
  intro source
  have hline : ∀ p ∈ pieces (readable source), p.keepsLine := by
    rw [← List.all_eq_true]
    cbv
  exact ⟨hline, by cbv, (tokenize_withReturns source hline).1⟩

end MiniC
