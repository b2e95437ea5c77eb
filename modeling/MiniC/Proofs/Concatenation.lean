import MiniC.Proofs.Lookahead
import MiniC.Proofs.Spans
import MiniC.Proofs.Verdict

/-!
# Texts one after another

Two texts are put together with a newline between them.

**Theorem (`tokenize_append_newline`).** The tokens and the warnings are those of the first text,
without its end of input, and then those of the second, moved down by the lines of the first. If
the first text is accepted, the verdict is the one on the second, with its place moved down.

Only a block comment that is never closed and a string that runs into the end of the text go on
over the newline (`Piece.runsOn`). A line comment at the end is closed by it, and otherwise it is a
blank (`pieces_append_newline`). After a newline the column is the first one again, as at the start
of a text, so the second text is read as on its own but for the line (`stepsOf_down`).
-/

namespace MiniC

/-! ## Moving down -/

/-- The place some lines further down. -/
def Place.down (n : Nat) (p : Place) : Place := { p with line := p.line + n }

def Span.down (n : Nat) (s : Span) : Span := ⟨s.start.down n, s.stop.down n⟩

/-- The warning with its span changed. -/
def Warning.respan (f : Span → Span) : Warning → Warning
  | illegalEscape c s => illegalEscape c (f s)
  | unterminatedString s => unterminatedString (f s)
  | unterminatedComment s => unterminatedComment (f s)

def Step.respan (f : Span → Span) (s : Step) : Step :=
  ⟨s.token.respan f, s.warnings.map (Warning.respan f)⟩

namespace Place

theorem step_down (n : Nat) (p : Place) (c : Char) : (p.down n).step c = (p.step c).down n := by
  unfold step
  split
  · rw [down, down, Nat.add_right_comm]
  · rfl

theorem after_down (n : Nat) (p : Place) (cs : List Char) :
    (p.down n).after cs = (p.after cs).down n := by
  induction cs generalizing p with
  | nil => rfl
  | cons c cs ih => rw [after_cons, after_cons, step_down, ih]

/-- After a newline everything is as at the start, but further down. -/
theorem origin_after_newline (cs : List Char) :
    origin.after (cs ++ ['\n']) = origin.down (1 + cs.count '\n') := by
  rw [after_append, after_cons, after_nil, step, if_pos rfl, line_after, down]
  congr 1
  omega

end Place

namespace Lexeme

theorem illegalEscapes_down (n : Nat) (p : Place) (body : List Char) :
    illegalEscapes (p.down n) body =
      (illegalEscapes p body).map (Warning.respan (Span.down n)) := by
  fun_induction illegalEscapes p body with
  | case1 => rfl
  | case2 p rest q ih => rw [illegalEscapes, if_pos rfl, Place.after_down, ih]
  | case3 p c rest q hc ih =>
    rw [illegalEscapes, if_neg hc, Place.after_down, ih]
    rfl
  | case4 p c rest h ih => rw [illegalEscapes.eq_3 _ _ _ h, Place.step_down, ih]

theorem warnings_down (n : Nat) (p : Place) (l : Lexeme) :
    l.warnings (p.down n) = (l.warnings p).map (Warning.respan (Span.down n)) := by
  cases l with
  | plain k cs => rfl
  | quoted body ending =>
    simp only [warnings, Place.step_down, Place.after_down, illegalEscapes_down, List.map_append]
    split <;> rfl

end Lexeme

/-- **Pieces further down have their steps further down.** -/
theorem stepsOf_down (n : Nat) (p : Place) (ps : List Piece) :
    stepsOf (p.down n) ps = (stepsOf p ps).map (Step.respan (Span.down n)) := by
  induction ps generalizing p with
  | nil => rfl
  | cons piece ps ih =>
    cases piece with
    | blank | lineComment | blockComment =>
      rw [stepsOf_of_isSkipped rfl, stepsOf_of_isSkipped rfl, Place.after_down, ih]
    | openComment body =>
      simp only [stepsOf, Place.after_down]
      rfl
    | lexeme l =>
      simp only [stepsOf, Place.after_down, ih, Lexeme.warnings_down]
      rfl

/-! ## Steps of pieces put together -/

section Append

variable {ps : List Piece}

theorem stepsOf_ne_nil (p : Place) (ps : List Piece) : stepsOf p ps ≠ [] := by
  induction ps generalizing p with
  | nil => exact List.cons_ne_nil _ _
  | cons piece ps ih =>
    cases piece with
    | blank | lineComment | blockComment => exact ih _
    | openComment | lexeme => exact List.cons_ne_nil _ _

/-- The end of input is the one step that is lost when more pieces follow. -/
theorem stepsOf_append (h : ∀ body, .openComment body ∉ ps) (p : Place) (qs : List Piece) :
    stepsOf p (ps ++ qs) =
      (stepsOf p ps).dropLast ++ stepsOf (p.after (ps.flatMap Piece.chars)) qs := by
  induction ps generalizing p with
  | nil => rfl
  | cons piece ps ih =>
    have hps : ∀ body, .openComment body ∉ ps := fun body hmem =>
      h body (List.mem_cons_of_mem _ hmem)
    rw [List.flatMap_cons, Place.after_append, List.cons_append]
    cases piece with
    | blank | lineComment | blockComment => exact ih hps _
    | openComment body => exact absurd List.mem_cons_self (h body)
    | lexeme l =>
      rw [stepsOf, stepsOf, ih hps, List.dropLast_cons_of_ne_nil (stepsOf_ne_nil _ _)]
      rfl

/-- Unless it is left in a comment, the end of input has no warnings. -/
theorem flatMap_warnings_dropLast (h : ∀ body, .openComment body ∉ ps) (p : Place) :
    (stepsOf p ps).dropLast.flatMap Step.warnings = (stepsOf p ps).flatMap Step.warnings := by
  have hlast := stepsOf_append h p []
  rw [List.append_nil] at hlast
  conv_rhs => rw [hlast, List.flatMap_append]
  exact (List.append_nil _).symm

theorem exists_unterminatedComment {body : List Char} (h : .openComment body ∈ ps) (p : Place) :
    ∃ span, .unterminatedComment span ∈ (stepsOf p ps).flatMap Step.warnings := by
  induction ps generalizing p with
  | nil => cases h
  | cons piece ps ih =>
    cases piece with
    | openComment body' => exact ⟨_, List.mem_append_left _ List.mem_cons_self⟩
    | blank | lineComment | blockComment =>
      exact ih ((List.mem_cons.1 h).resolve_left nofun) _
    | lexeme l =>
      obtain ⟨span, hspan⟩ := ih ((List.mem_cons.1 h).resolve_left nofun) (p.after l.chars)
      exact ⟨span, List.mem_append_right _ hspan⟩

end Append

/-! ## A newline between two texts -/

/-- The pieces that would go on over a newline at the end of the text. -/
def Piece.runsOn : Piece → Bool
  | openComment _ | lexeme (.quoted _ .endOfInput) => true
  | _ => false

theorem Piece.exists_eq_lineComment {p : Piece} (hopen : p.isOpen) (h : ¬ p.runsOn) :
    ∃ body, p = lineComment body false := by
  cases p with
  | blank | blockComment => cases hopen
  | lineComment body closed =>
    cases closed with
    | false => exact ⟨body, rfl⟩
    | true => cases hopen
  | openComment => exact absurd rfl h
  | lexeme l =>
    cases l with
    | plain => cases hopen
    | quoted body ending =>
      cases ending with
      | closed | newline => cases hopen
      | endOfInput => exact absurd rfl h

/-- The pieces with a newline after them. -/
def closeLine : List Piece → List Piece
  | [] => [.blank '\n']
  | [.lineComment body false] => [.lineComment body true]
  | p :: ps => p :: closeLine ps

theorem closeLine_cons {p : Piece} (h : ¬ p.isOpen) (ps : List Piece) :
    closeLine (p :: ps) = p :: closeLine ps := by
  rw [closeLine]
  rintro body rfl
  exact absurd rfl h

theorem akin_append_newline (rest t : List Char) : Akin rest (rest ++ '\n' :: t) := by
  have hnewline : Akin [] ('\n' :: t) := ⟨front_eq_nil (by decide) t, nofun, nofun⟩
  simpa using hnewline.append rest

/-- **A newline ends every piece.** -/
theorem pieces_append_newline {cs t : List Char} (hcs : '\x00' ∉ cs) (ht : '\x00' ∉ t)
    (h : ∀ p ∈ pieces cs, ¬ p.runsOn) :
    pieces (cs ++ '\n' :: t) = closeLine (pieces cs) ++ pieces t := by
  induction cs using induction_on_pieces with
  | nil =>
    rw [pieces_nil]
    exact pieces_of_read? (Piece.read?_blank (by decide) t)
  | piece cs p rest hr ih =>
    rw [pieces_of_read? hr, List.forall_mem_cons] at h
    have hrest := (Piece.nul_notMem_of_read? hr hcs).2
    rw [pieces_of_read? hr, ← Piece.read?_append hr, List.append_assoc]
    by_cases hopen : p.isOpen
    · -- Only a line comment may end with the text, and the newline closes it.
      obtain rfl := Piece.eq_nil_of_isOpen hr hcs hopen
      obtain ⟨body, rfl⟩ := Piece.exists_eq_lineComment hopen h.1
      cases Piece.reads_of_read? hr with
      | openLine hbody =>
        have hchars : (Piece.lineComment body false).chars ++ ([] ++ '\n' :: t) =
            '/' :: '/' :: (body ++ ['\n']) ++ t := by simp [Piece.chars]
        rw [pieces_nil, hchars]
        exact pieces_of_read? (Piece.read?_lineComment hbody t)
    · have hnul : '\x00' ∉ rest ++ '\n' :: t := by simp [hrest, ht]
      have hread := Piece.read?_akin hr hcs hnul hopen (akin_append_newline rest t)
      rw [pieces_append hread, ih hrest h.2, closeLine_cons hopen, List.cons_append]

/-- The newline changes no step before it, and leads to the next line. -/
theorem stepsOf_closeLine {ps : List Piece} (h : ∀ body, .openComment body ∉ ps) (p : Place)
    (qs : List Piece) : stepsOf p (closeLine ps ++ qs) =
      (stepsOf p ps).dropLast ++ stepsOf (p.after (ps.flatMap Piece.chars ++ ['\n'])) qs := by
  fun_induction closeLine ps generalizing p with
  | case1 => rfl
  | case2 body =>
    have hchars : [Piece.lineComment body false].flatMap Piece.chars ++ ['\n'] =
        (Piece.lineComment body true).chars := by simp [Piece.chars]
    rw [hchars]
    rfl
  | case3 piece ps hlast ih =>
    have hps : ∀ body, .openComment body ∉ ps := fun body hmem =>
      h body (List.mem_cons_of_mem _ hmem)
    rw [List.flatMap_cons, List.append_assoc, Place.after_append, List.cons_append]
    cases piece with
    | blank | lineComment | blockComment => exact ih hps _
    | openComment body => exact absurd List.mem_cons_self (h body)
    | lexeme l =>
      rw [stepsOf, stepsOf, ih hps, List.dropLast_cons_of_ne_nil (stepsOf_ne_nil _ _)]
      rfl

/-! ## Sources -/

/-- The token is the error of a string that runs into the end of the text: no other error begins
with a quote. -/
def Token.IsOpenString (text : List Char) (t : Token) : Prop :=
  t.kind = .error ∧ ∃ i, text[i]? = some '"' ∧ t.span.start = placeAt text i

/-- A string that runs into the end of the text can be told from its token. -/
theorem exists_isOpenString {cs body : List Char} (hcomment : ∀ body, .openComment body ∉ pieces cs)
    (h : .lexeme (.quoted body .endOfInput) ∈ pieces cs) :
    ∃ x ∈ (stepsOf .origin (pieces cs)).map Step.token, x.IsOpenString cs := by
  obtain ⟨ps, qs, hpieces⟩ := List.append_of_mem h
  have hps : ∀ body, .openComment body ∉ ps := by
    intro body' hmem
    exact hcomment body' (hpieces ▸ List.mem_append_left _ hmem)
  have hcs : ps.flatMap Piece.chars ++ ('"' :: body ++ qs.flatMap Piece.chars) = cs := by
    rw [← flatMap_chars_pieces cs, hpieces, List.flatMap_append]
    rfl
  rw [hpieces, stepsOf_append hps, stepsOf, List.map_append]
  refine ⟨_, List.mem_append_right _ List.mem_cons_self, rfl, (ps.flatMap Piece.chars).length, ?_⟩
  rw [placeAt_eq, ← hcs, List.take_left, List.getElem?_append_right le_rfl, Nat.sub_self]
  exact ⟨rfl, rfl⟩

/-- The tokens and the warnings of a text tell whether a piece would go on over its end. -/
theorem not_runsOn_of_tokenize {s : String} (hnul : '\x00' ∉ s.toList)
    (hcomment : ∀ span, .unterminatedComment span ∉ (tokenize s).2)
    (hstring : ∀ x ∈ (tokenize s).1, ¬ x.IsOpenString s.toList) :
    ∀ p ∈ pieces s.toList, ¬ p.runsOn := by
  rw [tokenize_eq, readable_eq_toList hnul] at hcomment hstring
  have hopen : ∀ body, .openComment body ∉ pieces s.toList := by
    intro body hmem
    obtain ⟨span, hspan⟩ := exists_unterminatedComment hmem .origin
    exact hcomment span hspan
  intro p hp hruns
  unfold Piece.runsOn at hruns
  split at hruns
  · exact hopen _ hp
  · obtain ⟨x, hx, hx'⟩ := exists_isOpenString hopen hp
    exact hstring x hx hx'
  · cases hruns

/-- The steps of two texts with a newline between them. -/
theorem stepsOf_append_newline {cs t : List Char} (hcs : '\x00' ∉ cs) (ht : '\x00' ∉ t)
    (h : ∀ p ∈ pieces cs, ¬ p.runsOn) :
    stepsOf .origin (pieces (cs ++ '\n' :: t)) = (stepsOf .origin (pieces cs)).dropLast ++
      (stepsOf .origin (pieces t)).map (Step.respan (Span.down (1 + cs.count '\n'))) := by
  have hopen : ∀ body, .openComment body ∉ pieces cs := fun body hmem => h _ hmem rfl
  rw [pieces_append_newline hcs ht h, stepsOf_closeLine hopen, flatMap_chars_pieces,
    Place.origin_after_newline, stepsOf_down]

/-- **A newline keeps two texts apart.** If no block comment and no string of `s` runs into its end,
the tokens and the warnings of `s`, a newline and `t` are those of `s` and then those of `t`, moved
down. If `s` is accepted, the verdict is the one on `t`, its diagnostic moved down. -/
theorem tokenize_append_newline (s t : String) (hnul : '\x00' ∉ s.toList)
    (hcomment : ∀ span, .unterminatedComment span ∉ (tokenize s).2)
    (hstring : ∀ x ∈ (tokenize s).1, ¬ x.IsOpenString s.toList) :
    let down := Span.down (1 + s.toList.count '\n')
    tokenize (s ++ "\n" ++ t) =
        ((tokenize s).1.dropLast ++ (tokenize t).1.map (Token.respan down),
          (tokenize s).2 ++ (tokenize t).2.map (Warning.respan down)) ∧
      ∀ {ρ : Type} [Reporter ρ] (reporter : ρ),
        (Recognizer.ofText s reporter).recognize.1 = .accepted →
        (Recognizer.ofText (s ++ "\n" ++ t) reporter).recognize.1 =
          (Recognizer.ofText t reporter).recognize.1.respan down := by
  intro down
  have hruns := not_runsOn_of_tokenize hnul hcomment hstring
  have hopen : ∀ body, .openComment body ∉ pieces s.toList := fun body hmem => hruns _ hmem rfl
  have hreadable : readable (s ++ "\n" ++ t) = s.toList ++ '\n' :: readable t := by
    rw [String.append_assoc, readable_append hnul, readable_append (by decide)]
    rfl
  have hsteps := stepsOf_append_newline hnul (nul_notMem_readable t) hruns
  have htokenize : tokenize (s ++ "\n" ++ t) =
      ((tokenize s).1.dropLast ++ (tokenize t).1.map (Token.respan down),
        (tokenize s).2 ++ (tokenize t).2.map (Warning.respan down)) := by
    rw [tokenize_eq, tokenize_eq s, tokenize_eq t, hreadable, hsteps, readable_eq_toList hnul,
      List.map_append, List.map_dropLast, List.flatMap_append, flatMap_warnings_dropLast hopen,
      List.map_map, List.map_map, List.flatMap_map, List.map_flatMap]
    rfl
  refine ⟨htokenize, ?_⟩
  intro ρ _ reporter haccepted
  exact recognize_after_accepted down reporter reporter reporter haccepted
    (congrArg Prod.fst htokenize)

/-- A line comment that ends the first text, with an exponent that is not complete. -/
theorem rejected_after_lineComment :
    let s := "float x;\n// 1e+"
    let t := "int b = ;"
    let d : Diagnostic := ⟨"initializer expected here, found \";\"", ⟨⟨1, 9⟩, ⟨1, 10⟩⟩⟩
    (Recognizer.ofText t ({} : Collected)).recognize.1 = .rejected d ∧
      (Recognizer.ofText (s ++ "\n" ++ t) ({} : Collected)).recognize.1 =
        .rejected (d.respan (Span.down 2)) := by
  intro s t d
  have ht : (Recognizer.ofText t ({} : Collected)).recognize.1 = .rejected d := by cbv
  have hs : (Recognizer.ofText s ({} : Collected)).recognize.1 = .accepted := by cbv
  have hcomment : ∀ span, .unterminatedComment span ∉ (tokenize s).2 := by
    have hnone : (tokenize s).2 = [] := by cbv
    simp [hnone]
  have hstring : ∀ x ∈ (tokenize s).1, ¬ x.IsOpenString s.toList := by
    have hkinds : (tokenize s).1.map Token.kind = [.float, .identifier, .semicolon, .eof] := by cbv
    intro x hx hopen
    have hkind : x.kind ∈ (tokenize s).1.map Token.kind := List.mem_map_of_mem hx
    rw [hkinds, hopen.1] at hkind
    exact absurd hkind (by decide)
  have hlines : s.toList.count '\n' = 1 := by decide
  refine ⟨ht, ?_⟩
  rw [(tokenize_append_newline s t (by decide) hcomment hstring).2 ({} : Collected) hs, ht, hlines]
  rfl

end MiniC
