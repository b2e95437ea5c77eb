import MiniC.Proofs.Lookahead
import MiniC.Proofs.Verdict

/-!
# Comments act as blanks

**Blanking.** Every character of a comment is replaced by a space, and only its newlines stay
(`blankComments`). A comment that is never closed is left as it is.

**Theorem (`tokenize_blankComments`).** The blanked source has the same tokens, at the same places,
the same warnings and the same verdict.

A piece before a comment is read again before the blanks, because it cannot tell them apart: both
begin with a break (`akin_blankComments`). So blanking a text blanks its pieces
(`pieces_blankComments`). The blanks are skipped as the comment was, and they lead to the same
place.
-/

namespace MiniC

/-! ## Blanks in place of comments -/

/-- What is left of a character: the end of its line, or its column. -/
def blankOf (c : Char) : Char := if c = '\n' then '\n' else ' '

namespace Piece

/-- The comments that end: at the end of a line or of the text, or where they are closed. -/
def isComment : Piece → Bool
  | lineComment _ _ | blockComment _ => true
  | blank _ | openComment _ | lexeme _ => false

/-- The characters of a piece, those of a comment blanked. -/
def blankedChars (p : Piece) : List Char := if p.isComment then p.chars.map blankOf else p.chars

/-- The piece itself, or blanks in place of a comment. -/
def blanked (p : Piece) : List Piece :=
  if p.isComment then (p.chars.map blankOf).map .blank else [p]

end Piece

/-- The text with its comments blanked. -/
def blankComments (cs : List Char) : List Char := (pieces cs).flatMap Piece.blankedChars

/-- The source with its comments blanked. What comes after the first end marker stays. -/
def blankSource (source : String) : String :=
  String.ofList (blankComments (readable source) ++ source.toList.dropWhile (· != '\x00'))

example : blankSource "a/*\n*/ = \"//\" // b\x00// c" = "a  \n   = \"//\"     \x00// c" := by cbv

section Blank

theorem isBlank_blankOf (c : Char) : isBlank (blankOf c) := by
  unfold blankOf
  split <;> rfl

theorem step_blankOf (p : Place) (c : Char) : p.step (blankOf c) = p.step c := by
  by_cases hc : c = '\n' <;> simp [Place.step, blankOf, hc]

/-- Blanking keeps the place. -/
theorem after_map_blankOf (p : Place) (cs : List Char) : p.after (cs.map blankOf) = p.after cs := by
  induction cs generalizing p with
  | nil => rfl
  | cons c cs ih => rw [List.map_cons, Place.after_cons, Place.after_cons, step_blankOf, ih]

theorem forall_isBlank_map_blankOf (cs : List Char) : ∀ c ∈ cs.map blankOf, isBlank c := by
  intro c hc
  obtain ⟨d, -, rfl⟩ := List.mem_map.1 hc
  exact isBlank_blankOf d

end Blank

variable {cs rest : List Char} {p : Piece}

theorem blankComments_nil : blankComments [] = [] := by rw [blankComments, pieces_nil]; rfl

theorem blankComments_of_read? (h : Piece.read? cs = some (p, rest)) :
    blankComments cs = p.blankedChars ++ blankComments rest := by
  rw [blankComments, pieces_of_read? h, List.flatMap_cons]
  rfl

theorem nul_notMem_blankedChars (h : '\x00' ∉ p.chars) : '\x00' ∉ p.blankedChars := by
  unfold Piece.blankedChars
  split
  · intro hmem
    exact absurd (forall_isBlank_map_blankOf _ _ hmem) (by decide)
  · exact h

theorem nul_notMem_blankComments (h : '\x00' ∉ cs) : '\x00' ∉ blankComments cs := by
  induction cs using induction_on_pieces with
  | nil =>
    rw [blankComments_nil]
    exact h
  | piece cs p rest hr ih =>
    have hnul := Piece.nul_notMem_of_read? hr h
    rw [blankComments_of_read? hr, List.mem_append, not_or]
    exact ⟨nul_notMem_blankedChars hnul.1, ih hnul.2⟩

/-! ## A comment and its blanks look the same -/

theorem Piece.exists_chars_eq_slash (h : p.isComment) : ∃ w, p.chars = '/' :: w := by
  cases p with
  | lineComment | blockComment => exact ⟨_, rfl⟩
  | blank | openComment | lexeme => cases h

/-- **What stands before a comment cannot tell it from its blanks.** -/
theorem akin_blankComments (cs : List Char) : Akin cs (blankComments cs) := by
  induction cs using induction_on_pieces with
  | nil =>
    rw [blankComments_nil]
    exact ⟨rfl, id, id⟩
  | piece cs p rest hr ih =>
    rw [blankComments_of_read? hr, ← Piece.read?_append hr, Piece.blankedChars]
    split
    · next hp =>
      -- The slash and the space are both breaks.
      obtain ⟨w, hw⟩ := Piece.exists_chars_eq_slash hp
      rw [hw, List.map_cons, List.cons_append, List.cons_append]
      refine ⟨?_, by simp, by simp [blankOf]⟩
      rw [front_eq_nil (by decide), front_eq_nil (by decide)]
    · exact ih.append p.chars

/-! ## Pieces and steps of the blanked text -/

/-- **Blanking a text blanks its pieces.** -/
theorem pieces_blankComments (h : '\x00' ∉ cs) :
    pieces (blankComments cs) = (pieces cs).flatMap Piece.blanked := by
  induction cs using induction_on_pieces with
  | nil =>
    rw [blankComments_nil, pieces_nil]
    rfl
  | piece cs p rest hr ih =>
    have hnul := (Piece.nul_notMem_of_read? hr h).2
    rw [pieces_of_read? hr, List.flatMap_cons, ← ih hnul, blankComments_of_read? hr,
      Piece.blankedChars, Piece.blanked]
    split
    · exact pieces_blanks (forall_isBlank_map_blankOf _) _
    · apply pieces_append
      by_cases hopen : p.isOpen
      · -- Nothing comes after the piece, so the text is as it was.
        obtain rfl := Piece.eq_nil_of_isOpen hr h hopen
        rw [blankComments_nil, Piece.read?_append hr, hr]
      · exact Piece.read?_akin hr h (nul_notMem_blankComments hnul) hopen (akin_blankComments rest)

/-- Blanks in place of comments make no difference to the steps. -/
theorem stepsOf_blanked (q : Place) (ps : List Piece) :
    stepsOf q (ps.flatMap Piece.blanked) = stepsOf q ps := by
  induction ps generalizing q with
  | nil => rfl
  | cons p ps ih =>
    rw [List.flatMap_cons]
    cases p with
    | lineComment | blockComment =>
      rw [Piece.blanked, if_pos (by rfl), stepsOf_blanks, after_map_blankOf, ih]
      rfl
    | blank c => exact ih _
    | openComment body => rfl
    | lexeme l => exact congrArg (_ :: ·) (ih _)

theorem not_isComment_of_mem_blanked {q : Piece} (h : q ∈ p.blanked) : ¬ q.isComment := by
  unfold Piece.blanked at h
  split at h
  · obtain ⟨c, -, rfl⟩ := List.mem_map.1 h
    exact Bool.false_ne_true
  · next hp =>
    obtain rfl := List.mem_singleton.1 h
    exact hp

/-! ## Sources -/

/-- The end marker is still the first one. -/
theorem readable_blankSource (source : String) :
    readable (blankSource source) = blankComments (readable source) := by
  have hnul : '\x00' ∉ (String.ofList (blankComments (readable source))).toList := by
    rw [String.toList_ofList]
    exact nul_notMem_blankComments (nul_notMem_readable source)
  have hunread : (source.toList.dropWhile (· != '\x00')).takeWhile (· != '\x00') = [] := by
    cases hdrop : source.toList.dropWhile (· != '\x00') with
    | nil => rfl
    | cons c cs =>
      have hhead := List.head?_dropWhile_not (· != '\x00') source.toList
      rw [hdrop] at hhead
      exact List.takeWhile_cons_of_neg (by simpa using hhead)
  have hempty : readable (String.ofList (source.toList.dropWhile (· != '\x00'))) = [] := by
    rw [readable_eq_takeWhile, String.toList_ofList, hunread]
  rw [blankSource, String.ofList_append, readable_append hnul, hempty, String.toList_ofList,
    List.append_nil]

/-- **Comments act as blanks.** The source with its comments blanked has no comment left that ends,
and yet the same tokens at the same places, the same warnings and the same verdict. -/
theorem tokenize_blankComments (source : String) :
    (∀ p ∈ pieces (readable (blankSource source)), ¬ p.isComment) ∧
      tokenize (blankSource source) = tokenize source ∧
      ∀ {ρ : Type} [Reporter ρ] (reporter : ρ),
        (Recognizer.ofText (blankSource source) reporter).recognize.1 =
          (Recognizer.ofText source reporter).recognize.1 := by
  have hpieces : pieces (readable (blankSource source)) =
      (pieces (readable source)).flatMap Piece.blanked := by
    rw [readable_blankSource, pieces_blankComments (nul_notMem_readable source)]
  have htokenize : tokenize (blankSource source) = tokenize source := by
    rw [tokenize_eq, tokenize_eq, hpieces, stepsOf_blanked]
  refine ⟨?_, htokenize, ?_⟩
  · intro p hp
    rw [hpieces] at hp
    obtain ⟨q, -, hq⟩ := List.mem_flatMap.1 hp
    exact not_isComment_of_mem_blanked hq
  · intro ρ _ reporter
    exact recognize_congr reporter reporter (congrArg Prod.fst htokenize)

end MiniC
