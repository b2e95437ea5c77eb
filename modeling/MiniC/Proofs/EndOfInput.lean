import MiniC.Proofs.Pieces
import MiniC.Recognizer.Basic

/-!
# The end of input

A text ends where it has no more characters or where its first end marker is.

**At the end** the next step of a cursor leaves it where it is (`Cursor.AtEnd`), and a step that
finds the end of input comes to such a cursor (`Cursor.atEnd_next`). So no call moves a scanner that
is there (`Scanner.cursor_answers`).

**An end marker.** It is enough to look at what a reader hands out before the marker
(`Reader.Yields`), because a scanner is made of nothing else (`Scanner.ofText_append_endMark`).
-/

namespace MiniC

/-! ## What a reader hands out -/

namespace Reader

/-- The characters that are read one after another before the first end marker. -/
inductive Yields : Reader → List Char → Prop
  | done {r : Reader} : r.next.1 = endMark → Yields r []
  | char {r : Reader} {cs : List Char} :
      r.next.1 ≠ endMark → Yields r.next.2 cs → Yields r (r.next.1 :: cs)

variable {r : Reader} {c : Char} {cs : List Char}

theorem next_of_drop_nil (h : r.text.toList.drop r.mark = []) : r.next = (endMark, r) := by
  have hget : r.text[r.mark]? = none := by
    rw [← Array.getElem?_toList, ← List.head?_drop, h]
    rfl
  rw [next, hget]

theorem next_of_drop_cons (h : r.text.toList.drop r.mark = c :: cs) :
    r.next = (c, { r with mark := r.mark + 1 }) := by
  have hget : r.text[r.mark]? = some c := by
    rw [← Array.getElem?_toList, ← List.head?_drop, h]
    rfl
  rw [next, hget]

/-- What is handed out is what remains. -/
theorem Yields.remaining_eq (h : r.Yields cs) : r.remaining = cs := by
  induction h with
  | @done r hmark =>
    cases hdrop : r.text.toList.drop r.mark with
    | nil => rw [remaining, hdrop, List.takeWhile_nil]
    | cons c cs =>
      rw [next_of_drop_cons hdrop] at hmark
      rw [remaining, hdrop, List.takeWhile_cons_of_neg (by simpa using hmark)]
  | @char r cs hmark _ ih =>
    cases hdrop : r.text.toList.drop r.mark with
    | nil =>
      rw [next_of_drop_nil hdrop] at hmark
      exact absurd rfl hmark
    | cons c cs' =>
      rw [next_of_drop_cons hdrop] at hmark ih ⊢
      have htail : r.text.toList.drop (r.mark + 1) = cs' := by
        rw [← List.drop_drop, hdrop, List.drop_one, List.tail_cons]
      rw [remaining, htail] at ih
      rw [remaining, hdrop, List.takeWhile_cons_of_pos (by simpa using hmark), ih]

/-- Text without an end marker is handed out to its end if that is the end, or a marker follows. -/
theorem yields_of_drop {rest : List Char} (h : r.text.toList.drop r.mark = cs ++ rest)
    (hcs : endMark ∉ cs) (hrest : ∀ c ∈ rest.head?, c = endMark) : r.Yields cs := by
  induction cs generalizing r with
  | nil =>
    apply Yields.done
    cases rest with
    | nil => rw [next_of_drop_nil h]
    | cons c rest =>
      rw [next_of_drop_cons h]
      exact hrest c rfl
  | cons c cs ih =>
    rw [List.mem_cons, not_or] at hcs
    have hnext := next_of_drop_cons h
    have htail : r.text.toList.drop (r.mark + 1) = cs ++ rest := by
      rw [← List.drop_drop, h, List.cons_append, List.drop_one, List.tail_cons]
    have hyields : r.next.2.Yields cs := by
      rw [hnext]
      exact ih htail hcs.2
    have hchar : r.next.1 = c := by rw [hnext]
    rw [← hchar] at hcs ⊢
    exact .char (Ne.symm hcs.1) hyields

end Reader

/-- A scanner sees nothing of a text but what a reader hands out. -/
theorem Scanner.ofText_eq {s : String} {cs : List Char} (h : (Reader.ofText s).Yields cs) :
    ofText s = ⟨⟨cs, .origin⟩, []⟩ := by
  rw [ofText, Cursor.ofText, Cursor.ofReader, h.remaining_eq]

/-- An end marker ends the text. -/
theorem Scanner.ofText_append_endMark {s : String} (h : '\x00' ∉ s.toList) (u : String) :
    ofText (s ++ "\x00" ++ u) = ofText s := by
  have hs : (Reader.ofText s).Yields s.toList := by
    have hdrop : (Reader.ofText s).text.toList.drop 0 = s.toList ++ [] := by simp [Reader.ofText]
    exact Reader.yields_of_drop hdrop h nofun
  have hmarked : (Reader.ofText (s ++ "\x00" ++ u)).Yields s.toList := by
    have hdrop : (Reader.ofText (s ++ "\x00" ++ u)).text.toList.drop 0 =
        s.toList ++ '\x00' :: u.toList := by simp [Reader.ofText]
    apply Reader.yields_of_drop hdrop h
    rintro c ⟨⟩
    rfl
  rw [ofText_eq hmarked, ofText_eq hs]

/-! ## The end of input is final -/

namespace Lexeme

theorem kind_number_ne_eof (cs : List Char) : (number cs).1.kind ≠ .eof := by
  unfold number
  split
  · split <;> exact nofun
  · split <;> exact nofun
  · exact nofun

theorem kind_word_ne_eof (cs : List Char) : (word cs).1.kind ≠ .eof := by
  intro heof
  have hkeeps := (Lexical.kind_word (String.ofList (cs.takeWhile isWordPart))).1
  rw [show (Kind.keyword? _).getD .identifier = Kind.eof from heof] at hkeeps
  cases hkeeps

theorem kind_fraction_ne_eof (cs : List Char) : (fraction cs).1.kind ≠ .eof := by
  unfold fraction
  split <;> exact nofun

theorem kind_string_ne_eof (cs : List Char) : (string cs).1.kind ≠ .eof := by
  suffices h : ∀ body ending, (quoted body ending).kind ≠ .eof from h _ _
  intro body ending
  cases ending <;> exact nofun

theorem kind_oneOrTwo_ne_eof (c d : Char) {one two : Kind} (hone : one ≠ .eof) (htwo : two ≠ .eof)
    (cs : List Char) : (oneOrTwo c d one two cs).1.kind ≠ .eof := by
  unfold oneOrTwo
  split
  · split
    · exact htwo
    · exact hone
  · exact hone

/-- No lexeme is the end of input, whatever the characters are. -/
theorem kind_read_ne_eof (c : Char) (cs : List Char) : (read c cs).1.kind ≠ .eof := by
  unfold read
  split
  · exact kind_number_ne_eof _
  · split
    · exact kind_word_ne_eof _
    · split <;> first
        | exact kind_fraction_ne_eof _
        | exact kind_string_ne_eof _
        | exact kind_oneOrTwo_ne_eof _ _ (by decide) (by decide) _
        | exact nofun

end Lexeme

namespace Cursor

/-- The next step is the end of input, without a warning, and leaves the cursor as it is. -/
def AtEnd (t : Token) (c : Cursor) : Prop := c.next = (⟨t, []⟩, c)

theorem atEnd_nil (p : Place) : AtEnd (.endOfInput p) ⟨[], p⟩ := next_nil p

/-- **The end of input is followed by itself.** -/
theorem atEnd_next {c : Cursor} (h : c.next.1.token.kind = .eof) :
    c.next.2.AtEnd c.next.1.token := by
  fun_induction next c with
  | case1 c hr =>
    obtain ⟨rest, p⟩ := c
    obtain rfl : rest = [] := Piece.eq_nil_of_read? hr
    exact atEnd_nil p
  | case2 c rest l hr =>
    obtain ⟨d, cs, -, -, -, hread⟩ := Piece.exists_cons_of_read? hr
    have hkind := Lexeme.kind_read_ne_eof d cs
    rw [hread] at hkind
    exact absurd h hkind
  | case3 c rest body hr =>
    cases Piece.reads_of_read? hr with
    | openBlock => exact atEnd_nil _
  | case4 c rest b hr _ _ ih => exact ih h
  | case5 c rest b n hr _ _ ih => exact ih h
  | case6 c rest b hr _ _ ih => exact ih h

end Cursor

namespace Scanner

/-- What can be asked of a scanner. -/
inductive Call where
  | scan | takeWarnings
deriving DecidableEq

inductive Answer where
  | token (t : Token)
  | warnings (ws : List Warning)
deriving DecidableEq

def answer (s : Scanner) : Call → Answer × Scanner
  | .scan => (.token s.scan.1, s.scan.2)
  | .takeWarnings => (.warnings s.takeWarnings.1, s.takeWarnings.2)

/-- The answers to calls one after another, and the scanner after them. -/
def answers (s : Scanner) : List Call → List Answer × Scanner
  | [] => ([], s)
  | call :: calls =>
    let (a, s') := s.answer call
    let (as, s'') := s'.answers calls
    (a :: as, s'')

variable {s : Scanner} {t : Token}

theorem scan_of_atEnd (h : s.cursor.AtEnd t) : s.scan = (t, s) := by
  rw [scan, h]
  simp

/-- No call moves a scanner that is at the end. -/
theorem cursor_answer (h : s.cursor.AtEnd t) (call : Call) :
    (s.answer call).2.cursor = s.cursor := by
  cases call with
  | scan => rw [answer, scan_of_atEnd h]
  | takeWarnings => rfl

theorem cursor_answers (h : s.cursor.AtEnd t) (calls : List Call) :
    (s.answers calls).2.cursor = s.cursor := by
  induction calls generalizing s with
  | nil => rfl
  | cons call calls ih =>
    have hcursor := cursor_answer h call
    have hend : (s.answer call).2.cursor.AtEnd t := by rwa [hcursor]
    exact (ih hend).trans hcursor

end Scanner

end MiniC
