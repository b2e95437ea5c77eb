import MiniC.Proofs.Head.Halting

/-!
# Exponents are taken whole or not at all

**Theorem (`exponent_all_or_nothing`).** At the marker of an exponent a head takes the longest
exponent there is, character by character. If there is none, as in `1e` and `1e+`, the head is what
it was in every part, however little of the text is left, and the next scans find a word that
begins with the marker, and the sign behind it. These are the scans of the scanner
(`Head.scan_eq`), and what is left is what the lexical rules leave (`Lexeme.exponent`).
-/

namespace MiniC

open Reader

/-! ## Exponents at the front -/

/-- The longest exponent at the front of `cs` is `e`. -/
structure IsLongestExponent (e cs : List Char) : Prop where
  isExponent : IsExponent e
  front : e <+: cs
  length_le : ∀ e', IsExponent e' → e' <+: cs → e'.length ≤ e.length

theorem IsExponent.ne_nil {e : List Char} (h : IsExponent e) : e ≠ [] := by
  obtain ⟨m, e', rfl, -⟩ := exists_marker h
  exact List.cons_ne_nil m e'

namespace Lexeme

variable {cs : List Char}

theorem length_le_exponent_of_prefix {e : List Char} (he : IsExponent e) (h : e <+: cs) :
    e.length ≤ (exponent cs).1.length := by
  obtain ⟨t, rfl⟩ := h
  exact length_le_exponent he

/-- Nothing is taken only if there is no exponent. -/
theorem not_front_of_exponent_eq_nil {e : List Char} (hnil : (exponent cs).1 = [])
    (he : IsExponent e) : ¬ e <+: cs := by
  intro h
  have hle := length_le_exponent_of_prefix he h
  rw [hnil] at hle
  exact he.ne_nil (List.eq_nil_of_length_eq_zero (Nat.le_zero.1 hle))

theorem isLongestExponent (hne : (exponent cs).1 ≠ []) : IsLongestExponent (exponent cs).1 cs where
  isExponent := (exponent_spec cs).resolve_left hne
  front := ⟨_, exponent_append cs⟩
  length_le _ := length_le_exponent_of_prefix

end Lexeme

/-! ## Reading on at the marker -/

/-- The token of a word: a reserved word or an identifier. -/
def Token.word (p : Place) (w : List Char) : Token where
  kind := (Kind.keyword? (String.ofList w)).getD .identifier
  lexeme := String.ofList w
  span := ⟨p, p.after w⟩

theorem Token.word_marker {m : Char} (hm : m = 'e' ∨ m = 'E') (p : Place) :
    word p [m] = ⟨.identifier, String.singleton m, ⟨p, p.step m⟩⟩ := by
  have hkind : Kind.keyword? (String.ofList [m]) = none := by rcases hm with rfl | rfl <;> decide
  rw [word, hkind]
  rfl

namespace Cursor

variable {m s : Char}

/-- Where a word starts, the next token is the longest one. -/
theorem next_word (hm : isWordStart m) (rest : List Char) (p : Place) :
    let w := (m :: rest).takeWhile isWordPart
    next ⟨m :: rest, p⟩ = (⟨.word p w, []⟩, ⟨(m :: rest).dropWhile isWordPart, p.after w⟩) := by
  intro w
  have hblank : ¬ isBlank m := not_isBlank_of_isWordPart (Lexeme.isWordPart_of_isWordStart hm)
  have hslash : m = '/' → rest.head? ≠ some '/' ∧ rest.head? ≠ some '*' := by
    rintro rfl
    exact absurd hm (by decide)
  have hread := Piece.read?_lexeme hblank hslash
  rw [Lexeme.read_of_isWordStart hm] at hread
  have htext : (Lexeme.word (m :: rest)).1.text = w := if_pos (Lexical.kind_word _).1
  rw [next_of_lexeme hread, Lexeme.token, htext]
  rfl

theorem next_sign (hs : s = '+' ∨ s = '-') (rest : List Char) (p : Place) :
    (next ⟨s :: rest, p⟩).1.token = ⟨if s = '+' then .plus else .minus, "", ⟨p, p.step s⟩⟩ := by
  have hread : Piece.read? (s :: rest) =
      some (.lexeme (.plain (if s = '+' then .plus else .minus) [s]), rest) := by
    rcases hs with rfl | rfl <;> rfl
  rw [next_of_lexeme hread]
  rcases hs with rfl | rfl <;> rfl

end Cursor

namespace Head

variable {h : Head} {s : Char} {rest : List Char}

theorem scan_endToken (h : Head) :
    h.endToken.scan.1 = h.cursor.next.1.token ∧ h.endToken.scan.2.cursor = h.cursor.next.2 :=
  have hscan := h.endToken.scan_eq
  ⟨hscan.1, congrArg Scanner.cursor hscan.2⟩

/-- What is scanned at the marker if it is no part of a number. -/
theorem scan_marker (hm : h.current = 'e' ∨ h.current = 'E') :
    h.endToken.scan.1 = .word h.place (h.unread.takeWhile isWordPart) ∧
      h.endToken.scan.2.cursor = ⟨h.unread.dropWhile isWordPart,
        h.place.after (h.unread.takeWhile isWordPart)⟩ := by
  have hstart : isWordStart h.current := by rcases hm with hm | hm <;> rw [hm] <;> decide
  have hu : h.unread = h.current :: h.take.unread := unread_eq_cons (ne_endMark_of_marker hm) true
  have hword := Cursor.next_word hstart h.take.unread h.place
  rw [← hu] at hword
  have hnext : h.cursor.next = _ := hword
  obtain ⟨htoken, hcursor⟩ := scan_endToken h
  rw [hnext] at htoken hcursor
  exact ⟨htoken, hcursor⟩

/-- A sign ends the word, and is the next token. -/
theorem scan_marker_sign (hm : h.current = 'e' ∨ h.current = 'E')
    (hu : h.unread = h.current :: s :: rest) (hs : s = '+' ∨ s = '-') :
    let p := h.place.step h.current
    h.endToken.scan.1 = ⟨.identifier, String.singleton h.current, ⟨h.place, p⟩⟩ ∧
      h.endToken.scan.2.scan.1 = ⟨if s = '+' then .plus else .minus, "", ⟨p, p.step s⟩⟩ := by
  intro p
  have hpart : isWordPart h.current := by rcases hm with hm | hm <;> rw [hm] <;> decide
  have hsign : ¬ isWordPart s := by rcases hs with rfl | rfl <;> decide
  obtain ⟨htoken, hcursor⟩ := scan_marker hm
  rw [hu, List.takeWhile_cons_of_pos hpart, List.takeWhile_cons_of_neg hsign] at htoken hcursor
  rw [List.dropWhile_cons_of_pos hpart, List.dropWhile_cons_of_neg hsign] at hcursor
  constructor
  · exact htoken.trans (Token.word_marker hm _)
  · rw [(scan_eq _).1]
    show h.endToken.scan.2.cursor.next.1.token = _
    rw [hcursor]
    exact Cursor.next_sign hs rest p

end Head

/-- **An exponent is taken whole or not at all.** At its marker, a head that scans a token either
takes the longest exponent there is, one character after another, or there is none and the head
stays as it is. What is then scanned is a word that begins with the marker; a sign behind the
marker ends that word, and is the token after it. -/
theorem exponent_all_or_nothing (h : Head) (hk : h.keeping)
    (hm : h.current = 'e' ∨ h.current = 'E') :
    h.exponent.unread = (Lexeme.exponent h.unread).2 ∧
    ((∃ e, IsLongestExponent e h.unread ∧ h.exponent = Head.take^[e.length] h ∧
      h.Moves e e [] h.exponent) ∨
    (∀ e, IsExponent e → ¬ e <+: h.unread) ∧ h.exponent = h ∧
      let behind : Head := h.exponent.endToken
      behind.scan.1 = .word h.place (h.unread.takeWhile isWordPart) ∧
      ∀ s rest, h.unread = h.current :: s :: rest → s = '+' ∨ s = '-' →
        let p := h.place.step h.current
        behind.scan.1 = ⟨.identifier, String.singleton h.current, ⟨h.place, p⟩⟩ ∧
          behind.scan.2.scan.1 = ⟨if s = '+' then .plus else .minus, "", ⟨p, p.step s⟩⟩) := by
  obtain ⟨hmoves, hiterate⟩ := Head.moves_exponent (h := h) hk
  refine ⟨hmoves.unread_eq (Lexeme.exponent_append h.unread).symm, ?_⟩
  by_cases hnil : (Lexeme.exponent h.unread).1 = []
  · have hsame : h.exponent = h := by
      rw [hnil] at hiterate
      exact hiterate
    refine .inr ⟨fun e => Lexeme.not_front_of_exponent_eq_nil hnil, hsame, ?_⟩
    rw [hsame]
    exact ⟨(Head.scan_marker hm).1, fun s rest => Head.scan_marker_sign hm⟩
  · exact .inl ⟨_, Lexeme.isLongestExponent hnil, hiterate, hmoves⟩

/-- The text ends behind the sign. -/
theorem exponent_all_or_nothing_sign :
    let h := Head.digits.run (Head.ofText "1e+").beginToken
    (h.keeping ∧ h.current = 'e' ∧ h.kept = ['1'] ∧ h.unread = ['e', '+']) ∧ h.exponent = h ∧
      h.exponent.endToken.scan.1 = ⟨.identifier, "e", ⟨⟨1, 2⟩, ⟨1, 3⟩⟩⟩ ∧
      h.exponent.endToken.scan.2.scan.1 = ⟨.plus, "", ⟨⟨1, 3⟩, ⟨1, 4⟩⟩⟩ := by
  intro h
  have hk : h.keeping := by unfold h; cbv
  have hm : h.current = 'e' := by unfold h; cbv
  have hkept : h.kept = ['1'] := by unfold h; cbv
  have hu : h.unread = ['e', '+'] := by unfold h; cbv
  have hp : h.place = ⟨1, 2⟩ := by unfold h; cbv
  refine ⟨⟨hk, hm, hkept, hu⟩, ?_⟩
  obtain ⟨-, hcases⟩ := exponent_all_or_nothing h hk (.inl hm)
  rcases hcases with ⟨e, he, -⟩ | ⟨-, hsame, -, hsign⟩
  · have hnil : (Lexeme.exponent h.unread).1 = [] := by rw [hu]; rfl
    exact absurd he.front (Lexeme.not_front_of_exponent_eq_nil hnil he.isExponent)
  · obtain ⟨hword, hplus⟩ := hsign '+' [] (by rw [hu, hm]) (.inl rfl)
    rw [hm, hp] at hword hplus
    exact ⟨hsame, hword, hplus⟩

end MiniC
