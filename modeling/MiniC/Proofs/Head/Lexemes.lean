import MiniC.Proofs.Head.Moves

/-!
# Lexemes read by a head

A head that stands at the first character of a lexeme takes its characters, keeps its text, and
raises its warnings (`Head.reads_lexeme`).
-/

namespace MiniC

/-- The characters of a lexeme that a head keeps: a string without its quotes. -/
def Lexeme.kept : Lexeme → List Char
  | plain _ cs => cs
  | quoted body _ => body

theorem Lexeme.number_of_point {cs rest : List Char} (h : cs.dropWhile Char.isDigit = '.' :: rest)
    (hr : rest.takeWhile Char.isDigit = []) :
    number cs = (plain .floatLiteral (cs.takeWhile Char.isDigit ++ ['.']), rest) := by
  unfold number
  rw [h]
  simp only [hr]

theorem Lexeme.number_of_other {cs : List Char}
    (hpoint : (cs.dropWhile Char.isDigit).headD Reader.endMark ≠ '.')
    (hmark : ¬ ((cs.dropWhile Char.isDigit).headD Reader.endMark = 'e' ∨
      (cs.dropWhile Char.isDigit).headD Reader.endMark = 'E')) :
    (number cs).1 = plain .intLiteral (cs.takeWhile Char.isDigit) := by
  unfold number
  split
  · next hd => exact absurd (by rw [hd]; rfl) hpoint
  · next c rest _ hd =>
    rw [hd] at hmark
    rw [if_neg (by simpa using hmark)]
  · rfl

namespace Head

open Reader Kind

/-- A head that has just begun a token. -/
structure Ready (h : Head) : Prop where
  keeping : h.keeping
  kept : h.kept = []
  start : h.start = h.place

/-- A procedure has read the lexeme `l` from `h` on. -/
structure Reads (h : Head) (l : Lexeme) (r : Kind × Head) : Prop where
  kind : r.1 = l.kind
  moves : Moves h l.chars l.kept (l.warnings h.place) r.2

variable {h h' : Head} {c : Char} {cs : List Char}

/-! ### Numbers -/

/-- Digits and the exponent after them. -/
theorem moves_digits_exponent (hk : h.keeping) :
    let power := (Lexeme.exponent (h.unread.dropWhile Char.isDigit)).1
    Moves h (h.unread.takeWhile Char.isDigit ++ power) (h.unread.takeWhile Char.isDigit ++ power)
      [] (digits.run h).exponent := by
  have mdigits := moves_digits hk
  have mpower := (moves_exponent (mdigits.keeping.trans hk)).1
  rw [unread_digits hk] at mpower
  exact mdigits.trans mpower

/-- A point, and the digits and the exponent behind it. -/
theorem moves_point (hk : h.keeping) (hu : h.unread = '.' :: cs) :
    let behind := cs.takeWhile Char.isDigit ++ (Lexeme.exponent (cs.dropWhile Char.isDigit)).1
    (h.take.current.isDigit ↔ cs.takeWhile Char.isDigit ≠ []) ∧
      Moves h ['.'] ['.'] [] h.take ∧
      Moves h ('.' :: behind) ('.' :: behind) [] (digits.run h.take).exponent := by
  obtain ⟨mpoint, htail⟩ := moves_take_cons hu hk
  have hdigit := h.take.isDigit_current
  have mdigits := moves_digits_exponent (mpoint.keeping.trans hk)
  rw [htail] at hdigit mdigits
  exact ⟨hdigit, mpoint, mpoint.trans mdigits⟩

theorem reads_number (hk : h.keeping) : Reads h (Lexeme.number h.unread).1 h.number := by
  have mdigits := moves_digits hk
  have hk₁ := mdigits.keeping.trans hk
  have hrest := unread_digits hk
  have hcurrent := (digits.run h).current_eq
  rw [hrest] at hcurrent
  unfold number
  dsimp only
  split
  · next hpoint =>
    have hd := unread_eq_cons (h := digits.run h) (by rw [hpoint]; decide) true
    rw [hpoint] at hd
    obtain ⟨hdigit, mpoint, mfraction⟩ := moves_point hk₁ hd
    by_cases hnil : (digits.run h).take.unread.takeWhile Char.isDigit = []
    · rw [Lexeme.number_of_point (hrest.symm.trans hd) hnil,
        if_neg fun h => hdigit.1 h hnil]
      exact ⟨rfl, mdigits.trans mpoint⟩
    · rw [Lexeme.number_of_fraction (hrest.symm.trans hd) hnil, if_pos (hdigit.2 hnil)]
      exact ⟨rfl, mdigits.trans mfraction⟩
  · next hpoint =>
    split
    · next hmark =>
      have hm : (digits.run h).current = 'e' ∨ (digits.run h).current = 'E' := by
        simpa using hmark
      have hd := hrest.symm.trans (unread_eq_cons (ne_endMark_of_marker hm) true)
      have mpower := (moves_exponent hk₁).1
      rw [hrest] at mpower
      rw [Lexeme.number_of_marker hm hd, ← hd]
      exact ⟨rfl, mdigits.trans mpower⟩
    · next hmark =>
      rw [hcurrent] at hpoint hmark
      rw [Lexeme.number_of_other hpoint (by simpa using hmark)]
      exact ⟨rfl, mdigits⟩

theorem reads_fraction (hk : h.keeping) (hu : h.unread = '.' :: cs) :
    Reads h (Lexeme.fraction cs).1 h.fraction := by
  obtain ⟨hdigit, mpoint, mfraction⟩ := moves_point hk hu
  rw [fraction]
  by_cases hcs : cs.takeWhile Char.isDigit = []
  · rw [Lexeme.fraction, hcs, if_neg fun h => hdigit.1 h hcs]
    exact ⟨rfl, mpoint⟩
  · rw [Lexeme.fraction_of_digits hcs, if_pos (hdigit.2 hcs)]
    exact ⟨rfl, mfraction⟩

/-! ### Words and operators -/

theorem reads_word (hr : h.Ready) : Reads h (Lexeme.word h.unread).1 h.word := by
  have mparts := moves_wordParts hr.keeping
  have hkept : (wordParts.run h).kept = h.unread.takeWhile isWordPart := by
    rw [mparts.kept, hr.kept, List.nil_append]
  refine ⟨?_, mparts⟩
  rw [word, hkept]
  rfl

theorem reads_oneOrTwo (hk : h.keeping) (hu : h.unread = c :: cs) (second : Char)
    (hsecond : second ≠ endMark) (one two : Kind) :
    Reads h (Lexeme.oneOrTwo c second one two cs).1 (h.oneOrTwo second one two) := by
  obtain ⟨mfirst, htail⟩ := moves_take_cons hu hk
  have hcurrent := h.take.current_eq
  rw [htail] at hcurrent
  rw [oneOrTwo]
  cases cs with
  | nil =>
    rw [if_neg (by rw [hcurrent]; exact hsecond.symm)]
    exact ⟨rfl, mfirst⟩
  | cons d cs =>
    obtain rfl : h.take.current = d := hcurrent
    rw [Lexeme.oneOrTwo]
    split
    · obtain ⟨mtwo, -⟩ := moves_take_cons htail (mfirst.keeping.trans hk)
      exact ⟨rfl, mfirst.trans mtwo⟩
    · exact ⟨rfl, mfirst⟩

theorem reads_single (hk : h.keeping) (hu : h.unread = c :: cs) (k : Kind) :
    Reads h (.plain k [c]) (k, h.take) := ⟨rfl, (moves_take_cons hu hk).1⟩

/-! ### Strings -/

/-- The escape warning that a backslash before `c` at a place raises. -/
def pairWarnings (p : Place) (c : Char) : List Warning :=
  if c = 'n' then [] else [.illegalEscape c ⟨p, p.after ['\\', c]⟩]

theorem moves_escape (hk : h.keeping) (hu : h.unread = '\\' :: c :: cs) :
    Moves h ['\\', c] ['\\', c] (pairWarnings h.place c) h.escape ∧ h.escape.unread = cs := by
  obtain ⟨mslash, htail⟩ := moves_take_cons hu hk
  obtain ⟨hc, hne, -⟩ := unread_of_cons htail
  obtain ⟨mchar, hrest⟩ := moves_take_cons htail (mslash.keeping.trans hk)
  have mpair := mslash.trans mchar
  unfold escape
  dsimp only
  split
  · next hn =>
    obtain rfl : 'n' = c := hn.symm.trans hc
    exact ⟨mpair, hrest⟩
  · next hnul => exact absurd (hc.symm.trans hnul) hne
  · next hn _ =>
    rw [hc] at hn ⊢
    have hplace : h.take.take.place = h.place.after ['\\', c] := mpair.place
    rw [pairWarnings, if_neg hn, hplace]
    exact ⟨mpair.trans (moves_warn _ _), hrest⟩

theorem illegalEscapes_pair (p : Place) (c : Char) (body : List Char) :
    Lexeme.illegalEscapes p ('\\' :: c :: body) =
      pairWarnings p c ++ Lexeme.illegalEscapes (p.after ['\\', c]) body := by
  rw [Lexeme.illegalEscapes, pairWarnings]
  split <;> rfl

/-- How the loop over a string's body ends: the kind, and where the head is then. -/
structure ReadsBody (h : Head) (body : List Char) (ending : Ending) (r : Kind × Head) : Prop where
  kind : r.1 = (Lexeme.quoted body ending).kind
  moves : Moves h (Lexeme.quoted body ending).chars.tail body
    (Lexeme.illegalEscapes h.place body ++
      if ending = .newline then [.unterminatedString ⟨h.start, h.place.after body⟩] else []) r.2

theorem ReadsBody.after {pre body : List Char} {ws : List Warning} {ending : Ending}
    {r : Kind × Head} (hr : ReadsBody h' body ending r) (m : Moves h pre pre ws h')
    (hescapes : Lexeme.illegalEscapes h.place (pre ++ body) =
      ws ++ Lexeme.illegalEscapes (h.place.after pre) body) :
    ReadsBody h (pre ++ body) ending r := by
  have hchars : (Lexeme.quoted (pre ++ body) ending).chars.tail =
      pre ++ (Lexeme.quoted body ending).chars.tail := by
    cases ending <;> simp [Lexeme.chars]
  refine ⟨by rw [hr.kind]; cases ending <;> rfl, ?_⟩
  rw [hchars, hescapes, List.append_assoc, Place.after_append, ← m.place, ← m.start]
  exact m.trans hr.moves

/-- A character that neither ends the string nor escapes another is taken. -/
theorem exists_turn_stringBody (hk : h.keeping) (hu : h.unread = c :: cs) (hquote : c ≠ '"')
    (hnewline : c ≠ '\n') (hpair : c = '\\' → cs = []) :
    ∃ h', stringBody.turn h = .inr h' ∧ Moves h [c] [c] [] h' ∧ h'.unread = cs := by
  obtain ⟨hc, hne, -⟩ := unread_of_cons hu
  obtain ⟨mtake, htail⟩ := moves_take_cons hu hk
  by_cases hslash : c = '\\'
  · have hcurrent : h.take.current = endMark := current_of_nil (htail.trans (hpair hslash))
    have hescape : h.escape = h.take := by simp only [escape, hcurrent, endMark]
    refine ⟨h.escape, ?_, ?_⟩
    · simp only [stringBody, hc, hslash]
    · rw [hescape]
      exact ⟨mtake, htail⟩
  · refine ⟨h.take, ?_, mtake, htail⟩
    rw [← hc] at hquote hnewline hslash hne
    simp only [stringBody]
    split <;> first | rfl | contradiction

theorem reads_stringBody (hk : h.keeping) :
    ReadsBody h (Lexeme.stringBody h.unread).1 (Lexeme.stringBody h.unread).2.1
      (stringBody.run h) := by
  generalize hu : h.unread = cs
  induction cs using Lexeme.stringBody.induct generalizing h with
  | case1 =>
    have hturn : stringBody.turn h = .inl (.error, h) := by
      simp only [stringBody, current_of_nil hu, endMark]
    rw [Loop.run_of_inl _ hturn]
    exact ⟨rfl, .refl h⟩
  | case2 rest =>
    obtain ⟨hc, -, -⟩ := unread_of_cons hu
    have hturn : stringBody.turn h = .inl (.stringLiteral, h.skip) := by
      simp only [stringBody, hc]
    rw [Loop.run_of_inl _ hturn]
    exact ⟨rfl, (moves_skip_cons hu).1⟩
  | case3 rest =>
    obtain ⟨hc, -, -⟩ := unread_of_cons hu
    have hturn : stringBody.turn h = .inl (.stringLiteral, h.warn (.unterminatedString h.span)) := by
      simp only [stringBody, hc]
    rw [Loop.run_of_inl _ hturn]
    exact ⟨rfl, moves_warn _ h⟩
  | case4 c rest body ending rest' hbody ih =>
    obtain ⟨hc, -, -⟩ := unread_of_cons hu
    have hturn : stringBody.turn h = .inr h.escape := by simp only [stringBody, hc]
    obtain ⟨mescape, hrest⟩ := moves_escape hk hu
    have hloop := ih (mescape.keeping.trans hk) hrest
    rw [Loop.run_of_inr _ hturn, Lexeme.stringBody]
    exact hloop.after mescape (illegalEscapes_pair _ _ _)
  | case5 c rest hquote hnewline hpair body ending rest' hbody ih =>
    -- A backslash comes here only as the last character, with nothing behind it to escape.
    have hlast : c = '\\' → rest = [] := by
      rintro rfl
      cases rest with
      | nil => rfl
      | cons d rest => exact absurd rfl (hpair d rest rfl)
    obtain ⟨h', hturn, mtake, hrest⟩ := exists_turn_stringBody hk hu hquote hnewline hlast
    have hloop := ih (mtake.keeping.trans hk) hrest
    rw [Loop.run_of_inr _ hturn, Lexeme.stringBody.eq_5 c rest hquote hnewline hpair]
    refine hloop.after mtake (Lexeme.illegalEscapes.eq_3 _ _ _ ?_)
    intro d ds hslash hds
    rw [hlast hslash] at hds
    cases hds

/-- The account of a string is that of its body, with the opening quote. -/
theorem moves_quoted {body : List Char} {ending : Ending}
    (m : Moves h ('"' :: (Lexeme.quoted body ending).chars.tail) body
      (Lexeme.illegalEscapes (h.place.step '"') body ++ if ending = .newline then
        [.unterminatedString ⟨h.place, h.place.after ('"' :: body)⟩] else []) h') :
    Moves h (Lexeme.quoted body ending).chars body ((Lexeme.quoted body ending).warnings h.place)
      h' := by
  cases ending <;> exact m

theorem reads_string (hr : h.Ready) (hu : h.unread = '"' :: cs) :
    Reads h (Lexeme.string cs).1 h.string := by
  obtain ⟨mquote, htail⟩ := moves_skip_cons hu
  have hbody := reads_stringBody (h := h.skip) hr.keeping
  rw [htail] at hbody
  refine ⟨hbody.kind, moves_quoted ?_⟩
  have hplace : h.skip.place = h.place.step '"' := mquote.place
  have hstart : h.skip.start = h.place := mquote.start.trans hr.start
  have hmoves := mquote.trans hbody.moves
  rw [hplace, hstart] at hmoves
  exact hmoves

/-! ### Every lexeme -/

/-- **A lexeme is read by the lexical rules.** -/
theorem reads_lexeme (hr : h.Ready) (hu : h.unread = c :: cs) (hslash : c ≠ '/') :
    Reads h (Lexeme.read c cs).1 h.lexeme := by
  obtain ⟨hc, -, -⟩ := unread_of_cons hu
  have hk := hr.keeping
  rw [lexeme, hc]
  split
  · next hdigit =>
    unfold Lexeme.read
    rw [if_pos hdigit, ← hu]
    exact reads_number hk
  · next hdigit =>
    split
    · next hword =>
      unfold Lexeme.read
      rw [if_neg hdigit, if_pos hword, ← hu]
      exact reads_word hr
    · next hword =>
      split
      · exact reads_fraction hk hu
      · exact reads_string hr hu
      all_goals first
        | exact reads_oneOrTwo hk hu _ (by decide) _ _
        | exact reads_single hk hu _
        | unfold Lexeme.read
          rw [if_neg hdigit, if_neg hword]
          split <;> first | contradiction | exact reads_single hk hu _

end Head

end MiniC
