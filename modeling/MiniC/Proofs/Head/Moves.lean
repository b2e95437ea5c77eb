import MiniC.Head
import MiniC.Proofs.Steps

/-!
# What a head moves over

Each procedure of a head moves over the characters that the lexical rules take from what is left,
keeps the text of the token and warns as they say (`Head.Moves`).
-/

namespace MiniC

namespace Head

open Reader

/-- The head has moved over `cs`, of which it has kept `kept`, and has raised the warnings `ws`. -/
structure Moves (h : Head) (cs kept : List Char) (ws : List Warning) (h' : Head) : Prop where
  unread : h.unread = cs ++ h'.unread
  place : h'.place = h.place.after cs
  kept : h'.kept = h.kept ++ kept
  warnings : h'.warnings = h.warnings ++ ws
  start : h'.start = h.start
  keeping : h'.keeping = h.keeping
  text : h'.reader.text = h.reader.text

variable {h h' h'' : Head} {cs cs' ks ks' : List Char} {ws ws' : List Warning}

theorem Moves.refl (h : Head) : Moves h [] [] [] h :=
  ⟨rfl, rfl, (List.append_nil _).symm, (List.append_nil _).symm, rfl, rfl, rfl⟩

theorem Moves.trans (m : Moves h cs ks ws h') (m' : Moves h' cs' ks' ws' h'') :
    Moves h (cs ++ cs') (ks ++ ks') (ws ++ ws') h'' where
  unread := by rw [m.unread, m'.unread, List.append_assoc]
  place := by rw [m'.place, m.place, Place.after_append]
  kept := by rw [m'.kept, m.kept, List.append_assoc]
  warnings := by rw [m'.warnings, m.warnings, List.append_assoc]
  start := m'.start.trans m.start
  keeping := m'.keeping.trans m.keeping
  text := m'.text.trans m.text

/-- A shorter account of the same move. -/
theorem Moves.congr (m : Moves h cs ks ws h') (hcs : cs' = cs) (hks : ks' = ks) (hws : ws' = ws) :
    Moves h cs' ks' ws' h' := by
  subst hcs hks hws
  exact m

theorem Moves.unread_eq (m : Moves h cs ks ws h') {rest : List Char}
    (hrest : h.unread = cs ++ rest) : h'.unread = rest :=
  List.append_cancel_left (m.unread.symm.trans hrest)

/-! ## The current character -/

theorem unread_of_cons {c : Char} (hu : h.unread = c :: cs) :
    h.current = c ∧ c ≠ endMark ∧ ∀ keep, (h.advance keep).unread = cs := by
  have hc : h.current ≠ endMark := by
    intro hc
    rw [unread_of_endMark hc] at hu
    cases hu
  have hcons (keep : Bool) := (unread_eq_cons hc keep).symm.trans hu
  obtain rfl := (List.cons.inj (hcons true)).1
  exact ⟨rfl, hc, fun keep => (List.cons.inj (hcons keep)).2⟩

theorem current_of_nil (hu : h.unread = []) : h.current = endMark := by
  by_contra hc
  rw [unread_eq_cons hc true] at hu
  cases hu

theorem moves_skip (hc : h.current ≠ endMark) : Moves h [h.current] [] [] h.skip where
  unread := unread_eq_cons hc false
  place := rfl
  kept := (List.append_nil _).symm
  warnings := (List.append_nil _).symm
  start := rfl
  keeping := rfl
  text := h.reader.text_next

theorem moves_take (hc : h.current ≠ endMark) (hk : h.keeping) :
    Moves h [h.current] [h.current] [] h.take where
  unread := unread_eq_cons hc true
  place := rfl
  kept := by simp [take, advance, hk]
  warnings := (List.append_nil _).symm
  start := rfl
  keeping := rfl
  text := h.reader.text_next

theorem moves_warn (w : Warning) (h : Head) : Moves h [] [] [w] (h.warn w) :=
  ⟨rfl, rfl, (List.append_nil _).symm, rfl, rfl, rfl, rfl⟩

/-- Taking the first character of what is left. -/
theorem moves_take_cons {c : Char} (hu : h.unread = c :: cs) (hk : h.keeping) :
    Moves h [c] [c] [] h.take ∧ h.take.unread = cs := by
  obtain ⟨rfl, hc, htail⟩ := unread_of_cons hu
  exact ⟨moves_take hc hk, htail true⟩

theorem moves_skip_cons {c : Char} (hu : h.unread = c :: cs) :
    Moves h [c] [] [] h.skip ∧ h.skip.unread = cs := by
  obtain ⟨rfl, hc, htail⟩ := unread_of_cons hu
  exact ⟨moves_skip hc, htail false⟩

/-! ## Moving on while a test holds -/

section Onward

variable {test p : Char → Bool} {htest : test endMark = false}

/-- Moving on takes the longest first part whose characters pass the test. -/
theorem moves_onward (hp : ∀ c, c ≠ endMark → test c = p c) (keep : Bool) (hk : keep → h.keeping) :
    Moves h (h.unread.takeWhile p) (if keep then h.unread.takeWhile p else []) []
      ((onward keep test htest).run h) := by
  generalize hu : h.unread = cs
  induction cs generalizing h with
  | nil =>
    have hturn : (onward keep test htest).turn h = .inl h := by
      refine if_neg ?_
      rw [current_of_nil hu, htest]
      exact Bool.false_ne_true
    rw [Loop.run_of_inl _ hturn]
    cases keep <;> exact .refl h
  | cons c cs ih =>
    obtain ⟨rfl, hc, htail⟩ := unread_of_cons hu
    by_cases ht : test h.current
    · have hturn : (onward keep test htest).turn h = .inr (h.advance keep) := if_pos ht
      rw [Loop.run_of_inr _ hturn, List.takeWhile_cons_of_pos ((hp _ hc).symm.trans ht)]
      have hrun := ih (h := h.advance keep) hk (htail keep)
      cases keep with
      | false => exact (moves_skip hc).trans hrun
      | true => exact (moves_take hc (hk rfl)).trans hrun
    · have hturn : (onward keep test htest).turn h = .inl h := if_neg ht
      rw [Loop.run_of_inl _ hturn, List.takeWhile_cons_of_neg (hp _ hc ▸ ht)]
      cases keep <;> exact .refl h

end Onward

theorem moves_blanks (h : Head) : Moves h (h.unread.takeWhile isBlank) [] [] (blanks.run h) :=
  moves_onward (fun _ _ => rfl) false nofun

theorem moves_digits (hk : h.keeping) : Moves h (h.unread.takeWhile Char.isDigit)
    (h.unread.takeWhile Char.isDigit) [] (digits.run h) :=
  moves_onward (fun _ _ => rfl) true fun _ => hk

theorem moves_wordParts (hk : h.keeping) : Moves h (h.unread.takeWhile isWordPart)
    (h.unread.takeWhile isWordPart) [] (wordParts.run h) :=
  moves_onward (fun _ _ => rfl) true fun _ => hk

theorem unread_digits (hk : h.keeping) :
    (digits.run h).unread = h.unread.dropWhile Char.isDigit :=
  (moves_digits hk).unread_eq List.takeWhile_append_dropWhile.symm

theorem current_eq (h : Head) : h.current = h.unread.headD endMark := by
  by_cases hc : h.current = endMark
  · rw [unread_of_endMark hc, hc]
    rfl
  · rw [unread_eq_cons hc true]
    rfl

/-- A digit comes next if and only if there are digits to take. -/
theorem isDigit_current (h : Head) :
    h.current.isDigit ↔ h.unread.takeWhile Char.isDigit ≠ [] := by
  rw [current_eq]
  cases h.unread with
  | nil => simp [endMark]
  | cons c cs => by_cases hc : c.isDigit <;> simp [hc]

/-! ## Exponents -/

theorem takeBytes_append (cs ds : List Char) :
    takeBytes (String.ofList cs).utf8ByteSize (cs ++ ds) = cs := by
  rw [String.utf8ByteSize_ofList]
  induction cs with
  | nil => cases ds <;> rfl
  | cons c cs ih =>
    have hsize : String.utf8Len cs + c.utf8Size ≠ 0 := by
      have := c.utf8Size_pos
      omega
    rw [String.utf8Len_cons, List.cons_append, takeBytes, if_neg hsize, Nat.add_sub_cancel, ih]

/-- **Going back leaves nothing behind**, however far the head has gone without a warning. -/
theorem rollback_snapshot (m : Moves h cs ks [] h') : h'.rollback h.snapshot = h := by
  have hreader : h'.reader.reset h.reader.mark = h.reader := by
    rw [Reader.reset, m.text, Nat.min_eq_left h.mark_le]
  have hkept : takeBytes (String.ofList h.kept).utf8ByteSize h'.kept = h.kept := by
    rw [m.kept, takeBytes_append]
  have hwarnings := m.warnings
  rw [List.append_nil] at hwarnings
  simp only [rollback, snapshot, hreader, hkept, m.keeping, m.start, hwarnings]

/-- Digits are taken one after another. -/
theorem run_digits (h : Head) :
    digits.run h = take^[(h.unread.takeWhile Char.isDigit).length] h := by
  generalize hu : h.unread = cs
  induction cs generalizing h with
  | nil =>
    have hturn : digits.turn h = .inl h := by
      refine if_neg ?_
      rw [current_of_nil hu]
      decide
    exact Loop.run_of_inl _ hturn
  | cons c cs ih =>
    obtain ⟨rfl, -, htail⟩ := unread_of_cons hu
    by_cases hd : h.current.isDigit
    · have hturn : digits.turn h = .inr h.take := if_pos hd
      rw [Loop.run_of_inr _ hturn, List.takeWhile_cons_of_pos hd]
      exact ih h.take (htail true)
    · have hturn : digits.turn h = .inl h := if_neg hd
      rw [Loop.run_of_inl _ hturn, List.takeWhile_cons_of_neg hd]
      rfl

theorem ne_endMark_of_marker (hm : h.current = 'e' ∨ h.current = 'E') : h.current ≠ endMark := by
  rcases hm with hm | hm <;> rw [hm] <;> decide

/-- What is taken before the digits of an exponent. -/
theorem moves_exponentHead (hk : h.keeping) (hm : h.current = 'e' ∨ h.current = 'E') :
    ∃ head rest, Lexeme.exponentHead h.unread = some (head, rest) ∧
      Moves h head head [] h.exponentHead ∧ h.exponentHead.unread = rest ∧
      h.exponentHead = take^[head.length] h := by
  have hc := ne_endMark_of_marker hm
  have hu : h.unread = h.current :: h.take.unread := unread_eq_cons hc true
  have hmark : (h.current = 'e' || h.current = 'E') = true := by simpa using hm
  have htake := moves_take hc hk
  have hnext := h.take.current_eq
  rw [hu, exponentHead]
  cases hrest : h.take.unread with
  | nil =>
    rw [hrest] at hnext
    refine ⟨_, _, if_pos hmark, ?_⟩
    rw [if_neg (by rw [hnext]; decide)]
    exact ⟨htake, hrest, rfl⟩
  | cons s rest =>
    rw [hrest] at hnext
    obtain rfl : h.take.current = s := hnext
    by_cases hs : h.take.current = '+' || h.take.current = '-'
    · obtain ⟨hsign, htail⟩ := moves_take_cons hrest (htake.keeping.trans hk)
      refine ⟨_, _, (if_pos hmark).trans (if_pos hs), ?_⟩
      rw [if_pos hs]
      exact ⟨htake.trans hsign, htail, rfl⟩
    · refine ⟨_, _, (if_pos hmark).trans (if_neg hs), ?_⟩
      rw [if_neg hs]
      exact ⟨htake, hrest, rfl⟩

/-- **All or nothing.** The head takes what the lexical rules take for an exponent, one character
after another. If that is nothing, the head is as it was. -/
theorem moves_exponent (hk : h.keeping) :
    Moves h (Lexeme.exponent h.unread).1 (Lexeme.exponent h.unread).1 [] h.exponent ∧
      h.exponent = take^[(Lexeme.exponent h.unread).1.length] h := by
  by_cases hm : h.current = 'e' ∨ h.current = 'E'
  · have hmark : (h.current = 'e' || h.current = 'E') = true := by simpa using hm
    obtain ⟨head, rest, hhead, mhead, hrest, hiterate⟩ := moves_exponentHead hk hm
    have hdigit := h.exponentHead.isDigit_current
    rw [hrest] at hdigit
    rw [Lexeme.exponent, hhead, exponent, if_pos hmark]
    dsimp only
    split
    · next hnil =>
      -- No digit: the head goes back to the marker, over a sign as well if there was one.
      rw [if_neg (by rw [hdigit]; simpa using hnil), rollback_snapshot mhead]
      exact ⟨.refl h, rfl⟩
    · next hne =>
      have mdigits := moves_digits (mhead.keeping.trans hk)
      rw [hrest] at mdigits
      rw [if_pos (hdigit.2 hne)]
      refine ⟨mhead.trans mdigits, ?_⟩
      rw [run_digits, hrest, hiterate, ← Function.iterate_add_apply, List.length_append,
        Nat.add_comm]
  · have hmark : ¬ (h.current = 'e' || h.current = 'E') = true := by simpa using hm
    have hnone : Lexeme.exponentHead h.unread = none := by
      have hcurrent := h.current_eq
      cases hu : h.unread with
      | nil => rfl
      | cons c cs =>
        rw [hu] at hcurrent
        obtain rfl : h.current = c := hcurrent
        exact if_neg hmark
    rw [Lexeme.exponent, hnone, exponent, if_neg hmark]
    exact ⟨.refl h, rfl⟩

end Head

end MiniC
