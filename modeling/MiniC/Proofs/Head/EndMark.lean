import MiniC.Proofs.Head.Halting

/-!
# The end of input is final

**Theorem (`endOfInput_final`).** Once a scan has found the end of input, every later scan finds it
again, at the same place and without a warning, whatever else was asked in between. And nothing
tells a text that goes on after an end marker from one that ends before it. Both hold of scanners,
which are given a text up to its first end marker, and of heads, which come to the marker as to any
other character and have to test for it.

**At the end** a head has nothing left and keeps nothing (`Head.AtEnd`). It is there once it has
found the end of input (`Head.atEnd_scan`), and scanning leaves it as it is (`Head.scan_of_atEnd`).

**An end marker.** Call after call, a head answers as the scanner that it is does
(`Head.answers_eq`), and the scanner is the same for the two texts.
-/

namespace MiniC

namespace Head

variable {h : Head}

/-! ## Calls -/

/-- Takes the waiting warnings. -/
def takeWarnings (h : Head) : List Warning × Head := (h.warnings, { h with warnings := [] })

def answer (h : Head) : Scanner.Call → Scanner.Answer × Head
  | .scan => (.token h.scan.1, h.scan.2)
  | .takeWarnings => (.warnings h.takeWarnings.1, h.takeWarnings.2)

/-- The answers to calls one after another, and the head after them. -/
def answers (h : Head) : List Scanner.Call → List Scanner.Answer × Head
  | [] => ([], h)
  | call :: calls =>
    let (a, h') := h.answer call
    let (as, h'') := h'.answers calls
    (a :: as, h'')

theorem answer_eq (h : Head) (call : Scanner.Call) :
    (h.answer call).1 = (h.scanner.answer call).1 ∧
      (h.answer call).2.scanner = (h.scanner.answer call).2 := by
  cases call with
  | scan =>
    obtain ⟨htoken, hscanner⟩ := h.scan_eq
    exact ⟨congrArg Scanner.Answer.token htoken, hscanner⟩
  | takeWarnings => exact ⟨rfl, rfl⟩

/-- **A head answers as the scanner that it is.** -/
theorem answers_eq (h : Head) (calls : List Scanner.Call) :
    (h.answers calls).1 = (h.scanner.answers calls).1 := by
  induction calls generalizing h with
  | nil => rfl
  | cons call calls ih =>
    obtain ⟨hanswer, hscanner⟩ := h.answer_eq call
    show (h.answer call).1 :: ((h.answer call).2.answers calls).1 = _
    rw [hanswer, ih, hscanner]
    rfl

/-! ## The end -/

/-- Nothing is left, and nothing is kept of a token that would start here. -/
structure AtEnd (h : Head) : Prop where
  unread : h.unread = []
  keeping : h.keeping = false
  kept : h.kept = []
  start : h.start = h.place

theorem beginToken_of_atEnd (he : h.AtEnd) : h.beginToken = { h with keeping := true } := by
  have hblank : blanks.turn { h with keeping := false } = .inl { h with keeping := false } := by
    refine if_neg ?_
    rw [current_of_nil he.unread]
    exact Bool.false_ne_true
  rw [beginToken, Loop.run_of_inl _ hblank, ← he.kept, ← he.start]

theorem scan_of_atEnd (he : h.AtEnd) : h.scan = (.endOfInput h.place, h) := by
  have hbegin := beginToken_of_atEnd he
  have hunread : h.beginToken.unread = [] := by
    rw [hbegin]
    exact he.unread
  have hend : endToken { h with keeping := true } = h := by
    show { h with keeping := false, kept := [] } = h
    rw [← he.keeping, ← he.kept]
  rw [scan, run_restart_of_nil hunread, hbegin]
  exact congrArg (Prod.mk _) hend

/-- The loop over comments ends with the end of input only where nothing is left. -/
theorem restart_of_eof (h : Head) (heof : (restart.run h).1 = .eof) :
    (restart.run h).2.unread = [] ∧ (restart.run h).2.start = (restart.run h).2.place := by
  rcases restart_cases h with ⟨hu, hrun⟩ |
    ⟨piece, rest, hread, hp, ⟨hkind, hlt, hrun⟩ | ⟨l, rfl, hrun⟩⟩
  · rw [hrun]
    exact ⟨hu, rfl⟩
  · rw [hrun] at heof ⊢
    exact restart_of_eof _ heof
  · rw [hrun] at heof
    exact absurd heof (kind_ne_eof_of_read? hread)
termination_by h.left

/-- **The end of input is found at the end.** -/
theorem atEnd_scan (heof : h.scan.1.kind = .eof) : h.scan.2.AtEnd := by
  obtain ⟨hunread, hstart⟩ := restart_of_eof h heof
  exact ⟨hunread, rfl, rfl, hstart⟩

theorem token_scan_of_eof (heof : h.scan.1.kind = .eof) :
    h.scan.1 = .endOfInput h.scan.2.place := by
  have hkind : (restart.run h).1 = .eof := heof
  show (restart.run h).2.token (restart.run h).1 = _
  rw [hkind]
  rfl

/-- No call moves a head that is at the end, or does more to it than to take its warnings. -/
theorem answers_of_atEnd (he : h.AtEnd) (calls : List Scanner.Call) :
    (h.answers calls).2 = { h with warnings := (h.answers calls).2.warnings } := by
  induction calls generalizing h with
  | nil => rfl
  | cons call calls ih =>
    cases call with
    | scan =>
      have hscan : h.scan.2 = h := congrArg Prod.snd (scan_of_atEnd he)
      show (h.scan.2.answers calls).2 = { h with warnings := (h.scan.2.answers calls).2.warnings }
      rw [hscan]
      exact ih he
    | takeWarnings =>
      have hend : h.takeWarnings.2.AtEnd := ⟨he.unread, he.keeping, he.kept, he.start⟩
      exact ih hend

end Head

/-- **The end of input is final, and an end marker is the end of input.** -/
theorem endOfInput_final :
    (∀ scanner : Scanner, scanner.scan.1.kind = .eof → ∀ calls : List Scanner.Call,
      let later := (scanner.scan.2.answers calls).2
      later.scan = (scanner.scan.1, later) ∧ later.cursor = scanner.scan.2.cursor) ∧
    (∀ head : Head, head.scan.1.kind = .eof → ∀ calls : List Scanner.Call,
      let later := (head.scan.2.answers calls).2
      later.scan = (head.scan.1, later) ∧
        later = { head.scan.2 with warnings := later.warnings }) ∧
    ∀ s u : String, '\x00' ∉ s.toList →
      (∀ calls : List Scanner.Call, ((Scanner.ofText (s ++ "\x00" ++ u)).answers calls).1 =
        ((Scanner.ofText s).answers calls).1) ∧
      (∀ calls : List Scanner.Call, ((Head.ofText (s ++ "\x00" ++ u)).answers calls).1 =
        ((Head.ofText s).answers calls).1) ∧
      ∀ {ρ : Type} [Reporter ρ] (reporter : ρ),
        (Recognizer.ofText (s ++ "\x00" ++ u) reporter).recognize =
          (Recognizer.ofText s reporter).recognize := by
  refine ⟨?_, ?_, ?_⟩
  · intro scanner heof calls later
    have hend : scanner.scan.2.cursor.AtEnd scanner.scan.1 := Cursor.atEnd_next heof
    have hcursor : later.cursor = scanner.scan.2.cursor := Scanner.cursor_answers hend calls
    rw [← hcursor] at hend
    exact ⟨Scanner.scan_of_atEnd hend, hcursor⟩
  · intro head heof calls later
    have hend : head.scan.2.AtEnd := Head.atEnd_scan heof
    have hlater : later = { head.scan.2 with warnings := later.warnings } :=
      Head.answers_of_atEnd hend calls
    have hscan : later.scan = (.endOfInput later.place, later) := by
      apply Head.scan_of_atEnd
      rw [hlater]
      exact ⟨hend.unread, hend.keeping, hend.kept, hend.start⟩
    have htoken : head.scan.1 = .endOfInput later.place := by
      rw [hlater]
      exact Head.token_scan_of_eof heof
    exact ⟨htoken ▸ hscan, hlater⟩
  · intro s u hnul
    have hscanner := Scanner.ofText_append_endMark hnul u
    refine ⟨?_, ?_, ?_⟩
    · intro calls
      rw [hscanner]
    · intro calls
      rw [Head.answers_eq, Head.answers_eq, Head.scanner_ofText, Head.scanner_ofText, hscanner]
    · intro ρ _ reporter
      rw [Recognizer.ofText, Recognizer.ofText, hscanner]

/-- The marker between a backslash and the character it would escape: the string ends there, and
what follows it is not seen. -/
theorem endOfInput_final_escape :
    let scanner := Scanner.ofText ("\"b\\" ++ "\x00" ++ "n\" /*")
    let head := Head.ofText ("\"b\\" ++ "\x00" ++ "n\" /*")
    let tokens : List Scanner.Answer :=
      [.token ⟨.error, "b\\", ⟨⟨1, 1⟩, ⟨1, 4⟩⟩⟩, .warnings [], .token (.endOfInput ⟨1, 4⟩)]
    ((scanner.answers [.scan, .takeWarnings, .scan]).1 = tokens ∧
        let later := (scanner.scan.2.scan.2.answers [.takeWarnings, .scan]).2
        later.scan = (.endOfInput ⟨1, 4⟩, later)) ∧
      (head.answers [.scan, .takeWarnings, .scan]).1 = tokens ∧
        let later := (head.scan.2.scan.2.answers [.takeWarnings, .scan]).2
        later.scan = (.endOfInput ⟨1, 4⟩, later) := by
  intro scanner head tokens
  obtain ⟨hfinal, hheadFinal, hmarker⟩ := endOfInput_final
  obtain ⟨hanswers, hheadAnswers, -⟩ := hmarker "\"b\\" "n\" /*" (by decide)
  have htokens : ((Scanner.ofText "\"b\\").answers [.scan, .takeWarnings, .scan]).1 = tokens := by
    unfold tokens
    cbv
  have hlast : scanner.scan.2.scan.1 = .endOfInput ⟨1, 4⟩ := by cbv
  have hheadLast : head.scan.2.scan.1 = .endOfInput ⟨1, 4⟩ := by
    rw [(Head.scan_eq _).1, head.scan_eq.2, Head.scanner_ofText]
    exact hlast
  refine ⟨⟨?_, ?_⟩, ?_, ?_⟩
  · exact (hanswers _).trans htokens
  · have hlater := (hfinal scanner.scan.2 (by rw [hlast]; rfl) [.takeWarnings, .scan]).1
    rwa [hlast] at hlater
  · rw [hheadAnswers, Head.answers_eq, Head.scanner_ofText]
    exact htokens
  · have hlater := (hheadFinal head.scan.2 (by rw [hheadLast]; rfl) [.takeWarnings, .scan]).1
    rwa [hheadLast] at hlater

end MiniC
