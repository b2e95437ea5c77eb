import MiniC.Proofs.InRange
import MiniC.Proofs.Passes

/-!
# The panes disclose a rejection together

**Theorem (`rejection_disclosed`).** If a source is rejected, there is a failing token, the one
where the recogniser has stopped. Before it no pane tells that the source fails; from it on all of
them do, each by its own look-up (`Stepper.Discloses`). If a source is accepted, no pane ever tells
of a failure, and the acceptance is told at the last token and at no other.

**The failing token.** A rejection only has a span, and the panes look for the token with that
span. They find it, since a rejection points at the lookahead (`Recognizer.recognize_scans`) and no
two tokens have the same span (`nodup_spans`). So the diagnostics pane never tells the end of a
rejected recording before the failing token, which lies in it (`verdict?_of_rejected`).

**The diagnostics.** The verdict comes after the warnings, and no warning reads like a verdict,
because it begins with another letter (`mem_diagnosticTexts_iff`).

The end of a recording is told by a number that is kept in a word of 64 bits, so the source has to
fit in memory there.
-/

namespace MiniC

open Screen

/-! ## The failing token -/

/-- A rejection points at the token where the recogniser stopped, and the look-up finds it. -/
theorem Recording.exists_failure {source : String} {d : Diagnostic}
    (h : (ofText source).outcome = .rejected d) :
    let recognizer := Recognizer.ofText source ({} : Collected)
    ∃ i t, (ofText source).failure? = some i ∧ (ofText source).tokens[i]? = some t ∧
      recognizer.recognize.2.lookahead = t ∧
      recognizer.scanned = (ofText source).tokens.take (i + 1) := by
  intro recognizer
  have hpending : (ofText source).tokens = recognizer.advance.pending :=
    (tokens_ofText source).trans (pending_ofText source _).symm
  have hnodup : ((ofText source).tokens.map Token.span).Nodup :=
    tokens_ofText source ▸ nodup_spans source
  obtain ⟨ts, r', s', hr, hscanned, -, hlookahead, hverdict⟩ := recognizer.recognize_scans
  have hstop : (ofText source).tokens[ts.length]? = some r'.lookahead :=
    hpending ▸ hr.getElem?_pending
  have houtcome : recognizer.recognize.1 = .rejected d := h
  rw [houtcome] at hverdict
  refine ⟨ts.length, r'.lookahead, failure?_of_rejected h hnodup hstop hverdict, hstop,
    hlookahead, ?_⟩
  rw [hscanned, hpending, hr.take_succ_pending]

namespace Stepper

variable {s : Stepper}

/-! ## What the diagnostics say -/

/-- The lines of the diagnostics pane, without the styles. -/
def diagnosticTexts (s : Stepper) : List (List Char) := s.diagnosticContent.map Line.text

theorem diagnosticTexts_eq (s : Stepper) : s.diagnosticTexts =
    ((s.recording.warningsUntil s.position).map fun w => Line.text (warningLine w)) ++
      s.verdict?.toList.map Fragment.text := by
  have hsingle (f : Fragment) : Line.text [f] = f.text := List.flatMap_singleton _ _
  rw [diagnosticTexts, diagnosticContent, List.map_append, List.map_map, List.map_map]
  congr 1
  exact List.map_congr_left fun f _ => hsingle f

theorem head?_text_warningLine (w : Warning) : (Line.text (warningLine w)).head? = some 'w' := rfl

theorem head?_render (d : Diagnostic) : d.render.toList.head? = some 'E' := by
  simp only [Diagnostic.render, String.toList_append, List.head?_append]
  rfl

/-- A text that begins like no warning can only be the verdict. -/
theorem mem_diagnosticTexts_iff {text : List Char} (h : text.head? ≠ some 'w') :
    text ∈ s.diagnosticTexts ↔ ∃ f, s.verdict? = some f ∧ f.text = text := by
  have hwarning : text ∉ (s.recording.warningsUntil s.position).map
      fun w => Line.text (warningLine w) := by
    intro hmem
    obtain ⟨w, -, rfl⟩ := List.mem_map.1 hmem
    exact h (head?_text_warningLine w)
  rw [diagnosticTexts_eq, List.mem_append, or_iff_right hwarning]
  simp

/-- If there is a verdict, it comes last. -/
theorem getLast?_diagnosticTexts {f : Fragment} (h : s.verdict? = some f) :
    s.diagnosticTexts.getLast? = some f.text := by
  rw [diagnosticTexts_eq, h]
  exact List.getLast?_concat

/-! ## A rejected source -/

section Rejected

variable {d : Diagnostic} {i : Nat}

theorem atFailure_iff (hi : s.recording.failure? = some i) :
    s.atFailure = true ↔ i ≤ s.position := by
  rw [atFailure, Recording.failedBy, hi]
  simp

/-- The end of a recording is not told before the failing token. -/
theorem verdict?_of_rejected (hd : s.recording.outcome = .rejected d)
    (hi : s.recording.failure? = some i) (hlt : i < s.recording.size) :
    s.verdict? = if i ≤ s.position
      then some (.ofString d.render (Style.fg Palette.failure).strong) else none := by
  have hiff : (s.tellsEnd || s.atFailure) = true ↔ i ≤ s.position := by
    rw [Bool.or_eq_true, atFailure_iff hi, or_iff_right_iff_imp, tellsEnd, decide_eq_true_eq]
    intro hend
    have hnumber : s.number ≤ s.position + 1 := Nat.mod_le _ _
    omega
  rw [verdict?, hd]
  exact if_congr hiff rfl rfl

theorem failedLine?_eq {t : Token} (hi : s.recording.failure? = some i)
    (ht : s.recording.tokens[i]? = some t) :
    s.failedLine? = if i ≤ s.position then some t.span.start.line else none := by
  have hline : (s.recording.get? i).map (·.token.span.start.line) = some t.span.start.line := by
    rw [Recording.tokens, List.getElem?_map] at ht
    obtain ⟨step, hstep, rfl⟩ := Option.map_eq_some_iff.1 ht
    rw [Recording.get?, hstep, Option.map_some]
  rw [failedLine?, hi]
  by_cases hle : i ≤ s.position
  · rw [Option.filter_some_pos (by simpa using hle), if_pos hle]
    exact hline
  · rw [Option.filter_some_neg (by simpa using hle), if_neg hle]
    rfl

theorem marksFailure_iff (hi : s.recording.failure? = some i) (j : Nat) :
    s.marksFailure j = true ↔ j = i ∧ i ≤ s.position := by
  rw [marksFailure, hi, Bool.and_eq_true, decide_eq_true_eq, decide_eq_true_eq, Option.some_inj,
    eq_comm]
  exact and_congr_right fun hj => by rw [hj]

end Rejected

/-- **What the panes show of a rejection** at the token with index `i`, which starts on the given
line: nothing before that token, and from it on the mark of the source pane, the mark of the token
list and the diagnostic, which comes last. -/
structure Discloses (s : Stepper) (d : Diagnostic) (i line : Nat) : Prop where
  failure : s.atFailure = true ↔ i ≤ s.position
  failedLine : s.failedLine? = if i ≤ s.position then some line else none
  mark : ∀ j, s.marksFailure j = true ↔ j = i ∧ i ≤ s.position
  told : d.render.toList ∈ s.diagnosticTexts ↔ i ≤ s.position
  toldLast : s.diagnosticTexts.getLast? = some d.render.toList ↔ i ≤ s.position

theorem discloses {d : Diagnostic} {i : Nat} {t : Token}
    (hd : s.recording.outcome = .rejected d) (hi : s.recording.failure? = some i)
    (ht : s.recording.tokens[i]? = some t) : s.Discloses d i t.span.start.line := by
  have hlt : i < s.recording.size := by
    rw [← Recording.length_tokens]
    exact (List.getElem?_eq_some_iff.1 ht).1
  have hverdict := verdict?_of_rejected hd hi hlt
  have htold : d.render.toList ∈ s.diagnosticTexts ↔ i ≤ s.position := by
    rw [mem_diagnosticTexts_iff (by rw [head?_render]; decide), hverdict]
    split
    · next hle => exact iff_of_true ⟨_, rfl, rfl⟩ hle
    · next hle => exact iff_of_false nofun hle
  refine ⟨atFailure_iff hi, failedLine?_eq hi ht, marksFailure_iff hi, htold, ?_, ?_⟩
  · intro hlast
    exact htold.1 (List.mem_of_getLast? hlast)
  · intro hle
    rw [if_pos hle] at hverdict
    exact getLast?_diagnosticTexts hverdict

/-! ## An accepted source -/

/-- **What the panes show of an acceptance**: nowhere a mark of a failure, and no diagnostic. -/
structure DisclosesNothing (s : Stepper) : Prop where
  failure : s.atFailure = false
  failedLine : s.failedLine? = none
  mark : ∀ j, s.marksFailure j = false
  told : ∀ d : Diagnostic, d.render.toList ∉ s.diagnosticTexts

theorem verdict?_of_accepted (h : s.recording.outcome = .accepted) :
    s.verdict? = if s.tellsEnd
      then some (.ofString "program accepted" (Style.fg Palette.success).strong) else none := by
  rw [verdict?, h]

theorem disclosesNothing (h : s.recording.outcome = .accepted) : s.DisclosesNothing := by
  have hnone := Recording.failure?_of_accepted h
  refine ⟨?_, ?_, ?_, ?_⟩
  · rw [atFailure, Recording.failedBy, hnone]
    rfl
  · rw [failedLine?, hnone]
    rfl
  · intro j
    rw [marksFailure, hnone]
    rfl
  · intro d hmem
    rw [mem_diagnosticTexts_iff (by rw [head?_render]; decide), verdict?_of_accepted h] at hmem
    obtain ⟨f, hf, htext⟩ := hmem
    split at hf
    · cases hf
      have hhead := head?_render d
      rw [← htext] at hhead
      exact absurd hhead (by decide)
    · cases hf

/-- The number that is told wraps around at a word of 64 bits, which no source in memory fills. -/
theorem tellsEnd_iff {source : String} (h : s.recording = .ofText source)
    (hlt : s.position < s.recording.size) (hmemory : source.utf8ByteSize < 2 ^ 63) :
    s.tellsEnd = true ↔ s.position = s.last := by
  have hchars := length_le_utf8ByteSize source
  have hle := size_ofText_le source
  have hword : UInt64.size = 2 ^ 64 := rfl
  rw [← h] at hle
  rw [tellsEnd, number, Nat.mod_eq_of_lt (by omega), decide_eq_true_eq, last]
  omega

end Stepper

/-- **The panes disclose a rejection together**, at every position from the failing token on. An
acceptance is told at the last position only. -/
theorem rejection_disclosed (source : String) :
    (∀ d, (Recording.ofText source).outcome = .rejected d →
      ∃ i t, (Recording.ofText source).failure? = some i ∧
        (Recording.ofText source).tokens[i]? = some t ∧
        (Recognizer.ofText source ({} : Collected)).recognize.2.lookahead = t ∧
        (Recognizer.ofText source ({} : Collected)).scanned =
          (Recording.ofText source).tokens.take (i + 1) ∧
        ∀ s : Stepper, s.recording = .ofText source → s.Discloses d i t.span.start.line) ∧
    ((Recording.ofText source).outcome = .accepted →
      ∀ s : Stepper, s.recording = .ofText source → s.DisclosesNothing ∧
        (s.position < s.recording.size → source.utf8ByteSize < 2 ^ 63 →
          ("program accepted".toList ∈ s.diagnosticTexts ↔ s.position = s.last))) := by
  refine ⟨?_, ?_⟩
  · intro d hd
    obtain ⟨i, t, hi, ht, hlookahead, hscanned⟩ := Recording.exists_failure hd
    refine ⟨i, t, hi, ht, hlookahead, hscanned, ?_⟩
    intro s hs
    exact Stepper.discloses (hs ▸ hd) (hs ▸ hi) (hs ▸ ht)
  · intro haccepted s hs
    have houtcome : s.recording.outcome = .accepted := hs ▸ haccepted
    refine ⟨Stepper.disclosesNothing houtcome, ?_⟩
    intro hlt hmemory
    rw [Stepper.mem_diagnosticTexts_iff (by decide), Stepper.verdict?_of_accepted houtcome,
      ← Stepper.tellsEnd_iff hs hlt hmemory]
    split
    · next hend => exact iff_of_true ⟨_, rfl, rfl⟩ hend
    · next hend => exact iff_of_false nofun hend

/-- A source that is refused at its second token, before and at that token; and one that is
accepted, at its end. -/
theorem rejection_disclosed_declaration :
    let refused : Stepper := .ofText "int ; int y;"
    let accepted : Stepper := { Stepper.ofText "int x;" with position := 3 }
    let d : Diagnostic := ⟨"\"<id>\" expected here", ⟨⟨1, 5⟩, ⟨1, 6⟩⟩⟩
    refused.recording.outcome = .rejected d ∧ refused.Discloses d 1 1 ∧
      Stepper.Discloses { refused with position := 1 } d 1 1 ∧
      accepted.recording.outcome = .accepted ∧ accepted.DisclosesNothing ∧
      "program accepted".toList ∈ accepted.diagnosticTexts := by
  intro refused accepted d
  have hrejected : refused.recording.outcome = .rejected d := by cbv
  have haccepted : accepted.recording.outcome = .accepted := by cbv
  have hlast : accepted.position = accepted.last := by cbv
  have hlt : accepted.position < accepted.recording.size := by cbv
  obtain ⟨hdiscloses, -⟩ := rejection_disclosed "int ; int y;"
  obtain ⟨i, t, hi, ht, -, -, hshown⟩ := hdiscloses d hrejected
  obtain rfl : i = 1 := by
    have hindex : (Recording.ofText "int ; int y;").failure? = some 1 := by cbv
    exact Option.some.inj (hi.symm.trans hindex)
  have hline : t.span.start.line = 1 := by
    have htoken : (Recording.ofText "int ; int y;").tokens[1]? =
        some ⟨.semicolon, "", ⟨⟨1, 5⟩, ⟨1, 6⟩⟩⟩ := by cbv
    rw [← Option.some.inj (htoken.symm.trans ht)]
  rw [hline] at hshown
  obtain ⟨hnothing, htold⟩ := (rejection_disclosed "int x;").2 haccepted accepted rfl
  exact ⟨hrejected, hshown refused rfl, hshown _ rfl, haccepted, hnothing,
    (htold hlt (by decide)).2 hlast⟩

end MiniC
