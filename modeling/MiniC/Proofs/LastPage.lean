import MiniC.Proofs.Fragments
import MiniC.Proofs.Progress
import MiniC.Proofs.Scrolling

/-!
# The last page of the source

**Theorem (`sourcePage_full`).** After a frame in which the current token starts on a line of the
source, the source pane is not scrolled past its last full page. Nor is it after a frame with as
few rows of it as any before.

**Below the text.** If the source ends in a newline, the end of input stands on the line below it.
This is the only token that starts on no line of the source (`currentLine_le`). A frame then keeps
the offset that an earlier one has set. In a pane that has grown since, the page from there on is
not full, though there are lines above it to show (`not_sourcePage_full_grown`).

The invariant of a session is that the pane is not scrolled past the last full page of the lowest
pane so far. Keys and turns of the clock keep its offset (`offset_press`, `offset_tick`).
-/

namespace MiniC

open Screen

/-! ## Lines of a text -/

/-- Every character of a text is on one of its lines. -/
theorem line_placeAt_le (cs : List Char) :
    ∀ i < cs.length, (placeAt cs i).line ≤ (lines cs).length := by
  show ∀ i < cs.length, 1 + (cs.take i).count '\n' ≤ (lines cs).length
  fun_induction lines cs with
  | case1 =>
    intro i hi
    exact absurd hi (Nat.not_lt_zero i)
  | case2 c cs line hdrop =>
    intro i _
    have hnewline : '\n' ∉ (c :: cs).take i := by
      intro hmem
      rw [← takeWhile_eq_self_of_dropWhile hdrop] at hmem
      exact Piece.newline_notMem_takeWhile _ (List.mem_of_mem_take hmem)
    rw [List.count_eq_zero.2 hnewline]
    exact le_rfl
  | case3 c cs line x rest hdrop ih =>
    intro i hi
    have hsplit : c :: cs = line ++ '\n' :: rest := eq_takeWhile_append_newline hdrop
    have hnewline : '\n' ∉ line.take i := by
      intro hmem
      exact Piece.newline_notMem_takeWhile _ (List.mem_of_mem_take hmem)
    rw [hsplit, List.length_append, List.length_cons] at hi
    rw [hsplit, List.take_append, List.count_append, List.count_eq_zero.2 hnewline,
      List.length_cons]
    -- After the first line come the newline and then the characters of the other lines.
    cases hj : i - line.length with
    | zero => exact Nat.le_add_left 1 _
    | succ j =>
      have hrest := ih j (by omega)
      rw [List.take_succ_cons, List.count_cons_self]
      omega

/-- The end of a text is on its last line or on the one below. -/
theorem line_placeAt_le_succ {cs : List Char} {i : Nat} (h : i ≤ cs.length) :
    (placeAt cs i).line ≤ (lines cs).length + 1 := by
  cases i with
  | zero => exact Nat.le_add_left 1 _
  | succ i =>
    have hle : (placeAt cs i).line ≤ (lines cs).length := line_placeAt_le cs i h
    have hstep : (placeAt cs (i + 1)).line ≤ (placeAt cs i).line + 1 := by
      rw [placeAt_eq_after cs i.le_succ, Place.line_after]
      have hcount := List.count_le_length (a := '\n') (l := cs.extract i (i + 1))
      rw [Highlight.length_extract h, Nat.add_sub_cancel_left] at hcount
      exact Nat.add_le_add_left hcount _
    omega

/-! ## The line of the current token -/

namespace Stepper

namespace Follows

variable {s : Stepper} {source : String}

theorem exists_current (h : s.Follows source) :
    ∃ t, (tokenize source).1[s.position]? = some t ∧ s.currentLine = t.span.start.line := by
  obtain ⟨step, hstep⟩ := Option.isSome_iff_exists.1 h.isSome_get?
  refine ⟨step.token, ?_, ?_⟩
  · rw [← h.tokens_eq, Recording.tokens, List.getElem?_map]
    exact congrArg (Option.map Step.token) hstep
  · rw [currentLine, currentSpan?, hstep]
    rfl

/-- Tokens start on lines of the source. The end of input may be on the line below. -/
theorem currentLine_le (h : s.Follows source) :
    1 ≤ s.currentLine ∧ s.currentLine ≤ s.sourceLines.length + 1 ∧
      (s.position < s.last → s.currentLine ≤ s.sourceLines.length) := by
  obtain ⟨t, ht, hline⟩ := h.exists_current
  obtain ⟨ranges, tokens, htokens, -, htiles⟩ := tiles_readable source
  have hlength : (readable source).length ≤ source.toList.length := List.length_take_le' _ _
  rw [hline, h.sourceLines_eq]
  rw [htokens, List.getElem?_append] at ht
  split at ht
  · obtain ⟨a, b, -, hab, hb, hread⟩ := htiles.exists_range (List.mem_of_getElem? ht)
    have hle := line_placeAt_le source.toList a (by omega)
    rw [hread.span_eq, placeAt_readable (hab.le.trans hb)]
    exact ⟨Nat.le_add_right 1 _, hle.trans (Nat.le_add_right _ 1), fun _ => hle⟩
  · next hend =>
    have hlast : s.last = tokens.length := by
      rw [h.last_eq, htokens, List.length_append, List.length_singleton, Nat.add_sub_cancel]
    obtain rfl : _ = t := List.mem_singleton.1 (List.mem_of_getElem? ht) |>.symm
    have hle := line_placeAt_le_succ hlength
    rw [← placeAt_readable le_rfl] at hle
    exact ⟨Nat.le_add_right 1 _, hle, fun hlt => absurd hlt (by omega)⟩

end Follows

/-! ## Keys and turns of the clock -/

variable {s s' : Stepper}

theorem source_advance? (h : s.advance? = some s') : s'.view.source = s.view.source := by
  rw [eq_jumpTo_of_advance? h]
  rfl

theorem source_advanceBy (s : Stepper) (n : Nat) :
    (s.advanceBy n).2.view.source = s.view.source := by
  induction n generalizing s with
  | zero => rfl
  | succ n ih =>
    rw [advanceBy]
    cases hs : s.advance? with
    | none => rfl
    | some s' => exact (ih s').trans (source_advance? hs)

theorem source_stepForward (s : Stepper) : s.stepForward.view.source = s.view.source := by
  rw [stepForward]
  split
  · next s' hs => exact (source_advance? hs : s'.view.source = _)
  · rfl

theorem source_stepBackward (s : Stepper) : s.stepBackward.view.source = s.view.source := by
  rw [stepBackward]
  split <;> rfl

theorem source_pressChar (s : Stepper) (held : Bool) (c : Char) :
    (s.pressChar held c).view.source = s.view.source := by
  rw [pressChar]
  split_ifs
  · rfl
  · exact source_advanceBy s.pause _
  · rw [togglePlaying]
    split <;> rfl
  · rfl

/-- Scrolling moves the row that the current line is kept on, never the offset. -/
theorem offset_scroll (v : View) :
    (scrollUp v).source.offset = v.source.offset ∧
      (scrollDown v).source.offset = v.source.offset := by
  rw [scrollUp, scrollDown]
  cases v.focus <;> exact ⟨rfl, rfl⟩

theorem offset_press (s : Stepper) (held : Bool) (key : Key) :
    (s.press held key).view.source.offset = s.view.source.offset := by
  cases key with
  | char c => exact congrArg _ (s.source_pressChar held c)
  | left => exact congrArg _ s.pause.source_stepBackward
  | right => exact congrArg _ s.pause.source_stepForward
  | up => exact (offset_scroll s.view).1
  | down => exact (offset_scroll s.view).2
  | tab | enter | backspace | escape | backTab => rfl

theorem offset_tick (s : Stepper) (due : Bool) :
    (s.tick due).view.source.offset = s.view.source.offset := by
  rw [tick]
  split
  · rw [play]
    split
    · next s' hs => exact congrArg _ (source_advance? hs : s'.view.source = _)
    · rfl
  · rfl

/-! ## Frames -/

/-- A pane that is not scrolled past the last full page of `low` rows stays so in a frame that has
as many rows or more. -/
theorem offset_settleSource_le {low page total : Nat} (htotal : s.sourceLines.length = total)
    (h : s.view.source.offset ≤ total - low) (hlow : low ≤ page) :
    (s.settleSource page).offset ≤ total - low := by
  by_cases hline : 1 ≤ s.currentLine ∧ s.currentLine ≤ s.sourceLines.length
  · have hoffset : (s.settleSource page).offset = _ :=
      s.settleSource_offset rfl hline.1 hline.2
    rw [hoffset, htotal]
    exact (clampOffset_le _ _ _).trans (Nat.sub_le_sub_left hlow _)
  · rw [s.settleSource_offset_of_not hline]
    exact h

/-- **One input.** -/
theorem offset_handle_le {low total : Nat} (htotal : s.sourceLines.length = total)
    (h : s.view.source.offset ≤ total - low) (input : Input)
    (hlow : ∀ l c, input = .draw l c → low ≤ pageSize l.source) :
    (s.handle input).view.source.offset ≤ total - low := by
  cases input with
  | key held key => exact (s.offset_press held key).trans_le h
  | tick due => exact (s.offset_tick due).trans_le h
  | draw l c => exact offset_settleSource_le htotal h (hlow l c rfl)

/-- **Whole sessions.** -/
theorem Follows.offset_after_le {source : String} {low : Nat} (hs : s.Follows source)
    (h : s.view.source.offset ≤ (lines source.toList).length - low) (inputs : List Input)
    (hlow : ∀ l c, .draw l c ∈ inputs → low ≤ pageSize l.source) :
    (s.after inputs).view.source.offset ≤ (lines source.toList).length - low := by
  induction inputs generalizing s with
  | nil => exact h
  | cons input inputs ih =>
    have hnext := offset_handle_le (congrArg List.length hs.sourceLines_eq) h input
      fun l c hinput => hlow l c (hinput ▸ List.mem_cons_self)
    exact ih (hs.handle input) hnext
      fun l c hmem => hlow l c (List.mem_cons_of_mem _ hmem)

end Stepper

/-- **The last page of the source stays full.** After a frame the source pane fills its page, as
far as there are lines, if the current token starts on a line of the source, or if no earlier frame
had fewer rows of it. Only the end of input can start on no line, as it then is on the one below
the last; the frame does not scroll the pane there. -/
theorem sourcePage_full (source : String) (inputs : List Input) (l : Layout) (c : Canvas) :
    let s := (Stepper.ofText source).after inputs
    let s' := (s.drawOn l c).2
    let page := pageSize l.source
    let total := s'.sourceLines.length
    (s'.currentLine ≤ total ∨ (∀ l' c', .draw l' c' ∈ inputs → page ≤ pageSize l'.source) →
      s'.view.source.offset ≤ total - page ∧ (s'.sourceContent page).length = min page total) ∧
    (total < s'.currentLine → s'.position = s'.last ∧ s'.currentLine = total + 1 ∧
      s'.view.source.offset = s.view.source.offset) := by
  intro s s' page total
  have hfollows : s.Follows source := (Stepper.Follows.init source).after inputs
  obtain ⟨hpos, hsucc, hle⟩ := hfollows.currentLine_le
  have htotal : (lines source.toList).length = total :=
    congrArg List.length hfollows.sourceLines_eq.symm
  refine ⟨?_, ?_⟩
  · intro hcases
    have hfull : s'.view.source.offset ≤ total - page := by
      rcases hcases with hline | hlow
      · have hoffset : s'.view.source.offset = _ := s.settleSource_offset rfl hpos hline
        exact hoffset.trans_le (clampOffset_le _ _ _)
      · have hinit := Stepper.Follows.init source
        have hoffset := hinit.offset_after_le (Nat.zero_le _) inputs hlow
        rw [htotal] at hoffset
        exact Stepper.offset_settleSource_le rfl hoffset le_rfl
    refine ⟨hfull, ?_⟩
    rw [Stepper.sourceContent, List.length_map]
    exact length_page _ hfull
  · intro hbelow
    have hlast : ¬s.position < s.last := fun hlt => absurd (hle hlt) (Nat.not_le.2 hbelow)
    have hposition : s.position ≤ s.last := hfollows.position
    refine ⟨le_antisymm hposition (Nat.not_lt.1 hlast), le_antisymm hsucc hbelow, ?_⟩
    exact s.settleSource_offset_of_not fun h => absurd h.2 (Nat.not_le.2 hbelow)

/-- The stepper goes to the end of input, on the line below the text. A lower frame then shows fewer
lines than before, and these fill it. -/
theorem sourcePage_full_below :
    let inputs := [.frame 40 5, .key false .enter]
    let s' := (((Stepper.ofText "int\nx\n;\n").after inputs).draw 40 4).2
    pageSize (Layout.ofSize 40 4).source = 1 ∧ pageSize (Layout.ofSize 40 5).source = 2 ∧
      s'.sourceLines.length < s'.currentLine ∧ s'.position = s'.last ∧
      (s'.sourceContent 1).length = min 1 s'.sourceLines.length := by
  intro inputs s'
  obtain ⟨hfull, hbelow⟩ := sourcePage_full "int\nx\n;\n" inputs (.ofSize 40 4) (.blank 40 4)
  have hs' : s' = (((Stepper.ofText "int\nx\n;\n").settle (.ofSize 40 5)).press false .enter).settle
      (.ofSize 40 4) := rfl
  have hline : s'.sourceLines.length < s'.currentLine := by
    rw [hs']
    cbv
  refine ⟨rfl, rfl, hline, (hbelow hline).1, (hfull (.inr ?_)).2⟩
  intro l' c' hmem
  obtain ⟨rfl, -⟩ : l' = .ofSize 40 5 ∧ c' = .blank 40 5 := by
    simpa [inputs, Input.frame] using hmem
  decide

/-- The pane shows the second of two lines, and the stepper goes on to the end of input below them.
Now the pane has room for both, but still shows only the second. -/
theorem not_sourcePage_full_grown :
    let inputs := [.key false (.char '4'), .frame 40 4, .key false .enter]
    let s' := (((Stepper.ofText "int x;\nint y;\n").after inputs).draw 40 5).2
    ¬s'.view.source.offset ≤ s'.sourceLines.length - pageSize (Layout.ofSize 40 5).source := by
  intro inputs s'
  have hs' : s' = ((((Stepper.ofText "int x;\nint y;\n").press false (.char '4')).settle
      (.ofSize 40 4)).press false .enter).settle (.ofSize 40 5) := rfl
  have hoffset : s'.view.source.offset = 1 := by
    rw [hs']
    cbv
  have htotal : s'.sourceLines.length = 2 := by
    rw [hs']
    cbv
  rw [hoffset, htotal]
  decide

end MiniC
