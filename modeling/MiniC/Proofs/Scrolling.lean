import MiniC.Proofs.Session

/-!
# What a drawn pane is scrolled to

A pane shows a page of rows from its offset on. Keys change the offset without knowing the page,
and the page changes with the screen, so every frame settles the offset anew.

**Theorem (`tokens_inView`).** After a frame, a token list that follows the current token has it in
view. Followed or not, the last page is full. An offset that was in order stays.

**Theorem (`source_keepsRow`).** After a frame, the current line is in view, and it is on the row
that the pane keeps unless an end of the source is in the way.

**Theorem (`draw_settles`).** A frame changes nothing but the offsets and the row, and the same
frame drawn again changes nothing at all.

**Bounds.** Both corrections of an offset are bounds on it (`showRow_eq`, `clampOffset_eq`). The
token list is first scrolled to its current row and then back to its last full page. A row of the
list that is in view stays so when the list goes back (`inView_clampOffset`), so the second
correction never undoes the first.
-/

namespace MiniC

open Screen

/-! ## Offsets -/

theorem clampOffset_eq (offset total page : Nat) :
    clampOffset offset total page = min offset (total - page) := by
  rw [clampOffset]
  split <;> omega

theorem showRow_eq (offset i : Nat) {page : Nat} (h : 0 < page) :
    showRow offset i page = max (min offset i) (i + 1 - page) := by
  rw [showRow]
  split_ifs <;> omega

theorem clampOffset_le (offset total page : Nat) : clampOffset offset total page ≤ total - page := by
  rw [clampOffset_eq]
  exact Nat.min_le_right _ _

theorem clampOffset_of_le {offset total page : Nat} (h : offset ≤ total - page) :
    clampOffset offset total page = offset := by
  rw [clampOffset_eq, Nat.min_eq_left h]

/-- A page from `offset` on shows row `i`. -/
structure InView (offset page i : Nat) : Prop where
  le : offset ≤ i
  lt : i < offset + page

section InView

variable {offset total page i : Nat}

theorem inView_showRow (offset i : Nat) (h : 0 < page) : InView (showRow offset i page) page i := by
  rw [showRow_eq offset i h]
  constructor <;> omega

theorem showRow_of_inView (h : InView offset page i) : showRow offset i page = offset := by
  rw [showRow, if_neg (Nat.not_lt.2 h.le), if_neg (Nat.not_le.2 h.lt)]

/-- Going back to the last full page loses no row. -/
theorem inView_clampOffset (h : InView offset page i) (hi : i < total) :
    InView (clampOffset offset total page) page i := by
  obtain ⟨hle, hlt⟩ := h
  rw [clampOffset_eq]
  constructor <;> omega

end InView

/-- Showing a row and filling the last page is settled at once, also where they are at odds. -/
theorem clampOffset_showRow_idem (offset i total : Nat) {page : Nat} (h : 0 < page) :
    let settled := clampOffset (showRow offset i page) total page
    clampOffset (showRow settled i page) total page = settled := by
  simp only [clampOffset_eq, showRow_eq _ _ h]
  omega

/-! ## Pages -/

section Pages

variable {α : Type} (rows : List α) {offset page i : Nat}

theorem getElem?_page (h : InView offset page i) :
    ((rows.zipIdx.drop offset).take page)[i - offset]? = rows[i]?.map (·, i) := by
  obtain ⟨hle, hlt⟩ := h
  rw [List.getElem?_take_of_lt (by omega), List.getElem?_drop, Nat.add_sub_cancel' hle,
    List.getElem?_zipIdx, Nat.zero_add]

theorem length_page (h : offset ≤ rows.length - page) :
    ((rows.zipIdx.drop offset).take page).length = min page rows.length := by
  rw [List.length_take, List.length_drop, List.length_zipIdx]
  omega

end Pages

theorem pageSize_pos (a : Area) : 0 < pageSize a := Nat.le_max_right _ _

namespace Stepper

variable (s : Stepper) {page : Nat}

/-! ## The token list -/

theorem settleTokens_le : s.settleTokens page ≤ s.recording.size - page := clampOffset_le _ _ _

theorem inView_settleTokens (hpage : 0 < page) (hfollowing : s.view.following = true)
    (hposition : s.position < s.recording.size) :
    InView (s.settleTokens page) page s.position := by
  rw [settleTokens, if_pos hfollowing]
  exact inView_clampOffset (inView_showRow _ _ hpage) hposition

theorem settleTokens_eq_self (hview : InView s.view.tokens page s.position)
    (hfull : s.view.tokens ≤ s.recording.size - page) : s.settleTokens page = s.view.tokens := by
  rw [settleTokens, showRow_of_inView hview, ite_self, clampOffset_of_le hfull]

/-- The row of the current token is the one that is marked. -/
theorem getElem?_tokenContent (hview : InView s.view.tokens page s.position) :
    (s.tokenContent page)[s.position - s.view.tokens]? = (s.recording.get? s.position).map
      fun step => (({} : Style).on Palette.currentLine, s.tokenLine s.position step) := by
  rw [tokenContent, List.getElem?_map, getElem?_page _ hview, Option.map_map, Recording.get?]
  congr 1
  funext step
  exact congrArg (·, _) (if_pos rfl)

theorem length_tokenContent (hfull : s.view.tokens ≤ s.recording.size - page) :
    (s.tokenContent page).length = min page s.recording.size := by
  rw [tokenContent, List.length_map]
  exact length_page _ hfull

end Stepper

/-- **The current token stays in view.** After a frame of any layout, and so of any size, a token
list that follows the current token shows it in the row that is marked. In any case the list fills
its page, as far as there are tokens. An offset at which both held already is kept. -/
theorem tokens_inView (source : String) (inputs : List Input) (l : Layout) (c : Canvas) :
    let s := (Stepper.ofText source).after inputs
    let s' := (s.drawOn l c).2
    let page := pageSize l.tokens
    let full := s'.recording.size - page
    (s'.view.following = true → InView s'.view.tokens page s'.position ∧
      ∃ step, s'.recording.get? s'.position = some step ∧
        (s'.tokenContent page)[s'.position - s'.view.tokens]? =
          some (({} : Style).on Palette.currentLine, s'.tokenLine s'.position step)) ∧
    s'.view.tokens ≤ full ∧ (s'.tokenContent page).length = min page s'.recording.size ∧
    (InView s.view.tokens page s.position → s.view.tokens ≤ full →
      s'.view.tokens = s.view.tokens) := by
  intro s s' page full
  have hpage : 0 < page := pageSize_pos _
  have hfollows : s.Follows source := (Stepper.Follows.init source).after inputs
  have hfull : s'.view.tokens ≤ full := s.settleTokens_le
  refine ⟨?_, hfull, s'.length_tokenContent hfull, fun hview => s.settleTokens_eq_self hview⟩
  intro hfollowing
  have hview : InView s'.view.tokens page s'.position :=
    s.inView_settleTokens hpage hfollowing hfollows.position_lt
  obtain ⟨step, hstep⟩ := Option.isSome_iff_exists.1 hfollows.isSome_get?
  refine ⟨hview, step, hstep, ?_⟩
  rw [s'.getElem?_tokenContent hview, show s'.recording.get? s'.position = some step from hstep]
  rfl

/-- The list is scrolled far past its end. A step follows the token again, and the second, lower
frame has nothing left to correct. -/
theorem tokens_inView_scrolled :
    let inputs := .key false .tab :: List.replicate 9 (.key false .down) ++ [.key false .right]
    let s := (Stepper.ofText "int x;").after (inputs ++ [.frame 40 10])
    let s' := (s.draw 40 8).2
    pageSize (Layout.ofSize 40 8).tokens = 3 ∧ s'.view.following = true ∧
      InView s'.view.tokens 3 s'.position ∧
      InView s.view.tokens 3 s.position ∧ s.view.tokens ≤ s'.recording.size - 3 ∧
      s'.view.tokens = s.view.tokens := by
  intro inputs s s'
  obtain ⟨hfollowing, -, -, hkeeps⟩ :=
    tokens_inView "int x;" (inputs ++ [.frame 40 10]) (.ofSize 40 8) (.blank 40 8)
  -- The frames themselves, which nothing here depends on, are not computed.
  have hs : s = ((Stepper.ofText "int x;").after inputs).settle (.ofSize 40 10) := rfl
  have htokens : s.view.tokens = 0 := by rw [hs]; cbv
  have hposition : s.position = 1 := by rw [hs]; cbv
  have hfollow : s.view.following = true := by rw [hs]; cbv
  have hview : InView s.view.tokens 3 s.position := by
    rw [htokens, hposition]
    constructor <;> decide
  have hfull : s.view.tokens ≤ s'.recording.size - 3 := htokens.trans_le (Nat.zero_le _)
  exact ⟨rfl, hfollow, (hfollowing hfollow).1, hview, hfull, hkeeps hview hfull⟩

/-! ## The current line -/

namespace Stepper

variable (s : Stepper) {page : Nat}

/-- A row that is on the page is kept. -/
theorem settleSource_row {row : Nat} (hrow : row < page) (h : s.view.source.row = some row) :
    (s.settleSource page).row = some row := by
  rw [settleSource, h]
  exact congrArg some (Nat.min_eq_left (Nat.le_sub_one_of_lt hrow))

theorem row_settleSource_lt (hpage : 0 < page) :
    ∃ row, (s.settleSource page).row = some row ∧ row < page :=
  ⟨_, rfl, (Nat.min_le_right _ _).trans_lt (Nat.sub_one_lt_of_lt hpage)⟩

theorem settleSource_offset {row : Nat} (hrow : (s.settleSource page).row = some row)
    (hpos : 1 ≤ s.currentLine) (hle : s.currentLine ≤ s.sourceLines.length) :
    (s.settleSource page).offset =
      clampOffset (s.currentLine - 1 - row) s.sourceLines.length page := by
  obtain rfl : _ = row := Option.some_inj.1 hrow
  exact if_pos ⟨hpos, hle⟩

theorem settleSource_offset_of_not
    (h : ¬(1 ≤ s.currentLine ∧ s.currentLine ≤ s.sourceLines.length)) :
    (s.settleSource page).offset = s.view.source.offset :=
  if_neg h

theorem getElem?_sourceContent {i : Nat} (hview : InView s.view.source.offset page i) :
    (s.sourceContent page)[i - s.view.source.offset]? =
      s.sourceLines[i]?.map (s.sourceLine s.marks (i + 1)) := by
  rw [sourceContent, List.getElem?_map, getElem?_page _ hview, Option.map_map]
  rfl

end Stepper

/-- A line that is to be on `row` is in view after the offset is clamped. It is on another row only
if an end of the text is in the way. -/
theorem clampOffset_keepsRow {i row total page : Nat} (hrow : row < page) (hi : i < total) :
    let offset := clampOffset (i - row) total page
    InView offset page i ∧ (i = offset + row ∨ i < offset + row ∧ offset = 0 ∨
      offset + row < i ∧ offset = total - page) := by
  have hview : InView (i - row) page i := by constructor <;> omega
  refine ⟨inView_clampOffset hview hi, ?_⟩
  rw [clampOffset_eq]
  omega

/-- **The current line keeps its row.** After a frame of any layout, the source pane has a row on
its page to keep to, which is the one from before if that is still on the page. If the current token
starts on a line of the source, that line is shown, and on this row. At the start of the text it
may be above the row, and on the last full page below it. -/
theorem source_keepsRow (source : String) (inputs : List Input) (l : Layout) (c : Canvas) :
    let s := (Stepper.ofText source).after inputs
    let s' := (s.drawOn l c).2
    let page := pageSize l.source
    let offset := s'.view.source.offset
    let line := s'.currentLine
    let total := s'.sourceLines.length
    ∃ row < page, s'.view.source.row = some row ∧
      (∀ row' < page, s.view.source.row = some row' → row = row') ∧
      (1 ≤ line → line ≤ total → InView offset page (line - 1) ∧
        (line - 1 = offset + row ∨ line - 1 < offset + row ∧ offset = 0 ∨
          offset + row < line - 1 ∧ offset = total - page) ∧
        ∃ text, s'.sourceLines[line - 1]? = some text ∧
          (s'.sourceContent page)[line - 1 - offset]? =
            some (s'.sourceLine s'.marks line text)) := by
  intro s s' page offset line total
  obtain ⟨row, hrow, hlt⟩ := s.row_settleSource_lt (pageSize_pos l.source)
  refine ⟨row, hlt, hrow, ?_, ?_⟩
  · intro row' hlt' hrow'
    exact Option.some_inj.1 (hrow.symm.trans (s.settleSource_row hlt' hrow'))
  · intro hpos hle
    have hoffset : offset = clampOffset (line - 1 - row) total page :=
      s.settleSource_offset hrow hpos hle
    have hline : line - 1 < total := by omega
    obtain ⟨hview, hends⟩ := clampOffset_keepsRow hlt hline
    rw [← hoffset] at hview hends
    refine ⟨hview, hends, _, List.getElem?_eq_getElem hline, ?_⟩
    rw [s'.getElem?_sourceContent hview, List.getElem?_eq_getElem hline, Nat.sub_add_cancel hpos]
    rfl

/-- The current line is moved down to the last row. A lower frame keeps it on the last row it has,
and there it stays when the stepper moves on. -/
theorem source_keepsRow_moved :
    let source := "int\nx\n;\n"
    let inputs := [.frame 40 6, .key false .up, .key false .up, .frame 40 5, .key false (.char '2')]
    let s := (Stepper.ofText source).after inputs
    let s' := (s.draw 40 5).2
    pageSize (Layout.ofSize 40 5).source = 2 ∧ s.view.source.row = some 1 ∧
      s'.view.source.row = some 1 ∧ s'.currentLine = 3 ∧ s'.sourceLines.length = 3 ∧
      InView s'.view.source.offset 2 2 ∧ 2 = s'.view.source.offset + 1 := by
  intro source inputs s s'
  have hs : s = ((((Stepper.ofText source).settle (.ofSize 40 6)).press false .up).press false
      .up |>.settle (.ofSize 40 5)).press false (.char '2') := rfl
  have hbefore : s.view.source.row = some 1 := by rw [hs]; cbv
  have hcurrent : s'.currentLine = 3 := by
    show s.currentLine = 3
    rw [hs]
    cbv
  have htotal : s'.sourceLines.length = 3 := by
    show s.sourceLines.length = 3
    rw [hs]
    cbv
  obtain ⟨row, -, hrow, hkeeps, hline⟩ := source_keepsRow source inputs (.ofSize 40 5) (.blank 40 5)
  obtain rfl : row = 1 := hkeeps 1 (by decide) hbefore
  obtain ⟨hview, hends, -⟩ := hline (hcurrent.ge.trans' (by decide)) (hcurrent.trans htotal.symm).le
  have hends' : s'.currentLine - 1 = s'.view.source.offset + 1 ∨
      s'.currentLine - 1 < s'.view.source.offset + 1 ∧ s'.view.source.offset = 0 ∨
      s'.view.source.offset + 1 < s'.currentLine - 1 ∧
        s'.view.source.offset = s'.sourceLines.length - 2 := hends
  have hview' : InView s'.view.source.offset 2 (s'.currentLine - 1) := hview
  rw [hcurrent] at hview'
  exact ⟨rfl, hbefore, hrow, hcurrent, htotal, hview', by omega⟩

/-! ## Drawing again -/

namespace Stepper

variable (s : Stepper) (l : Layout)

/-- The stepper with its panes scrolled as those of `v`. -/
def scrolledAs (v : View) : Stepper :=
  { s with view :=
      { s.view with source := v.source, tokens := v.tokens, diagnostics := v.diagnostics } }

theorem settleSource_settle :
    (s.settle l).settleSource (pageSize l.source) = s.settleSource (pageSize l.source) := by
  obtain ⟨row, hrow, hlt⟩ := s.row_settleSource_lt (pageSize_pos l.source)
  have hrow' : ((s.settle l).settleSource (pageSize l.source)).row = some row :=
    (s.settle l).settleSource_row hlt hrow
  by_cases hline : 0 < s.currentLine ∧ s.currentLine ≤ s.sourceLines.length
  · have hoffset := s.settleSource_offset hrow hline.1 hline.2
    have hoffset' := (s.settle l).settleSource_offset hrow' hline.1 hline.2
    exact congrArg₂ SourceScroll.mk (hoffset'.trans hoffset.symm) (hrow'.trans hrow.symm)
  · have hoffset' : ((s.settle l).settleSource (pageSize l.source)).offset = _ :=
      (s.settle l).settleSource_offset_of_not hline
    exact congrArg₂ SourceScroll.mk hoffset' (hrow'.trans hrow.symm)

theorem settleTokens_settle :
    (s.settle l).settleTokens (pageSize l.tokens) = s.settleTokens (pageSize l.tokens) := by
  have hpage := pageSize_pos l.tokens
  rw [settleTokens, settleTokens]
  show clampOffset (if s.view.following then showRow (s.settleTokens _) s.position _
    else s.settleTokens _) s.recording.size _ = _
  rw [settleTokens]
  cases s.view.following with
  | true => exact clampOffset_showRow_idem _ _ _ hpage
  | false => exact clampOffset_of_le (clampOffset_le _ _ _)

theorem settleDiagnostics_settle :
    (s.settle l).settleDiagnostics (pageSize l.diagnostics) =
      s.settleDiagnostics (pageSize l.diagnostics) := by
  rw [settleDiagnostics, settleDiagnostics]
  show (if s.diagnosticContent.length = 0 then s.settleDiagnostics _
    else clampOffset (s.settleDiagnostics _) s.diagnosticContent.length _) = _
  rw [settleDiagnostics]
  split_ifs
  · rfl
  · exact clampOffset_of_le (clampOffset_le _ _ _)

theorem settle_settle : (s.settle l).settle l = s.settle l := by
  rw [settle, settleSource_settle, settleTokens_settle, settleDiagnostics_settle]
  rfl

end Stepper

/-- **Drawing settles.** A frame changes nothing but how far the panes are scrolled. Drawn again in
the same layout, it is the same frame in every cell, and it leaves the same stepper. -/
theorem draw_settles (s : Stepper) (l : Layout) (c : Canvas) :
    let s' := (s.drawOn l c).2
    s' = s.scrolledAs s'.view ∧ (s'.drawOn l c).2 = s' ∧ (s'.drawOn l c).1 = (s.drawOn l c).1 := by
  intro s'
  have hsettle : s'.settle l = s' := s.settle_settle l
  refine ⟨rfl, hsettle, ?_⟩
  exact congrArg (Stepper.frameOn · l c) hsettle

end MiniC
