import MiniC.Proofs.Session
import MiniC.Proofs.Tiling

/-!
# Drawing stays in range

A frame is computed with words of 64 bits and with slices of lines. Here each operation that can
leave its range is checked: a sum must fit in a word, nothing is taken from less, a clamp has its
bounds in order, and a slice lies within its line. The checked functions follow the functions that
draw, and give nothing where a check fails.

**Theorem (`session_inRange`).** After every session the stepper stands at a token. If the source
fits in memory, each frame can be drawn with all checks, and this changes nothing. Of the layout of
a frame only the height of the token list matters, which is a word of 16 bits on every screen.

**Scrolling.** How far the panes were scrolled does not matter: an offset is only added to where it
is at most the position (`showRow?_eq`). The position is bounded by the tokens and thereby by the
characters of the source (`Cursor.length_steps_le`), the lines are as well (`length_lines_le`), and
a page by the height of its pane.

**Highlighting.** The column that a line is shown up to never passes its end, so it bounds what is
cut next (`Highlight.cut?_eq`). This holds for any tokens, whether or not they are of the line.
-/

namespace MiniC

open Screen

/-! ## Checked operations -/

namespace Checked

def add? (a b : Nat) : Option Nat := if a + b < UInt64.size then some (a + b) else none

def sub? (a b : Nat) : Option Nat := if b ≤ a then some (a - b) else none

/-- The number nearest to `n` between two bounds. -/
def clamp? (n low high : Nat) : Option Nat :=
  if low ≤ high then some (max low (min n high)) else none

/-- The characters from index `start` up to index `stop`. -/
def slice? (cs : List Char) (start stop : Nat) : Option (List Char) :=
  if start ≤ stop ∧ stop ≤ cs.length then some (cs.extract start stop) else none

theorem add?_eq {a b : Nat} (h : a + b < UInt64.size) : add? a b = some (a + b) := if_pos h

theorem sub?_eq {a b : Nat} (h : b ≤ a) : sub? a b = some (a - b) := if_pos h

theorem clamp?_eq {n low high : Nat} (h : low ≤ high) :
    clamp? n low high = some (max low (min n high)) := if_pos h

theorem slice?_eq {cs : List Char} {start stop : Nat} (h : start ≤ stop)
    (hstop : stop ≤ cs.length) : slice? cs start stop = some (cs.extract start stop) :=
  if_pos ⟨h, hstop⟩

end Checked

open Checked

/-! ## Highlighting -/

namespace Highlight

/-- The dimmed fragment between two columns, if there is any. -/
def gap? (cs : List Char) (column start : Nat) : Option Line :=
  if column < start then (slice? cs column start).map fun text => [⟨text, gapStyle⟩] else some []

/-- The column up to which a token that starts at `start` goes on line `n`, which has `length`
characters. -/
def stop? (n length start : Nat) (t : Token) : Option Nat :=
  if t.span.stop.line = n then clamp? (t.span.stop.column - 1) start length else some length

/-- The fragments of a line after its first `column` characters. -/
def cut? (n : Nat) (current : Option Span) (cs : List Char) (column : Nat) :
    List Token → Option Line
  | [] => gap? cs column cs.length
  | t :: tokens => do
    let start ← clamp? (t.span.start.column - 1) column cs.length
    let stop ← stop? n cs.length start t
    let before ← gap? cs column start
    let text ← slice? cs start stop
    let rest ← cut? n current cs stop tokens
    return before ++ ⟨text, t.highlight current⟩ :: rest

def line? (text : List Char) (n : Nat) (tokens : List Token) (current : Option Span) :
    Option Line :=
  cut? n current (text.map showChar) 0 (tokens.filter (startsOn n))

theorem length_extract {cs : List Char} {column start : Nat} (h : start ≤ cs.length) :
    (cs.extract column start).length = start - column := by
  rw [List.extract_eq_take_drop, List.length_take, List.length_drop]
  omega

theorem extract_length (cs : List Char) (column : Nat) :
    cs.extract column cs.length = cs.drop column := by
  rw [List.extract_eq_take_drop, ← List.length_drop, List.take_length]

theorem gap?_eq {cs : List Char} {column start : Nat} (h : column ≤ start)
    (hstart : start ≤ cs.length) : gap? cs column start = some (gap (cs.extract column start)) := by
  have hempty : (cs.extract column start).isEmpty ↔ ¬column < start := by
    rw [List.isEmpty_iff_length_eq_zero, length_extract hstart]
    omega
  by_cases hlt : column < start
  · rw [gap?, if_pos hlt, slice?_eq h hstart, gap, if_neg (by rw [hempty]; simpa using hlt)]
    rfl
  · rw [gap?, if_neg hlt, gap, if_pos (hempty.2 hlt)]

/-- A clamped column stays within the line, after the column before it. -/
theorem clamp?_spec (cs : List Char) (n : Nat) {column : Nat} (h : column ≤ cs.length) :
    ∃ start, clamp? n column cs.length = some start ∧ column ≤ start ∧ start ≤ cs.length ∧
      (cs.drop column).take (n - column) = cs.extract column start := by
  refine ⟨_, clamp?_eq h, by omega, by omega, ?_⟩
  rw [List.extract_eq_take_drop, List.take_eq_take_iff, List.length_drop]
  omega

theorem stop?_spec (n : Nat) (cs : List Char) (t : Token) {start : Nat} (h : start ≤ cs.length) :
    ∃ stop, stop? n cs.length start t = some stop ∧ start ≤ stop ∧ stop ≤ cs.length ∧
      (if t.span.stop.line = n then (cs.drop start).take (t.span.stop.column - 1 - start)
        else cs.drop start) = cs.extract start stop := by
  by_cases hline : t.span.stop.line = n
  · rw [stop?, if_pos hline, if_pos hline]
    exact clamp?_spec cs _ h
  · rw [stop?, if_neg hline, if_neg hline]
    exact ⟨_, rfl, h, le_rfl, (extract_length cs start).symm⟩

/-- **One token of a cut.** It goes on from where the line was cut before, within the line. -/
theorem cut_cons (n : Nat) (current : Option Span) {cs : List Char} {column : Nat}
    (h : column ≤ cs.length) (t : Token) (tokens : List Token) :
    ∃ start stop, clamp? (t.span.start.column - 1) column cs.length = some start ∧
      stop? n cs.length start t = some stop ∧
      column ≤ start ∧ start ≤ stop ∧ stop ≤ cs.length ∧
      cut n current column (cs.drop column) (t :: tokens) =
        gap (cs.extract column start) ++ ⟨cs.extract start stop, t.highlight current⟩ ::
          cut n current stop (cs.drop stop) tokens := by
  obtain ⟨start, hstart, hcolumn, hlength, hbefore⟩ := clamp?_spec cs (t.span.start.column - 1) h
  obtain ⟨stop, hstop, hle, hend, htext⟩ := stop?_spec n cs t hlength
  -- What is left of the line is always what follows the column.
  have hstart' : column + (start - column) = start := Nat.add_sub_cancel' hcolumn
  have hstop' : start + (stop - start) = stop := Nat.add_sub_cancel' hle
  refine ⟨start, stop, hstart, hstop, hcolumn, hle, hend, ?_⟩
  rw [cut]
  simp only [hbefore, length_extract hlength, List.drop_drop, hstart', htext,
    length_extract hend, hstop']

/-- Every slice lies within the line, and together they are the fragments of the line. -/
theorem cut?_eq (n : Nat) (current : Option Span) (cs : List Char) {column : Nat}
    (h : column ≤ cs.length) (tokens : List Token) :
    cut? n current cs column tokens = some (cut n current column (cs.drop column) tokens) := by
  induction tokens generalizing column with
  | nil => rw [cut?, cut, gap?_eq h le_rfl, extract_length]
  | cons t tokens ih =>
    obtain ⟨start, stop, hstart, hstop, hcolumn, hle, hend, hcut⟩ :=
      cut_cons n current h t tokens
    rw [cut?, hcut]
    simp only [Option.bind_eq_bind, Option.bind_some, hstart, hstop,
      gap?_eq hcolumn (hle.trans hend), slice?_eq hle hend, ih hend]
    rfl

theorem line?_eq (text : List Char) (n : Nat) (tokens : List Token) (current : Option Span) :
    line? text n tokens current = some (line text n tokens current) :=
  cut?_eq n current _ (Nat.zero_le _) _

end Highlight

/-! ## Offsets -/

def clampOffset? (offset total page : Nat) : Option Nat :=
  if page < total then (sub? total page).map (min offset) else some 0

def showRow? (offset i page : Nat) : Option Nat :=
  if i < offset then some i
  else do
    let stop ← add? offset page
    if stop ≤ i then sub? (← add? i 1) page else return offset

theorem clampOffset?_eq (offset total page : Nat) :
    clampOffset? offset total page = some (clampOffset offset total page) := by
  rw [clampOffset?, clampOffset]
  split
  · next h => rw [sub?_eq h.le, Option.map_some]
  · rfl

/-- The offset is only added to where it is at most the row. -/
theorem showRow?_eq (offset : Nat) {i page : Nat} (hpage : 0 < page) (h : i + page < UInt64.size) :
    showRow? offset i page = some (showRow offset i page) := by
  rw [showRow?, showRow]
  by_cases hlt : i < offset
  · rw [if_pos hlt, if_pos hlt]
  · rw [if_neg hlt, if_neg hlt, add?_eq (by omega), Option.bind_eq_bind, Option.bind_some]
    by_cases hstop : offset + page ≤ i
    · rw [if_pos hstop, if_pos hstop, add?_eq (by omega), Option.bind_some, sub?_eq (by omega)]
    · rw [if_neg hstop, if_neg hstop]
      rfl

namespace Stepper

def settleSource? (s : Stepper) (page : Nat) : Option SourceScroll := do
  let row := min (s.view.source.row.getD (page / 2)) (page - 1)
  let total := s.sourceLines.length
  let line := s.currentLine
  let offset ← if 0 < line ∧ line ≤ total then do
      clampOffset? ((← sub? line 1) - row) total page
    else some s.view.source.offset
  return { offset, row := some row }

def settleTokens? (s : Stepper) (page : Nat) : Option Nat := do
  let offset ← if s.view.following then showRow? s.view.tokens s.position page
    else some s.view.tokens
  clampOffset? offset s.recording.size page

def settleDiagnostics? (s : Stepper) (page : Nat) : Option Nat :=
  let total := s.diagnosticContent.length
  if total = 0 then some s.view.diagnostics else clampOffset? s.view.diagnostics total page

def settle? (s : Stepper) (l : Layout) : Option Stepper := do
  let source ← s.settleSource? (pageSize l.source)
  let tokens ← s.settleTokens? (pageSize l.tokens)
  let diagnostics ← s.settleDiagnostics? (pageSize l.diagnostics)
  return { s with view := { s.view with source, tokens, diagnostics } }

theorem settleSource?_eq (s : Stepper) (page : Nat) :
    s.settleSource? page = some (s.settleSource page) := by
  rw [settleSource?, settleSource]
  split
  · next h =>
    simp only [Option.bind_eq_bind, sub?_eq h.1, Option.bind_some, clampOffset?_eq]
    rfl
  · rfl

theorem settleTokens?_eq (s : Stepper) {page : Nat} (hpage : 0 < page)
    (h : s.position + page < UInt64.size) : s.settleTokens? page = some (s.settleTokens page) := by
  rw [settleTokens?, settleTokens, showRow?_eq _ hpage h]
  split <;> exact clampOffset?_eq _ _ _

theorem settleDiagnostics?_eq (s : Stepper) (page : Nat) :
    s.settleDiagnostics? page = some (s.settleDiagnostics page) := by
  rw [settleDiagnostics?, settleDiagnostics]
  split
  · rfl
  · exact clampOffset?_eq _ _ _

theorem settle?_eq (s : Stepper) {l : Layout} (h : s.position + pageSize l.tokens < UInt64.size) :
    s.settle? l = some (s.settle l) := by
  have hpage : 0 < pageSize l.tokens := Nat.le_max_right _ _
  rw [settle?, settleSource?_eq, settleTokens?_eq s hpage h, settleDiagnostics?_eq]
  rfl

/-! ## Lines of the source -/

theorem mapM_eq_some {α β : Type} {f : α → Option β} {g : α → β} {l : List α}
    (h : ∀ a ∈ l, f a = some (g a)) : l.mapM f = some (l.map g) := by
  induction l with
  | nil => rfl
  | cons a l ih =>
    rw [List.forall_mem_cons] at h
    rw [List.mapM_cons, h.1, ih h.2]
    rfl

def sourceLine? (s : Stepper) (m : Marks) (i : Nat) (text : List Char) : Option Line := do
  let n ← add? i 1
  let fragments ← Highlight.line? text n s.recording.tokens s.currentSpan?
  return .ofString (padLeft 4 (toString n) ++ " ") (m.numberStyle n) ::
    fragments.map fun f => { f with style := m.textStyle n f.style }

def sourceContent? (s : Stepper) (count : Nat) : Option (List Line) :=
  let m := s.marks
  ((s.sourceLines.zipIdx.drop s.view.source.offset).take count).mapM fun (text, i) =>
    s.sourceLine? m i text

theorem sourceLine?_eq (s : Stepper) (m : Marks) {i : Nat} (text : List Char)
    (h : i + 1 < UInt64.size) : s.sourceLine? m i text = some (s.sourceLine m (i + 1) text) := by
  rw [sourceLine?, add?_eq h, Option.bind_eq_bind, Option.bind_some, Highlight.line?_eq]
  rfl

theorem sourceContent?_eq (s : Stepper) (count : Nat) (h : s.sourceLines.length < UInt64.size) :
    s.sourceContent? count = some (s.sourceContent count) := by
  apply mapM_eq_some
  intro ⟨text, i⟩ hmem
  have hzip := List.mem_of_mem_drop (List.mem_of_mem_take hmem)
  have hlt : i < s.sourceLines.length := (List.mem_zipIdx' hzip).1
  exact s.sourceLine?_eq _ text (by omega)

end Stepper

/-! ## What fits in memory -/

theorem length_le_utf8ByteSize (source : String) : source.toList.length ≤ source.utf8ByteSize := by
  have hlen : ∀ cs : List Char, cs.length ≤ String.utf8Len cs := by
    intro cs
    induction cs with
    | nil => exact le_rfl
    | cons c cs ih =>
      have hpos := c.utf8Size_pos
      rw [List.length_cons, String.utf8Len_cons]
      omega
  have hbytes := hlen source.toList
  rwa [← String.utf8ByteSize_ofList, String.ofList_toList] at hbytes

theorem length_lines_le (cs : List Char) : (lines cs).length ≤ cs.length := by
  fun_induction lines cs with
  | case1 => exact le_rfl
  | case2 c cs line h => exact Nat.succ_le_succ (Nat.zero_le _)
  | case3 c cs line x rest h ih =>
    have hle := List.length_dropWhile_le (· != '\n') (c :: cs)
    rw [h, List.length_cons] at hle
    rw [List.length_cons]
    omega

theorem size_ofText_le (source : String) :
    (Recording.ofText source).size ≤ source.toList.length + 1 := by
  have hrest : (Cursor.ofText source).rest = readable source := (readable_eq_takeWhile source).symm
  have hsteps := (Cursor.ofText source).length_steps_le
  have hle : (readable source).length ≤ source.toList.length := List.length_take_le' _ _
  rw [hrest] at hsteps
  exact hsteps.trans (Nat.succ_le_succ hle)

/-- No part of a screen has more rows than the screen. -/
theorem height_tokens_lt (width height : UInt16) :
    (Layout.ofSize width.toNat height.toNat).tokens.height < 2 ^ 16 := by
  have hheight := height.toNat_lt
  show (70 * (height.toNat - 1) + 50) / 100 < 2 ^ 16
  omega

/-! ## Frames -/

/-- **A frame in range.** The number that is told has not wrapped around, and with all checks the
panes are scrolled to the same offsets and the source pane has the same lines. -/
structure Stepper.DrawsInRange (s : Stepper) (l : Layout) : Prop where
  number : add? s.position 1 = some s.number
  settle : s.settle? l = some (s.settle l)
  content : (s.settle l).sourceContent? (pageSize l.source) =
    some ((s.settle l).sourceContent (pageSize l.source))

theorem Stepper.Follows.drawsInRange {s : Stepper} {source : String} (h : s.Follows source)
    (hmemory : source.utf8ByteSize < 2 ^ 63) {l : Layout} (hheight : l.tokens.height < 2 ^ 16) :
    s.DrawsInRange l := by
  have hpage : pageSize l.tokens < 2 ^ 16 := by
    rw [pageSize]
    omega
  have hchars := length_le_utf8ByteSize source
  have hsize : UInt64.size = 2 ^ 64 := rfl
  have hposition : s.position ≤ source.toList.length := by
    have hlt := h.position_lt
    have hle := size_ofText_le source
    rw [h.recording] at hlt
    omega
  have hlines : (s.settle l).sourceLines.length ≤ source.toList.length := by
    rw [(h.settle l).sourceLines_eq]
    exact length_lines_le _
  refine ⟨?_, s.settle?_eq (by omega), sourceContent?_eq _ _ (by omega)⟩
  rw [number, Nat.mod_eq_of_lt (by omega), add?_eq (by omega)]

/-- **Sessions stay in range.** After every session the stepper stands at a token, and if the source
fits in memory, nothing goes out of range in the frame that is drawn then. Of its layout it is
enough that the height of the token list is a word of 16 bits, and so it is on a screen of any
size. -/
theorem session_inRange (source : String) (inputs : List Input) :
    let s := (Stepper.ofText source).after inputs
    s.recording = .ofText source ∧ s.position ≤ s.recording.size - 1 ∧
      (s.recording.get? s.position).isSome ∧
      (source.utf8ByteSize < 2 ^ 63 →
        (∀ l : Layout, l.tokens.height < 2 ^ 16 → s.DrawsInRange l) ∧
        ∀ width height : UInt16, s.DrawsInRange (.ofSize width.toNat height.toNat)) := by
  intro s
  have h : s.Follows source := (Stepper.Follows.init source).after inputs
  refine ⟨h.recording, h.position, h.isSome_get?, ?_⟩
  intro hmemory
  refine ⟨fun l hheight => h.drawsInRange hmemory hheight, ?_⟩
  intro width height
  exact h.drawsInRange hmemory (height_tokens_lt width height)

/-- The token list is scrolled far past its end, and then the stepper goes to the last token: a
frame of no size at all can still be drawn, and so can one with the tallest token list. -/
theorem session_inRange_scrolled :
    let inputs := .key false .tab :: List.replicate 9 (.key false .down) ++ [.key false .enter]
    let s := (Stepper.ofText "int x;").after inputs
    let tall : Layout := { (default : Layout) with tokens := ⟨0, 0, 1, 65535⟩ }
    s.view.tokens = 9 ∧ s.position = 3 ∧ s.DrawsInRange (.ofSize 0 0) ∧ s.DrawsInRange tall := by
  intro inputs s tall
  obtain ⟨-, -, -, hdraws⟩ := session_inRange "int x;" inputs
  obtain ⟨hlayout, hscreen⟩ := hdraws (by decide)
  exact ⟨by cbv, by cbv, hscreen 0 0, hlayout tall (by decide)⟩

end MiniC
