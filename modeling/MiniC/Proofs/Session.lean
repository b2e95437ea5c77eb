import MiniC.Proofs.Steps
import MiniC.Stepper.Frame

/-!
# Sessions of the stepper

A session is a sequence of inputs: keys, turns of the clock, and frames. The panes of a frame may be
laid out in any way; on a screen they are where `Layout.ofSize` puts them (`Input.frame`).

**Invariant (`Stepper.Follows`).** Whatever comes in, the stepper keeps the recording and the source
it was made with, and stands at a token of the recording. Only moves along the tokens change the
position, and each of them is a jump to an index that is cut to the last one (`Follows.jumpTo`).
-/

namespace MiniC

open Screen

/-- What can happen to a stepper. -/
inductive Input where
  | key (held : Bool) (key : Key)
  | tick (due : Bool)
  | draw (layout : Layout) (canvas : Canvas)

/-- A frame on a screen. -/
def Input.frame (width height : UInt16) : Input :=
  .draw (.ofSize width.toNat height.toNat) (.blank width.toNat height.toNat)

namespace Stepper

/-- The stepper after one input. -/
def handle (s : Stepper) : Input → Stepper
  | .key held key => s.press held key
  | .tick due => s.tick due
  | .draw layout canvas => (s.drawOn layout canvas).2

theorem handle_frame (s : Stepper) (width height : UInt16) :
    s.handle (.frame width height) = (s.draw width.toNat height.toNat).2 := rfl

/-- The stepper after a session. -/
def after (s : Stepper) (inputs : List Input) : Stepper := inputs.foldl handle s

theorem eq_jumpTo_of_advance? {s s' : Stepper} (h : s.advance? = some s') :
    s' = s.jumpTo (s.position + 1) := by
  rw [advance?] at h
  split at h
  · cases h
  · exact (Option.some_inj.1 h).symm

/-- **The invariant.** The stepper shows `source`, and its position is an index of the recording. -/
structure Follows (s : Stepper) (source : String) : Prop where
  recording : s.recording = .ofText source
  source : s.source = source
  position : s.position ≤ s.last

namespace Follows

variable {s s' : Stepper} {source : String}

theorem init (source : String) : (ofText source).Follows source := ⟨rfl, rfl, Nat.zero_le _⟩

/-! ## One input -/

/-- Nothing else about the stepper matters. -/
theorem update (h : s.Follows source) (playing quitting : Bool) (message : String) (view : View) :
    Follows { s with playing, quitting, message, view } source :=
  ⟨h.recording, h.source, h.position⟩

theorem jumpTo (h : s.Follows source) (i : Nat) : (s.jumpTo i).Follows source :=
  ⟨h.recording, h.source, Nat.min_le_right _ _⟩

theorem advance? (h : s.Follows source) (hs : s.advance? = some s') : s'.Follows source :=
  eq_jumpTo_of_advance? hs ▸ h.jumpTo _

theorem advanceBy (h : s.Follows source) (n : Nat) : (s.advanceBy n).2.Follows source := by
  induction n generalizing s with
  | zero => exact h
  | succ n ih =>
    rw [Stepper.advanceBy]
    cases hs : s.advance? with
    | none => exact h
    | some s' => exact ih (h.advance? hs)

theorem pause (h : s.Follows source) : s.pause.Follows source := h.update ..

theorem stepForward (h : s.Follows source) : s.stepForward.Follows source := by
  rw [Stepper.stepForward]
  split
  · next s' hs => exact (h.advance? hs).update ..
  · exact h.update ..

theorem stepBackward (h : s.Follows source) : s.stepBackward.Follows source := by
  rw [Stepper.stepBackward]
  split
  · exact h.update ..
  · exact (h.jumpTo (s.position - 1)).update ..

theorem stepForwardBy (h : s.Follows source) (n : Nat) : (s.stepForwardBy n).Follows source :=
  (h.advanceBy n).update ..

theorem togglePlaying (h : s.Follows source) : s.togglePlaying.Follows source := by
  rw [Stepper.togglePlaying]
  split <;> exact h.update ..

theorem pressChar (h : s.Follows source) (held : Bool) (c : Char) :
    (s.pressChar held c).Follows source := by
  rw [Stepper.pressChar]
  split_ifs
  · exact h.update ..
  · exact h.pause.stepForwardBy _
  · exact h.togglePlaying
  · exact h

theorem press (h : s.Follows source) (held : Bool) (key : Key) :
    (s.press held key).Follows source := by
  cases key with
  | char c => exact h.pressChar held c
  | tab => exact h.update ..
  | left => exact h.pause.stepBackward
  | right => exact h.pause.stepForward
  | up => exact h.update ..
  | down => exact h.update ..
  | enter => exact (h.pause.jumpTo s.last).update ..
  | backspace => exact (h.pause.jumpTo 0).update ..
  | escape => exact h
  | backTab => exact h

theorem tick (h : s.Follows source) (due : Bool) : (s.tick due).Follows source := by
  rw [Stepper.tick]
  split
  · rw [Stepper.play]
    split
    · next s' hs => exact (h.advance? hs).update ..
    · exact h.update ..
  · exact h

theorem settle (h : s.Follows source) (l : Layout) : (s.settle l).Follows source :=
  h.update ..

theorem handle (h : s.Follows source) (input : Input) : (s.handle input).Follows source := by
  cases input with
  | key held key => exact h.press held key
  | tick due => exact h.tick due
  | draw layout canvas => exact h.settle layout

/-! ## Whole sessions -/

theorem after (h : s.Follows source) (inputs : List Input) : (s.after inputs).Follows source := by
  induction inputs generalizing s with
  | nil => exact h
  | cons input inputs ih => exact ih (h.handle input)

/-! ## At a token -/

theorem sourceLines_eq (h : s.Follows source) : s.sourceLines = lines source.toList := by
  rw [sourceLines, h.source]

theorem position_lt (h : s.Follows source) : s.position < s.recording.size := by
  have hpos : 0 < s.recording.size := by
    rw [h.recording]
    exact (Cursor.ofText source).length_steps_pos
  have hle : s.position ≤ s.recording.size - 1 := h.position
  omega

theorem isSome_get? (h : s.Follows source) : (s.recording.get? s.position).isSome := by
  rw [Recording.get?, List.getElem?_eq_getElem h.position_lt]
  rfl

end Follows

end Stepper

end MiniC
