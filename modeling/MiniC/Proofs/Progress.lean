import MiniC.Proofs.Passes
import MiniC.Proofs.Session

/-!
# Viewing never influences stepping

**The machine.** Of a stepper, `Progress` keeps where it stands, whether it plays, whether it quits
and what it says. `Progress.handle` tells how an input changes these four, from the tokens of the
source alone.

**Theorem (`session_progress`).** The progress of a stepper in any session is that of the machine.
So frames, scrolling, the focus and keys without a meaning can be left out of the session, as the
machine ignores them (`Progress.handle_of_not_steers`).

The step lemma is `Follows.progress_handle`. A digit is the only input that moves more than once:
where it leads is counted out in `advanceBy_eq`, and the same number of steps to the right leads to
the same stepper, apart from the message (`pressRight_iterate`).
-/

namespace MiniC

/-! ## Inputs -/

/-- The number that a digit other than zero stands for. -/
def digit? (c : Char) : Option Nat :=
  if '1' ≤ c ∧ c ≤ '9' then some (c.toNat - '0'.toNat) else none

/-- Whether a key has a meaning for the steps, and not only for the view or none at all. -/
def Key.steers : Key → Bool
  | .left | .right | .enter | .backspace => true
  | .char c => c = 'q' || c = 'Q' || c = ' ' || (digit? c).isSome
  | .tab | .up | .down | .escape | .backTab => false

def Input.steers : Input → Bool
  | .key _ k => k.steers
  | .tick _ => true
  | .draw _ _ => false

/-! ## The machine -/

/-- Where a stepper stands and what it is doing, apart from what it shows. -/
@[ext]
structure Progress where
  position : Nat := 0
  playing : Bool := false
  quitting : Bool := false
  message : String := "Ready!"
deriving DecidableEq

namespace Progress

variable (tokens : List Token) (p : Progress)

/-- The message of an action that leads to index `i`. -/
def arrival (action : String) (i : Nat) : String :=
  tokens[i]?.elim action fun t => s!"{action}: {t.render}"

/-- A key that moves along the tokens also ends playing. -/
def goTo (i : Nat) (message : String) : Progress :=
  { p with position := i, playing := false, message }

/-- One token on, and not past the last. -/
def right : Progress :=
  let last := tokens.length - 1
  p.goTo (min (p.position + 1) last) <|
    if p.position < last then arrival tokens "Stepped forward" (p.position + 1)
    else "Cannot step forward: at end of input"

/-- One token back, and not past the first. -/
def left : Progress :=
  p.goTo (p.position - 1) <|
    if p.position = 0 then "Cannot step backward: at first token"
    else arrival tokens "Stepped backward" (p.position - 1)

/-- As many tokens on as the digit says, or as there are. -/
def digit (d : Nat) : Progress :=
  let count := min d (tokens.length - 1 - p.position)
  p.goTo (p.position + count) s!"Stepped forward {count} token(s)"

def toggle : Progress :=
  { p with playing := !p.playing, message := if p.playing then "Paused" else "Playing..." }

/-- A token on while playing, or the end of playing after the last. -/
def play : Progress :=
  if p.position < tokens.length - 1 then
    { p with position := p.position + 1, message := "Playing..." }
  else { p with playing := false, message := "Playback complete" }

def press (held : Bool) : Key → Progress
  | .right => p.right tokens
  | .left => p.left tokens
  | .enter => p.goTo (tokens.length - 1) "Jumped to end"
  | .backspace => p.goTo 0 "Jumped to start"
  | .char c =>
    if c = 'q' ∨ c = 'Q' then { p with quitting := true }
    else if c = ' ' ∧ held = false then p.toggle
    else (digit? c).elim p (p.digit tokens)
  | .tab | .up | .down | .escape | .backTab => p

/-- The progress after one input. -/
def handle : Input → Progress
  | .key held key => p.press tokens held key
  | .tick due => if due ∧ p.playing ∧ p.quitting = false then p.play tokens else p
  | .draw _ _ => p

theorem handle_of_not_steers {input : Input} (h : input.steers = false) :
    p.handle tokens input = p := by
  cases input with
  | key held key =>
    cases key with
    | char c =>
      simp only [Input.steers, Key.steers, Bool.or_eq_false_iff, decide_eq_false_iff_not] at h
      obtain ⟨⟨⟨hq, hQ⟩, hblank⟩, hdigit⟩ := h
      have hnone : digit? c = none := by simpa using hdigit
      rw [handle, press, if_neg (by simp [hq, hQ]), if_neg (by simp [hblank]), hnone]
      rfl
    | tab | up | down | escape | backTab => rfl
    | left | right | enter | backspace => cases h
  | tick => cases h
  | draw => rfl

/-- What does not steer can be left out. -/
theorem foldl_filter_steers (inputs : List Input) :
    (inputs.filter Input.steers).foldl (handle tokens) p = inputs.foldl (handle tokens) p := by
  rw [List.foldl_filter]
  congr 1
  funext p input
  split
  · rfl
  · next h => exact (p.handle_of_not_steers tokens (Bool.not_eq_true _ ▸ h)).symm

end Progress

/-! ## Moving on -/

namespace Stepper

/-- The stepper after `count` moves to the next token. -/
def moveBy (s : Stepper) (count : Nat) : Stepper :=
  if count = 0 then s else s.jumpTo (s.position + count)

/-- The stepper with another message. -/
def saying (s : Stepper) (message : String) : Stepper := { s with message }

theorem last_moveBy (s : Stepper) (count : Nat) : (s.moveBy count).last = s.last := by
  rw [moveBy]
  split <;> rfl

theorem pause_moveBy (s : Stepper) (count : Nat) :
    (s.moveBy count).pause = s.pause.moveBy count := by
  rw [moveBy, moveBy]
  split <;> rfl

theorem moveBy_saying (s : Stepper) (message : String) (count : Nat) :
    (s.saying message).moveBy count = (s.moveBy count).saying message := by
  rw [moveBy, moveBy]
  split <;> rfl

theorem position_moveBy {s : Stepper} {count : Nat} (h : s.position + count ≤ s.last) :
    (s.moveBy count).position = s.position + count := by
  rw [moveBy]
  split
  · next hzero => rw [hzero, Nat.add_zero]
  · exact Nat.min_eq_left h

theorem moveBy_moveBy {s : Stepper} {k : Nat} (h : s.position + k ≤ s.last) (n : Nat) :
    (s.moveBy k).moveBy n = s.moveBy (k + n) := by
  by_cases hn : n = 0
  · rw [hn, moveBy, if_pos rfl, Nat.add_zero]
  by_cases hk : k = 0
  · rw [hk, Nat.zero_add]
    rfl
  · rw [moveBy, if_neg hn, position_moveBy h, moveBy, if_neg hk, moveBy, if_neg (by omega),
      Nat.add_assoc]
    rfl

theorem advance?_of_lt {s : Stepper} (h : s.position < s.last) :
    s.advance? = some (s.moveBy 1) :=
  if_neg (by simpa [atEnd] using h)

theorem advance?_of_le {s : Stepper} (h : s.last ≤ s.position) : s.advance? = none :=
  if_pos (by simpa [atEnd] using h)

/-- Moving on goes as far as it is told, or as there are tokens. -/
theorem advanceBy_eq {s : Stepper} (h : s.position ≤ s.last) (n : Nat) :
    s.advanceBy n = (min n (s.last - s.position), s.moveBy (min n (s.last - s.position))) := by
  induction n generalizing s with
  | zero => rw [Nat.zero_min]; rfl
  | succ n ih =>
    rw [advanceBy]
    rcases h.lt_or_eq with hlt | heq
    · have hposition : (s.moveBy 1).position = s.position + 1 := position_moveBy hlt
      have hlast : (s.moveBy 1).last = s.last := s.last_moveBy 1
      have hcount : min (n + 1) (s.last - s.position) =
          1 + min n (s.last - (s.position + 1)) := by omega
      rw [advance?_of_lt hlt, hcount, ← moveBy_moveBy hlt, Nat.add_comm 1]
      simp only [ih (by omega : (s.moveBy 1).position ≤ _), hposition, hlast]
    · rw [advance?_of_le heq.ge, heq, Nat.sub_self, Nat.min_zero]
      rfl

theorem stepForward_of_lt {s : Stepper} (h : s.position < s.last) :
    s.stepForward = (s.moveBy 1).saying ((s.moveBy 1).describe "Stepped forward") := by
  rw [stepForward, advance?_of_lt h]
  rfl

theorem stepForward_of_le {s : Stepper} (h : s.last ≤ s.position) :
    s.stepForward = s.saying "Cannot step forward: at end of input" := by
  rw [stepForward, advance?_of_le h]
  rfl

/-- A key to the right moves on by one, or by none at the end. -/
theorem pressRight_eq {s : Stepper} (h : s.position ≤ s.last) (held : Bool) :
    ∃ m, s.press held .right = (s.pause.moveBy (min 1 (s.last - s.position))).saying m := by
  rcases h.lt_or_eq with hlt | heq
  · rw [Nat.min_eq_left (by omega)]
    exact ⟨_, stepForward_of_lt (s := s.pause) hlt⟩
  · rw [heq, Nat.sub_self, Nat.min_zero]
    exact ⟨_, stepForward_of_le (s := s.pause) heq.ge⟩

/-- Keys to the right lead where as many moves lead. -/
theorem pressRight_iterate {s : Stepper} (h : s.position ≤ s.last) (held : Bool) (n : Nat) :
    ∃ m, (press · held .right)^[n + 1] s =
      (s.pause.moveBy (min (n + 1) (s.last - s.position))).saying m := by
  induction n with
  | zero => exact pressRight_eq h held
  | succ n ih =>
    obtain ⟨m, hm⟩ := ih
    rw [Function.iterate_succ_apply', hm]
    set k := min (n + 1) (s.last - s.position) with hk
    have hle : s.pause.position + k ≤ s.pause.last := show s.position + k ≤ s.last by omega
    have hposition : ((s.pause.moveBy k).saying m).position = s.position + k := position_moveBy hle
    have hlast : ((s.pause.moveBy k).saying m).last = s.last := last_moveBy s.pause k
    have hpause : ((s.pause.moveBy k).saying m).pause = (s.pause.moveBy k).saying m :=
      congrArg (·.saying m) (s.pause.pause_moveBy k)
    have hcount : k + min 1 (s.last - (s.position + k)) =
        min (n + 1 + 1) (s.last - s.position) := by omega
    obtain ⟨m', hm'⟩ := pressRight_eq (hposition.trans_le (hle.trans hlast.ge)) held
    refine ⟨m', ?_⟩
    rw [hm', hpause, moveBy_saying, hposition, hlast, moveBy_moveBy hle, hcount]
    rfl

end Stepper

/-! ## The progress of a stepper -/

theorem digit?_eq (c : Char) :
    digit? c = if c.isDigit && c ≠ '0' then some (c.toNat - '0'.toNat) else none := by
  have hiff : ('1' ≤ c ∧ c ≤ '9') ↔ (c.isDigit && c ≠ '0') = true := by
    have hne : c ≠ '0' ↔ c.toNat ≠ 48 := by
      rw [ne_eq, ← Char.toNat_inj]
      rfl
    rw [Bool.and_eq_true, decide_eq_true_eq, hne, Char.isDigit, Bool.and_eq_true,
      decide_eq_true_eq, decide_eq_true_eq]
    show 49 ≤ c.toNat ∧ c.toNat ≤ 57 ↔ (48 ≤ c.toNat ∧ c.toNat ≤ 57) ∧ c.toNat ≠ 48
    omega
  rw [digit?, if_congr hiff rfl rfl]

theorem digit?_pos {c : Char} {d : Nat} (h : digit? c = some d) : 0 < d := by
  rw [digit?] at h
  split at h
  · next hc =>
    cases h
    have hle : 49 ≤ c.toNat := hc.1
    show 0 < c.toNat - 48
    omega
  · cases h

namespace Stepper

def progress (s : Stepper) : Progress := ⟨s.position, s.playing, s.quitting, s.message⟩

theorem pressChar_digit (s : Stepper) (held : Bool) {c : Char} {d : Nat} (h : digit? c = some d) :
    s.pressChar held c = s.pause.stepForwardBy d := by
  rw [digit?_eq] at h
  split at h
  · next hdigit =>
    cases h
    have hquit : ¬(c = 'q' || c = 'Q') = true := by
      rw [Bool.or_eq_true, decide_eq_true_eq, decide_eq_true_eq]
      rintro (rfl | rfl) <;> exact absurd hdigit (by decide)
    rw [pressChar, if_neg hquit, if_pos hdigit]
  · cases h

theorem progress_toggle (s : Stepper) : s.togglePlaying.progress = s.progress.toggle := by
  have hplaying : s.progress.playing = s.playing := rfl
  rw [togglePlaying, Progress.toggle, hplaying]
  cases s.playing <;> rfl

namespace Follows

variable {s : Stepper} {source : String}

theorem tokens_eq (h : s.Follows source) : s.recording.tokens = (tokenize source).1 := by
  rw [h.recording, Recording.tokens_ofText]

theorem last_eq (h : s.Follows source) : s.last = (tokenize source).1.length - 1 := by
  rw [last, ← Recording.length_tokens, h.tokens_eq]

theorem describe_eq (h : s.Follows source) (action : String) :
    s.describe action = Progress.arrival (tokenize source).1 action s.position := by
  rw [describe, Progress.arrival, ← h.tokens_eq, Recording.tokens, List.getElem?_map,
    Recording.get?]
  cases s.recording.steps[s.position]? <;> rfl

/-- Moves that also end playing. -/
theorem progress_moveBy {count : Nat} (h : s.position + count ≤ s.last) (message : String) :
    ((s.pause.moveBy count).saying message).progress =
      s.progress.goTo (s.position + count) message := by
  have hrest : (s.pause.moveBy count).playing = false ∧
      (s.pause.moveBy count).quitting = s.quitting := by
    rw [moveBy]
    split <;> exact ⟨rfl, rfl⟩
  exact Progress.ext (position_moveBy (s := s.pause) h) hrest.1 hrest.2 rfl

theorem progress_right (h : s.Follows source) :
    s.pause.stepForward.progress = s.progress.right (tokenize source).1 := by
  have hposition : s.progress.position = s.position := rfl
  rw [Progress.right, ← h.last_eq, hposition]
  rcases h.position.lt_or_eq with hlt | heq
  · have hnext : (s.pause.moveBy 1).position = s.position + 1 := position_moveBy (s := s.pause) hlt
    have hfollows : (s.pause.moveBy 1).Follows source := h.pause.jumpTo _
    rw [stepForward_of_lt (s := s.pause) hlt, hfollows.describe_eq, hnext, progress_moveBy hlt,
      Nat.min_eq_left hlt, if_pos hlt]
  · rw [stepForward_of_le (s := s.pause) heq.ge, Nat.min_eq_right (by omega),
      if_neg (by omega), ← heq]
    rfl

theorem progress_left (h : s.Follows source) :
    s.pause.stepBackward.progress = s.progress.left (tokenize source).1 := by
  have hposition : s.progress.position = s.position := rfl
  have hpause : s.pause.position = s.position := rfl
  rw [Progress.left, hposition, Stepper.stepBackward, hpause]
  by_cases hzero : s.position = 0
  · have hstays : s.position = s.position - 1 := by omega
    rw [if_pos hzero, if_pos hzero]
    exact Progress.ext hstays rfl rfl rfl
  · have hback : (s.pause.jumpTo (s.position - 1)).position = s.position - 1 :=
      Nat.min_eq_left ((Nat.sub_le _ 1).trans h.position)
    have hfollows : (s.pause.jumpTo (s.position - 1)).Follows source := h.pause.jumpTo _
    have hmessage := hfollows.describe_eq "Stepped backward"
    rw [hback] at hmessage
    rw [if_neg hzero, if_neg hzero]
    exact Progress.ext hback rfl rfl hmessage

theorem progress_digit (h : s.Follows source) (d : Nat) :
    (s.pause.stepForwardBy d).progress = s.progress.digit (tokenize source).1 d := by
  have hpause : s.pause.position ≤ s.pause.last := h.position
  have hle : s.position + min d (s.last - s.position) ≤ s.last := by
    have := h.position
    omega
  rw [Stepper.stepForwardBy, advanceBy_eq hpause, Progress.digit, ← h.last_eq]
  exact progress_moveBy hle _

theorem progress_play (h : s.Follows source) :
    s.play.progress = s.progress.play (tokenize source).1 := by
  have hposition : s.progress.position = s.position := rfl
  rw [play, Progress.play, ← h.last_eq, hposition]
  rcases h.position.lt_or_eq with hlt | heq
  · rw [advance?_of_lt hlt, if_pos hlt]
    exact Progress.ext (position_moveBy hlt) rfl rfl rfl
  · rw [advance?_of_le heq.ge, if_neg heq.not_lt]
    rfl

theorem progress_pressChar (h : s.Follows source) (held : Bool) (c : Char) :
    (s.pressChar held c).progress = s.progress.press (tokenize source).1 held (.char c) := by
  rw [Stepper.pressChar, Progress.press]
  by_cases hquit : c = 'q' ∨ c = 'Q'
  · rw [if_pos hquit, if_pos (by simpa using hquit)]
    rfl
  · rw [if_neg hquit, if_neg (by simpa using hquit), digit?_eq]
    by_cases hdigit : (c.isDigit && c ≠ '0') = true
    · have hblank : c ≠ ' ' := by
        rintro rfl
        exact absurd hdigit (by decide)
      rw [if_pos hdigit, if_neg (by simp [hblank]), if_pos hdigit]
      exact h.progress_digit _
    · rw [if_neg hdigit, if_neg hdigit]
      by_cases hblank : c = ' ' ∧ held = false
      · rw [if_pos hblank, if_pos (by simpa using hblank)]
        exact s.progress_toggle
      · rw [if_neg hblank, if_neg (by simpa using hblank)]
        rfl

theorem progress_press (h : s.Follows source) (held : Bool) (key : Key) :
    (s.press held key).progress = s.progress.press (tokenize source).1 held key := by
  cases key with
  | char c => exact h.progress_pressChar held c
  | left => exact h.progress_left
  | right => exact h.progress_right
  | enter =>
    exact Progress.ext ((Nat.min_self s.last).trans h.last_eq) rfl rfl rfl
  | backspace => exact Progress.ext (Nat.zero_min s.last) rfl rfl rfl
  | tab | up | down | escape | backTab => rfl

/-- **One input.** The progress afterwards is that of the machine. -/
theorem progress_handle (h : s.Follows source) (input : Input) :
    (s.handle input).progress = s.progress.handle (tokenize source).1 input := by
  cases input with
  | key held key => exact h.progress_press held key
  | tick due =>
    have hiff : (!s.quitting && s.playing && due) = true ↔
        (due = true ∧ s.progress.playing = true ∧ s.progress.quitting = false) := by
      simp [progress, and_comm]
    rw [Stepper.handle, Stepper.tick, Progress.handle, if_congr hiff rfl rfl]
    split
    · exact h.progress_play
    · rfl
  | draw => rfl

/-- **Whole sessions.** -/
theorem progress_after (h : s.Follows source) (inputs : List Input) :
    (s.after inputs).progress =
      inputs.foldl (Progress.handle (tokenize source).1) s.progress := by
  induction inputs generalizing s with
  | nil => rfl
  | cons input inputs ih =>
    rw [List.foldl_cons, ← h.progress_handle]
    exact ih (h.handle input)

theorem progress_iterate (h : s.Follows source) (held : Bool) (key : Key) (n : Nat) :
    ((Stepper.press · held key)^[n] s).progress =
      (Progress.press (tokenize source).1 · held key)^[n] s.progress := by
  induction n generalizing s with
  | zero => rfl
  | succ n ih =>
    rw [Function.iterate_succ_apply, Function.iterate_succ_apply, ih (h.press held key),
      h.progress_press]

/-- A digit leads where as many keys to the right lead, and says how far that was. -/
theorem pressDigit_eq (h : s.Follows source) {c : Char} {d : Nat} (hd : digit? c = some d)
    (held : Bool) :
    s.press held (.char c) = ((Stepper.press · held .right)^[d] s).saying
      s!"Stepped forward {min d (s.last - s.position)} token(s)" := by
  have hposition : s.pause.position ≤ s.pause.last := h.position
  obtain ⟨n, rfl⟩ := Nat.exists_eq_succ_of_ne_zero (digit?_pos hd).ne'
  obtain ⟨m, hm⟩ := pressRight_iterate h.position held n
  rw [hm]
  show s.pressChar held c = _
  rw [s.pressChar_digit held hd, Stepper.stepForwardBy, advanceBy_eq hposition]
  rfl

end Follows

end Stepper

/-- **Viewing never influences stepping.** In every session, the progress of the stepper is that
of the session without what only views, and that of the machine. A digit leads where as many keys
to the right lead; only the message is another. -/
theorem session_progress (source : String) (inputs : List Input) :
    let tokens := (tokenize source).1
    let s := (Stepper.ofText source).after inputs
    s.progress = ((Stepper.ofText source).after (inputs.filter Input.steers)).progress ∧
      s.progress = inputs.foldl (Progress.handle tokens) {} ∧
      ∀ (held : Bool) (c : Char) (d : Nat), digit? c = some d →
        let message := s!"Stepped forward {min d (s.last - s.position)} token(s)"
        s.press held (.char c) = ((Stepper.press · held .right)^[d] s).saying message ∧
        s.progress.press tokens held (.char c) =
          { (Progress.press tokens · held .right)^[d] s.progress with message } := by
  intro tokens s
  have hinit := Stepper.Follows.init source
  have hmachine := hinit.progress_after
  have hfollows : s.Follows source := hinit.after inputs
  refine ⟨?_, hmachine inputs, ?_⟩
  · rw [hmachine, hmachine, Progress.foldl_filter_steers]
  · intro held c d hd message
    have hpress := hfollows.pressDigit_eq hd held
    refine ⟨hpress, ?_⟩
    rw [← hfollows.progress_press, hpress, ← hfollows.progress_iterate]
    rfl

/-- The token list is scrolled and a frame is drawn while the stepper plays, and nothing of it shows
in the progress. The digit then asks for more tokens than are left. -/
theorem session_progress_scrolled :
    let tokens := (tokenize "int x;").1
    let inputs := [.key false .tab, .key false (.char ' '), .tick true, .key false .down,
      .frame 40 10, .tick true, .key false (.char 'x')]
    let s := (Stepper.ofText "int x;").after inputs
    s.progress = ((Stepper.ofText "int x;").after
        [.key false (.char ' '), .tick true, .tick true]).progress ∧
      s.progress = ⟨2, true, false, "Playing..."⟩ ∧ digit? '9' = some 9 ∧
      s.progress.press tokens false (.char '9') =
        ⟨3, false, false, "Stepped forward 1 token(s)"⟩ := by
  intro tokens inputs s
  obtain ⟨hviews, hmachine, hdigit⟩ := session_progress "int x;" inputs
  have hprogress : s.progress = ⟨2, true, false, "Playing..."⟩ := hmachine.trans (by cbv)
  have hfollows : s.Follows "int x;" := (Stepper.Follows.init _).after inputs
  have hlast : s.last = 3 := hfollows.last_eq.trans (by cbv)
  have hposition : s.position = 2 := congrArg Progress.position hprogress
  refine ⟨hviews, hprogress, rfl, ?_⟩
  rw [(hdigit false '9' 9 rfl).2, hprogress, hlast, hposition]
  cbv

end MiniC
