import MiniC.Proofs.Progress

/-!
# Playing to the end

Nobody presses a key while a recording plays: frames are drawn, and the clock ticks, sometimes with
a token due and sometimes not.

**The state (`Progress.played`).** Only the number of due ticks matters. Each of them goes on by one
token until the last token is reached. The next one finds no token to go on to and ends the playing,
and all that come later change nothing. So the end is noticed one tick after it is reached, and a
recording of the end of input alone still plays until the first due tick.

**Theorem (`playing_visits_rest`).** Playing that is begun at index `p` of a session stands at index
`p + m` after `m` due ticks, or at the last one, and it goes on as long as `m` tokens were left.

The progress of a stepper is that of its machine, so the step lemma (`handle_played`) and the run
lemma (`foldl_played`) are about the machine alone.
-/

namespace MiniC

/-! ## Inputs -/

def Input.isKey : Input → Bool
  | .key _ _ => true
  | .tick _ | .draw _ _ => false

/-- Whether the time for the next token has come. -/
def Input.isDue : Input → Bool
  | .tick due => due
  | .key _ _ | .draw _ _ => false

/-! ## The machine -/

namespace Progress

/-- Playing that was begun at index `p`, after `m` due ticks. -/
def played (last p m : Nat) : Progress where
  position := min (p + m) last
  playing := m ≤ last - p
  message := if m ≤ last - p then "Playing..." else "Playback complete"

variable {tokens : List Token} {last p m : Nat}

/-- There was a token for each due tick. -/
theorem played_of_le (hp : p ≤ last) (hm : m ≤ last - p) :
    played last p m = ⟨p + m, true, false, "Playing..."⟩ := by
  rw [played, Nat.min_eq_left (by omega), decide_eq_true hm, if_pos hm]

/-- There was not. -/
theorem played_of_lt (hm : last - p < m) :
    played last p m = ⟨last, false, false, "Playback complete"⟩ := by
  rw [played, Nat.min_eq_right (by omega), decide_eq_false hm.not_ge, if_neg hm.not_ge]

/-- A due tick while playing goes on by a token, or finds that there is none left. -/
theorem play_played (hp : p ≤ tokens.length - 1) (hm : m ≤ tokens.length - 1 - p) :
    (played (tokens.length - 1) p m).play tokens = played (tokens.length - 1) p (m + 1) := by
  rw [played_of_le hp hm, play]
  rcases hm.lt_or_eq with hlt | heq
  · rw [if_pos (show p + m < tokens.length - 1 by omega), played_of_le hp hlt]
    rfl
  · rw [if_neg (show ¬ p + m < tokens.length - 1 by omega), played_of_lt (by omega), heq,
      Nat.add_sub_cancel' hp]

/-- **One input.** A due tick counts, and nothing else does. -/
theorem handle_played (hp : p ≤ tokens.length - 1) {input : Input} (hkey : ¬ input.isKey) :
    (played (tokens.length - 1) p m).handle tokens input =
      played (tokens.length - 1) p (m + if input.isDue then 1 else 0) := by
  cases input with
  | key held key => exact absurd rfl hkey
  | draw => rfl
  | tick due =>
    cases due with
    | false => rfl
    | true =>
      show _ = played (tokens.length - 1) p (m + 1)
      rcases le_or_gt m (tokens.length - 1 - p) with hle | hlt
      · rw [handle, if_pos ⟨rfl, decide_eq_true hle, rfl⟩, play_played hp hle]
      · rw [played_of_lt hlt, played_of_lt (by omega)]
        rfl

/-- **Any inputs without a key.** -/
theorem foldl_played (hp : p ≤ tokens.length - 1) (inputs : List Input)
    (hkeys : ∀ input ∈ inputs, ¬ input.isKey) :
    inputs.foldl (handle tokens) (played (tokens.length - 1) p m) =
      played (tokens.length - 1) p (m + inputs.countP Input.isDue) := by
  induction inputs generalizing m with
  | nil => rfl
  | cons input inputs ih =>
    rw [List.forall_mem_cons] at hkeys
    rw [List.foldl_cons, handle_played hp hkeys.1, ih hkeys.2, List.countP_cons, Nat.add_assoc,
      Nat.add_comm (List.countP _ _)]

theorem toggle_eq_played {q : Progress} (hplaying : q.playing = false)
    (hquitting : q.quitting = false) (hposition : q.position ≤ last) :
    q.toggle = played last q.position 0 := by
  have hstart : q.position = min (q.position + 0) last := (Nat.min_eq_left hposition).symm
  rw [toggle, played, hplaying, ← hstart]
  exact Progress.ext rfl rfl hquitting rfl

end Progress

/-! ## The stepper -/

namespace Stepper.Follows

variable {s : Stepper} {source : String}

/-- The progress of a stepper that was set to play. -/
theorem progress_played (h : s.Follows source) (hplaying : s.playing = false)
    (hquitting : s.quitting = false) {inputs : List Input}
    (hkeys : ∀ input ∈ inputs, ¬ input.isKey) :
    ((s.press false (.char ' ')).after inputs).progress =
      .played s.last s.position (inputs.countP Input.isDue) := by
  have hpress : (s.press false (.char ' ')).progress = .played s.last s.position 0 :=
    s.progress_toggle.trans (Progress.toggle_eq_played hplaying hquitting h.position)
  have hposition := h.position
  rw [h.last_eq] at hpress hposition ⊢
  rw [(h.press false _).progress_after, hpress, Progress.foldl_played hposition inputs hkeys,
    Nat.zero_add]

end Stepper.Follows

/-- **Playing visits the rest of the tokens and stops.** Whatever led to a stepper that neither
plays nor quits, the key for playing and then any ticks and frames, `m` of the ticks due, bring it
`m` tokens on, or to the last one. It plays as long as `m` is not more than the tokens that were
left, and says so. Once it has stopped no further ticks and frames change where it stands, what it
does and what it says. -/
theorem playing_visits_rest (source : String) (session inputs : List Input)
    (hplaying : ((Stepper.ofText source).after session).playing = false)
    (hquitting : ((Stepper.ofText source).after session).quitting = false)
    (hkeys : ∀ input ∈ inputs, ¬ input.isKey) :
    let s := (Stepper.ofText source).after session
    let s' := (s.press false (.char ' ')).after inputs
    let m := inputs.countP Input.isDue
    s'.position = min (s.position + m) s.last ∧
      s'.playing = decide (m ≤ s.last - s.position) ∧
      s'.message = (if s'.playing then "Playing..." else "Playback complete") ∧
      (s'.playing = false → ∀ later : List Input, (∀ input ∈ later, ¬ input.isKey) →
        (s'.after later).progress = s'.progress) := by
  intro s s' m
  have hfollows : s.Follows source := (Stepper.Follows.init source).after session
  have hprogress : s'.progress = .played s.last s.position m :=
    hfollows.progress_played hplaying hquitting hkeys
  have hplays : s'.playing = decide (m ≤ s.last - s.position) := congrArg Progress.playing hprogress
  refine ⟨congrArg Progress.position hprogress, hplays, ?_, ?_⟩
  · simp only [hplays, decide_eq_true_eq]
    exact congrArg Progress.message hprogress
  · intro hstopped later hlater
    have hover : s.last - s.position < m := by simpa [hplays] using hstopped
    have hposition := hfollows.position
    rw [hfollows.last_eq] at hprogress hover hposition
    rw [((hfollows.press false _).after inputs).progress_after, hprogress,
      Progress.foldl_played hposition later hlater, Progress.played_of_lt hover,
      Progress.played_of_lt (by omega)]

/-- Two tokens are left when playing begins. The second due tick reaches the end of input, the third
notices it, and the fourth comes too late. -/
theorem playing_visits_rest_late :
    let session := [.key false (.char '1')]
    let inputs := [.tick false, .tick true, .frame 40 10, .tick true, .tick false, .tick true,
      .tick true]
    let s := (Stepper.ofText "int x;").after session
    let s' := (s.press false (.char ' ')).after inputs
    s.playing = false ∧ s.quitting = false ∧ (∀ input ∈ inputs, ¬ input.isKey) ∧
      s.position = 1 ∧ s.last = 3 ∧
      s'.position = 3 ∧ s'.playing = false ∧ s'.message = "Playback complete" := by
  intro session inputs s s'
  have hfollows : s.Follows "int x;" := (Stepper.Follows.init _).after session
  have hprogress : s.progress = ⟨1, false, false, "Stepped forward 1 token(s)"⟩ :=
    ((Stepper.Follows.init _).progress_after session).trans (by cbv)
  have hposition : s.position = 1 := congrArg Progress.position hprogress
  have hplaying : s.playing = false := congrArg Progress.playing hprogress
  have hquitting : s.quitting = false := congrArg Progress.quitting hprogress
  have hlast : s.last = 3 := hfollows.last_eq.trans (by cbv)
  have hkeys : ∀ input ∈ inputs, ¬ input.isKey := by simp [inputs, Input.isKey, Input.frame]
  obtain ⟨hposition', hplaying', hmessage, -⟩ :=
    playing_visits_rest "int x;" session inputs hplaying hquitting hkeys
  rw [hposition, hlast] at hposition' hplaying'
  rw [hplaying'] at hmessage
  exact ⟨hplaying, hquitting, hkeys, hposition, hlast, hposition', hplaying', hmessage⟩

end MiniC
