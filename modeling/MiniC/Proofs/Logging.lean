import MiniC.Proofs.Passes

/-!
# The log tells the recorded story

The log of a recording is written by two passes over the same source. The first scans every token
and logs it after its warnings. The second recognises, and logs once more the warnings of the tokens
that it reaches; then come its rejection, if there is one, and a summary.

**Theorem (`log_tells_recording`).** At the level of warnings the log holds those of the recording,
and then once more those through the token at which the second pass stops. At the level of debugging
it holds every recorded token if that was asked for, each after its own warnings and before those of
the next, then the rejection, and at the very end the summary. What is logged changes nothing in
what is recorded.

**Each pass keeps its own log** while it scans, so the order of the events is that of the passes
(`Logged.steps_spec`, `Logged.run_spec`). `Logged.Adds` says what a pass leaves behind the log that
it was given.

**The second pass** stops at the failing token, or at the end of input if there is none
(`Recording.stop`). Its warnings are a first part of those of the recording, because it scans the
recorded tokens in order and without gaps (`Recording.warnings_recognize`).
-/

namespace MiniC

/-! ## Events by level -/

namespace Event

/-- The events of one step: its warnings, then the token itself when `verbose`. -/
def ofStep (verbose : Bool) (s : Step) : List Event :=
  s.warnings.map warning ++ if verbose then [token s.token] else []

/-- The event of a verdict, if it is a rejection. -/
def ofOutcome (o : Outcome) : List Event := o.diagnostic?.toList.map rejected

/-- The events of one level, in order. -/
def atLevel (l : Level) (events : List Event) : List Event := events.filter (·.level = l)

theorem atLevel_append (l : Level) (es es' : List Event) :
    atLevel l (es ++ es') = atLevel l es ++ atLevel l es' := List.filter_append es es'

theorem atLevel_flatMap (l : Level) {α : Type} (f : α → List Event) (as : List α) :
    atLevel l (as.flatMap f) = as.flatMap fun a => atLevel l (f a) := List.filter_flatMap

theorem warn_warnings (ws : List Warning) : atLevel .warn (ws.map warning) = ws.map warning := by
  simp [atLevel, level]

theorem debug_warnings (ws : List Warning) : atLevel .debug (ws.map warning) = [] := by
  simp [atLevel, level]

theorem warn_ofStep (verbose : Bool) (s : Step) :
    atLevel .warn (ofStep verbose s) = s.warnings.map warning := by
  rw [ofStep, atLevel_append, warn_warnings]
  cases verbose <;> exact List.append_nil _

theorem debug_ofStep (verbose : Bool) (s : Step) :
    atLevel .debug (ofStep verbose s) = if verbose then [token s.token] else [] := by
  rw [ofStep, atLevel_append, debug_warnings]
  cases verbose <;> rfl

theorem warn_steps (verbose : Bool) (steps : List Step) :
    atLevel .warn (steps.flatMap (ofStep verbose)) = (steps.flatMap Step.warnings).map warning := by
  simp only [atLevel_flatMap, warn_ofStep, List.map_flatMap]

theorem debug_steps (verbose : Bool) (steps : List Step) :
    atLevel .debug (steps.flatMap (ofStep verbose)) =
      if verbose then (steps.map Step.token).map token else [] := by
  rw [atLevel_flatMap]
  cases verbose <;> simp [debug_ofStep, ← List.map_eq_flatMap]

theorem warn_ofOutcome (o : Outcome) : atLevel .warn (ofOutcome o) = [] := by cases o <;> rfl

theorem debug_ofOutcome (o : Outcome) : atLevel .debug (ofOutcome o) = ofOutcome o := by
  cases o <;> rfl

end Event

/-! ## The passes -/

namespace Logged

variable {σ τ υ ρ : Type}

/-- The log of `l'` is that of `l` with the events `es` after it. -/
structure Adds (l : Logged σ) (es : List Event) (l' : Logged τ) : Prop where
  verbose : l'.verbose = l.verbose
  log : l'.log = l.log ++ es

theorem Adds.refl (l : Logged σ) : l.Adds [] l := ⟨rfl, (List.append_nil _).symm⟩

theorem Adds.trans {l : Logged σ} {l' : Logged τ} {l'' : Logged υ} {es es' : List Event}
    (h : l.Adds es l') (h' : l'.Adds es' l'') : l.Adds (es ++ es') l'' :=
  ⟨h'.verbose.trans h.verbose, by rw [h'.log, h.log, List.append_assoc]⟩

theorem adds_note (l : Logged σ) (e : Event) : l.Adds [e] (l.note e) :=
  ⟨rfl, Array.toList_push⟩

theorem adds_raise (s : Logged Scanner) (w : Warning) : s.Adds [.warning w] (s.raise w) :=
  ⟨rfl, Array.toList_push⟩

theorem adds_foldl_raise (s : Logged Scanner) (ws : List Warning) :
    s.Adds (ws.map .warning) (ws.foldl raise s) := by
  induction ws generalizing s with
  | nil => exact .refl s
  | cons w ws ih => exact (s.adds_raise w).trans (ih (s.raise w))

/-- **A scan logs its warnings**, and then the token if that is asked for. -/
theorem adds_scan (s : Logged Scanner) :
    s.Adds (Event.ofStep s.verbose s.state.cursor.next.1) s.scan.2 := by
  have hraised := adds_foldl_raise { s with state.cursor := s.state.cursor.next.2 }
    s.state.cursor.next.1.warnings
  rw [scan, Event.ofStep]
  split
  · exact ⟨hraised.verbose, (hraised.trans (adds_note _ _)).log⟩
  · rw [List.append_nil]
    exact ⟨hraised.verbose, hraised.log⟩

/-- **The token pass.** A scanner whose warnings are taken after every token gives the steps of its
cursor, and logs them one after another. -/
theorem steps_spec (s : Logged Scanner) (hwarnings : s.state.warnings = []) :
    s.steps.1 = s.state.cursor.steps ∧
      s.Adds (s.state.cursor.steps.flatMap (Event.ofStep s.verbose)) s.steps.2 := by
  obtain ⟨htoken, hstate⟩ := s.scan_eq
  let s' := s.scan.2.takeWarnings.2
  have hs' : s'.state = ⟨s.state.cursor.next.2, []⟩ := by
    show s.scan.2.state.takeWarnings.2 = _
    rw [hstate]
    rfl
  have hstep : Step.mk s.scan.1 s.scan.2.takeWarnings.1 = s.state.cursor.next.1 := by
    show Step.mk _ s.scan.2.state.warnings = _
    rw [htoken, hstate]
    show Step.mk _ (s.state.warnings ++ _) = _
    rw [hwarnings, List.nil_append]
    rfl
  have hadds : s.Adds (Event.ofStep s.verbose s.state.cursor.next.1) s' :=
    ⟨s.adds_scan.verbose, s.adds_scan.log⟩
  rw [steps]
  by_cases heof : s.scan.1.kind = .eof
  · rw [dif_pos heof, hstep, Cursor.steps_of_eof heof, List.flatMap_singleton]
    exact ⟨rfl, hadds⟩
  · have hlt : s'.state.cursor.rest.length < s.state.cursor.rest.length := by
      rw [hs']
      exact s.state.cursor.length_next_lt heof
    obtain ⟨hsteps, hrest⟩ := steps_spec s' (by rw [hs'])
    rw [hs'] at hsteps hrest
    rw [hadds.verbose] at hrest
    rw [dif_neg heof, hstep, Cursor.steps_of_ne_eof heof, List.flatMap_cons]
    exact ⟨congrArg _ hsteps, hadds.trans hrest⟩
termination_by s.state.cursor.rest.length

/-- A look at the next token logs the warnings that it raises. -/
theorem adds_advance (r : Logged (Recognizer ρ)) (hquiet : r.verbose = false) :
    r.Adds (r.state.scanner.cursor.next.1.warnings.map .warning) r.advance := by
  have hscan := adds_scan { r with state := r.state.scanner }
  have hstep : Event.ofStep r.verbose r.state.scanner.cursor.next.1 =
      r.state.scanner.cursor.next.1.warnings.map .warning := by
    rw [hquiet]
    exact List.append_nil _
  exact ⟨hscan.verbose, hstep ▸ hscan.log⟩

/-- **The recogniser pass.** A run is the one without a log, and logs the warnings that it raises,
in the order in which they come to wait. -/
theorem run_spec [Reporter ρ] (r : Logged (Recognizer ρ)) (s : List Symbol)
    (hquiet : r.verbose = false) :
    ∃ ws, (r.run s).1 = (r.state.run s).1 ∧ (r.run s).2.state = (r.state.run s).2 ∧
      (r.state.run s).2.scanner.warnings = r.state.scanner.warnings ++ ws ∧
      r.Adds (ws.map .warning) (r.run s).2 := by
  fun_induction run r s with
  | case1 r =>
    rw [Recognizer.run_nil]
    exact ⟨[], rfl, rfl, (List.append_nil _).symm, .refl r⟩
  | case2 r x s rest h ih =>
    have hadds := r.adds_advance hquiet
    obtain ⟨ws, hverdict, hstate, hwarnings, hrest⟩ := ih (hadds.verbose.trans hquiet)
    rw [Recognizer.run_of_shift s h]
    rw [advance_eq] at hverdict hstate hwarnings
    refine ⟨r.state.scanner.cursor.next.1.warnings ++ ws, hverdict, hstate, ?_, ?_⟩
    · rw [hwarnings, ← List.append_assoc]
      rfl
    · rw [List.map_append]
      exact hadds.trans hrest
  | case3 r x s rest h ih =>
    rw [Recognizer.run_of_expand s h]
    exact ih hquiet
  | case4 r x s e h outcome state hreject =>
    rw [Recognizer.run_of_fail s h, hreject]
    have hscanner : state.scanner = r.state.scanner := by
      rw [Recognizer.reject] at hreject
      obtain ⟨-, rfl⟩ := hreject
      rfl
    exact ⟨[], rfl, rfl, hscanner ▸ (List.append_nil _).symm, ⟨rfl, (List.append_nil _).symm⟩⟩

/-- A rejection is logged after the warnings. -/
theorem recognize_spec [Reporter ρ] (r : Logged (Recognizer ρ)) (hquiet : r.verbose = false) :
    ∃ ws, r.recognize.1 = r.state.recognize.1 ∧
      r.state.recognize.2.scanner.warnings = r.state.scanner.warnings ++ ws ∧
      r.Adds (ws.map .warning ++ Event.ofOutcome r.state.recognize.1) r.recognize.2 := by
  have hadds := r.adds_advance hquiet
  obtain ⟨ws, hverdict, -, hwarnings, hrun⟩ :=
    r.advance.run_spec [.definitions, .finish] (hadds.verbose.trans hquiet)
  rw [advance_eq] at hverdict hwarnings
  have hlog : r.Adds ((r.state.scanner.cursor.next.1.warnings ++ ws).map .warning)
      (r.advance.run [.definitions, .finish]).2 := by
    rw [List.map_append]
    exact hadds.trans hrun
  refine ⟨r.state.scanner.cursor.next.1.warnings ++ ws, ?_⟩
  rw [Recognizer.recognize, hwarnings, ← List.append_assoc, ← hverdict, recognize]
  rcases hr : r.advance.run [.definitions, .finish] with ⟨_ | d, r'⟩
  · rw [hr] at hlog
    exact ⟨rfl, rfl, (List.append_nil _).symm ▸ hlog⟩
  · rw [hr] at hlog
    exact ⟨rfl, rfl, hlog.trans (r'.adds_note _)⟩

end Logged

/-! ## The second pass -/

namespace Recording

/-- The index of the token at which the second pass stops: the failing one, or the last. -/
def stop (r : Recording) : Nat := r.failure?.getD (r.size - 1)

/-- **The second pass raises the warnings of the tokens that it reaches**, and no others. -/
theorem warnings_recognize (source : String) :
    (Recognizer.ofText source ({} : Collected)).recognize.2.scanner.warnings =
      (ofText source).warningsUntil (ofText source).stop := by
  let recognizer := Recognizer.ofText source ({} : Collected)
  have hpending : (ofText source).tokens = recognizer.advance.pending :=
    (tokens_ofText source).trans (pending_ofText source _).symm
  have hnodup : ((ofText source).tokens.map Token.span).Nodup :=
    tokens_ofText source ▸ nodup_spans source
  obtain ⟨ts, r', s', hr, -, hscanner, -, hverdict⟩ := recognizer.recognize_scans
  have hget : (ofText source).tokens[ts.length]? = some r'.lookahead :=
    hpending ▸ hr.getElem?_pending
  have hlt : ts.length < (ofText source).size := by
    rw [← length_tokens]
    exact (List.getElem?_eq_some_iff.1 hget).1
  have hstop : (ofText source).stop = ts.length := by
    have houtcome : (ofText source).outcome = recognizer.recognize.1 := rfl
    cases hrec : recognizer.recognize.1 with
    | accepted =>
      rw [hrec] at houtcome hverdict
      obtain rfl : s' = [] := hverdict
      rw [stop, failure?_of_accepted houtcome, ← length_tokens, hpending, hr.pending_eq,
        Recognizer.pending_of_eof hr.kind_eq_eof, List.length_append]
      rfl
    | rejected d =>
      rw [hrec] at houtcome hverdict
      rw [stop, failure?_of_rejected houtcome hnodup hget hverdict]
      rfl
  rw [hscanner, hr.eq_iterate, ← Function.iterate_succ_apply, hstop]
  exact recognizer.warnings_iterate_advance hlt

/-- What is logged changes nothing in what is recorded. The whole log: the steps one after another,
the warnings of the second pass, its rejection, and the summary. -/
theorem record_eq (verbose : Bool) (source : String) :
    record verbose source =
      (ofText source, (ofText source).steps.flatMap (Event.ofStep verbose) ++
        ((ofText source).warningsUntil (ofText source).stop).map .warning ++
        Event.ofOutcome (ofText source).outcome ++
        [.recorded (ofText source).size (ofText source).outcome.isAccepted]) := by
  let first : Logged Scanner := { state := .ofText source, verbose }
  let second : Logged (Recognizer Collected) :=
    { state := .ofText source {}, events := first.steps.2.events }
  obtain ⟨hsteps, htokens⟩ := first.steps_spec rfl
  obtain ⟨ws, houtcome, hwarnings, hverdict⟩ := second.recognize_spec rfl
  have hagain : ws = (ofText source).warningsUntil (ofText source).stop :=
    hwarnings.symm.trans (warnings_recognize source)
  have hlog : second.recognize.2.log = (ofText source).steps.flatMap (Event.ofStep verbose) ++
      (ws.map .warning ++ Event.ofOutcome (ofText source).outcome) := by
    rw [hverdict.log]
    exact congrArg (· ++ _) htokens.log
  have hrecorded : Recording.mk first.steps.1 second.recognize.1 = ofText source := by
    rw [hsteps, houtcome]
    rfl
  calc record verbose source
    _ = (⟨first.steps.1, second.recognize.1⟩, (second.recognize.2.note
          (.recorded first.steps.1.length second.recognize.1.isAccepted)).log) := rfl
    _ = _ := by
      rw [(Logged.adds_note _ _).log, hlog, hrecorded, hsteps, houtcome, hagain,
        ← List.append_assoc]
      rfl

/-- The steps before and after the one at an index. -/
theorem steps_split {r : Recording} {k : Nat} {s : Step} (h : r.steps[k]? = some s) :
    r.steps = r.steps.take k ++ s :: r.steps.drop (k + 1) := by
  obtain ⟨hlt, rfl⟩ := List.getElem?_eq_some_iff.1 h
  rw [← List.drop_eq_getElem_cons hlt, List.take_append_drop]

theorem warningsUntil_eq {r : Recording} {k : Nat} {s : Step} (h : r.steps[k]? = some s) :
    r.warningsUntil k = (r.steps.take k).flatMap Step.warnings ++ s.warnings := by
  rw [warningsUntil, List.take_add_one, h, List.flatMap_append]
  simp

end Recording

/-- **The log tells the recorded story.** A token is logged after the warnings through its own step
and before those of the steps that follow. -/
theorem log_tells_recording (source : String) (verbose : Bool) :
    let recording : Recording := .ofText source
    let log := (Recording.record verbose source).2
    let again := recording.warningsUntil recording.stop
    (Recording.record verbose source).1 = recording ∧
    Event.atLevel .warn log = (recording.steps.flatMap Step.warnings ++ again).map .warning ∧
    Event.atLevel .debug log =
      (if verbose then recording.tokens.map .token else []) ++
        (match recording.outcome with
          | .accepted => []
          | .rejected d => [.rejected d]) ++
        [.recorded recording.size recording.outcome.isAccepted] ∧
    log.getLast? = some (.recorded recording.size recording.outcome.isAccepted) ∧
    (verbose = true → ∀ (k : Nat) (s : Step), recording.steps[k]? = some s →
      ∃ before after, log = before ++ .token s.token :: after ∧
        Event.atLevel .warn before = (recording.warningsUntil k).map .warning ∧
        Event.atLevel .debug before = (recording.tokens.take k).map .token ∧
        Event.atLevel .warn after =
          ((recording.steps.drop (k + 1)).flatMap Step.warnings ++ again).map .warning) := by
  intro recording log again
  have hlog : log = recording.steps.flatMap (Event.ofStep verbose) ++ again.map .warning ++
      Event.ofOutcome recording.outcome ++
      [.recorded recording.size recording.outcome.isAccepted] :=
    congrArg Prod.snd (Recording.record_eq verbose source)
  have hsummary : Event.atLevel .warn
      [.recorded recording.size recording.outcome.isAccepted] = [] := rfl
  refine ⟨congrArg Prod.fst (Recording.record_eq verbose source), ?_, ?_, ?_, ?_⟩
  · rw [hlog]
    simp only [Event.atLevel_append, Event.warn_steps, Event.warn_warnings, Event.warn_ofOutcome,
      hsummary, List.append_nil, List.map_append]
  · rw [hlog]
    simp only [Event.atLevel_append, Event.debug_steps, Event.debug_warnings,
      Event.debug_ofOutcome, List.append_nil]
    cases recording.outcome <;> rfl
  · rw [hlog, List.getLast?_concat]
  · rintro rfl k s hs
    have hsteps := Recording.steps_split hs
    refine ⟨(recording.steps.take k).flatMap (Event.ofStep true) ++ s.warnings.map .warning,
      (recording.steps.drop (k + 1)).flatMap (Event.ofStep true) ++ again.map .warning ++
        Event.ofOutcome recording.outcome ++
        [.recorded recording.size recording.outcome.isAccepted], ?_, ?_, ?_, ?_⟩
    · conv_lhs => rw [hlog, hsteps]
      simp [Event.ofStep]
    · rw [Event.atLevel_append, Event.warn_steps, Event.warn_warnings,
        Recording.warningsUntil_eq hs, List.map_append]
    · rw [Event.atLevel_append, Event.debug_steps, Event.debug_warnings, List.append_nil, if_pos rfl,
        Recording.tokens, List.map_take]
    · simp only [Event.atLevel_append, Event.warn_steps, Event.warn_warnings, Event.warn_ofOutcome,
        hsummary, List.append_nil, List.map_append]

/-- The second pass stops at the string that is cut short, so it does not come to the comment that
is never closed: after the string, the log warns of the comment and then of the string again. -/
theorem log_tells_recording_unclosed :
    let log := (Recording.record true "\"a\n /*").2
    ∃ before after, log = before ++ .token ⟨.stringLiteral, "a", ⟨⟨1, 1⟩, ⟨1, 3⟩⟩⟩ :: after ∧
      Event.atLevel .warn after = [.warning (.unterminatedComment ⟨⟨2, 2⟩, ⟨2, 4⟩⟩),
        .warning (.unterminatedString ⟨⟨1, 1⟩, ⟨1, 3⟩⟩)] := by
  intro log
  have hstep : (Recording.ofText "\"a\n /*").steps[0]? =
      some ⟨⟨.stringLiteral, "a", ⟨⟨1, 1⟩, ⟨1, 3⟩⟩⟩, [.unterminatedString ⟨⟨1, 1⟩, ⟨1, 3⟩⟩]⟩ := by
    cbv
  obtain ⟨-, -, -, -, htokens⟩ := log_tells_recording "\"a\n /*" true
  obtain ⟨before, after, hlog, -, -, hafter⟩ := htokens rfl 0 _ hstep
  refine ⟨before, after, hlog, ?_⟩
  rw [hafter]
  cbv

end MiniC
