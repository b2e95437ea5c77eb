import MiniC.Command
import MiniC.Proofs.Passes
import MiniC.Proofs.Reporting

/-!
# The modes of the command agree

The command reads its source anew in each mode: checking recognises it and looks at what the
console has counted, listing scans every token, and a recording does both.

**Theorem (`modes_agree`).** On a file that can be read, with logging off, a check says what the
verdict of the recording is, and a listing shows the steps of the recording and then its warnings.
A check that succeeds leaves no error token for the listing: no step of the recogniser takes one
(`ne_of_shift`), so a source that has one is rejected there at the latest (`rejected_of_error`).
-/

namespace MiniC

/-! ## Checking -/

/-- A collecting reporter receives the diagnostic of the verdict and nothing else. -/
theorem Recognizer.diagnostics_recognize (r : Recognizer Collected) :
    r.recognize.2.reporter.diagnostics =
      r.reporter.diagnostics ++ r.recognize.1.diagnostic?.toList := by
  obtain ⟨ts, r', s', hr, ⟨-, -, hrec⟩ | ⟨x, t, e, -, -, -, hrec⟩⟩ := r.recognize_cases
  · have hreporter : r'.reporter = r.reporter := hr.reporter_eq
    rw [hrec, hreporter]
    exact (List.append_nil _).symm
  · have hreporter : r'.reporter = r.reporter := hr.reporter_eq
    rw [hrec, ← hreporter]
    rfl

namespace Command

/-- What a check makes of a verdict. -/
def verdictResult (path : String) : Outcome → Result
  | .accepted => { code := 0, output := path ++ ": syntax OK\n" }
  | .rejected d => { code := 1, output := path ++ ": rejected\n", errors := d.render ++ "\n" }

/-- A check tells the verdict of the recording. -/
theorem check_eq (path source : String) :
    check path source = verdictResult path (Recording.ofText source).outcome := by
  let recognizer := Recognizer.ofText source ({} : Collected)
  have hfresh : Recognizer.Alike (.ofText source {}) recognizer := ⟨rfl, .init⟩
  have hmatches := hfresh.recognize.reporter
  have hdiagnostics : recognizer.recognize.2.reporter.diagnostics =
      recognizer.recognize.1.diagnostic?.toList := recognizer.diagnostics_recognize
  have herrors := hmatches.errors
  have htext := hmatches.text_eq
  rw [Collected.text, hdiagnostics] at htext
  rw [hdiagnostics] at herrors
  have houtcome : (Recording.ofText source).outcome = recognizer.recognize.1 := rfl
  rw [houtcome]
  cases hverdict : recognizer.recognize.1 with
  | accepted =>
    rw [hverdict] at herrors
    exact if_pos herrors
  | rejected d =>
    rw [hverdict] at herrors htext
    have hline : String.join ([d].map fun d => d.render ++ "\n") = d.render ++ "\n" := by simp
    have htext : (Recognizer.ofText source ({} : Console)).recognize.2.reporter.text =
        d.render ++ "\n" := htext.trans hline
    have hne : (Recognizer.ofText source ({} : Console)).recognize.2.reporter.errors ≠ 0 := by
      rw [herrors]
      exact Nat.one_ne_zero
    rw [verdictResult, ← htext]
    exact if_neg hne

/-! ## Listing -/

/-- A listing has a line for each step of the recording, and then the warnings of all steps. -/
theorem output_list (source : String) :
    let steps := (Recording.ofText source).steps
    (list source).output =
      String.join (steps.map fun s =>
          padRight 14 s.token.span.render ++ " " ++ s.token.render ++ "\n") ++
        String.join ((steps.flatMap Step.warnings).map fun w =>
          "WARNING: " ++ w.message ++ "\n") := by
  intro steps
  have htokens : (tokenize source).1 = steps.map Step.token :=
    (Recording.tokens_ofText source).symm
  have hwarnings : (tokenize source).2 = steps.flatMap Step.warnings :=
    (Recording.warnings_ofText source).symm
  simp only [list, htokens, hwarnings, List.map_map]
  rfl

/-- A listing fails where a step has an error token. -/
theorem code_list (source : String) :
    (list source).code =
      if ∀ s ∈ (Recording.ofText source).steps, s.token.kind ≠ .error then 0 else 1 := by
  have htokens : (tokenize source).1 = (Recording.ofText source).steps.map Step.token :=
    (Recording.tokens_ofText source).symm
  have hany : (tokenize source).1.any (·.kind = .error) = true ↔
      ¬∀ s ∈ (Recording.ofText source).steps, s.token.kind ≠ .error := by
    rw [htokens]
    simp
  by_cases h : ∀ s ∈ (Recording.ofText source).steps, s.token.kind ≠ .error
  · rw [if_pos h]
    exact if_neg fun hmem => hany.1 hmem h
  · rw [if_neg h]
    exact if_pos (hany.2 h)

end Command

/-! ## Error tokens -/

/-- **An error token is never taken.** A source that has one is rejected, at that token or before
it. -/
theorem Recording.rejected_of_error {source : String} {j : Nat} {t : Token}
    (hj : (ofText source).tokens[j]? = some t) (herror : t.kind = .error) :
    ∃ d i, (ofText source).outcome = .rejected d ∧ (ofText source).failure? = some i ∧ i ≤ j ∧
      ((ofText source).tokens[i]?).map Token.span = some d.span := by
  let recognizer := Recognizer.ofText source ({} : Collected)
  have hpending : (ofText source).tokens = recognizer.advance.pending :=
    (tokens_ofText source).trans (pending_ofText source _).symm
  have hnodup : ((ofText source).tokens.map Token.span).Nodup :=
    tokens_ofText source ▸ nodup_spans source
  obtain ⟨ts, r', s', hr, -, -, -, hverdict⟩ := recognizer.recognize_scans
  have hstop : (ofText source).tokens[ts.length]? = some r'.lookahead :=
    hpending ▸ hr.getElem?_pending
  -- The tokens taken come first, and none of them is an error token.
  have hle : ts.length ≤ j := by
    by_contra hlt
    rw [hpending, hr.pending_eq, List.getElem?_append_left (by omega)] at hj
    exact (hr.kind_ne (List.mem_of_getElem? hj)).2 herror
  have houtcome : (ofText source).outcome = recognizer.recognize.1 := rfl
  cases hrec : recognizer.recognize.1 with
  | accepted =>
    rw [hrec] at hverdict
    obtain rfl : s' = [] := hverdict
    have heof := hr.kind_eq_eof
    rw [hpending, hr.pending_eq, Recognizer.pending_of_eof heof,
      List.getElem?_append_right hle] at hj
    obtain rfl := List.mem_singleton.1 (List.mem_of_getElem? hj)
    rw [heof] at herror
    cases herror
  | rejected d =>
    rw [hrec] at houtcome hverdict
    refine ⟨d, ts.length, houtcome, failure?_of_rejected houtcome hnodup hstop hverdict, hle, ?_⟩
    rw [hstop, hverdict]
    rfl

/-! ## Runs of the command -/

/-- Logging is off: the filter can be read, and each of its directives shuts everything out. -/
def Options.LogsNothing (o : Options) (environment : Option String) : Prop :=
  ∃ filter, LogFilter.parse (o.filterText environment) = .ok filter ∧
    ∀ d ∈ filter.statics ++ filter.dynamics, d.level = .off

/-- The filter `off` turns logging off. -/
theorem Options.logsNothing_off {o : Options} {environment : Option String}
    (h : o.filterText environment = "off") : o.LogsNothing environment := by
  have hparse : LogFilter.parse "off" = .ok { statics := [{ level := .off }] } := by rfl
  rw [LogsNothing, h]
  exact ⟨_, hparse, by simp⟩

/-- The arguments ask for a run with options `o`, whose file holds `source` in UTF-8, and logging is
off. As `Command.run` writes no log lines at all, its results depend on the last condition only in
that the filter can be read; with any other filter that can be read, the log lines would come in
between. -/
structure Command.RunsOn (read : String → Except ReadError String) (environment : Option String)
    (args : List String) (o : Options) (source : String) : Prop where
  asked : Options.parse args = .ok (.run o)
  readable : read o.file = decodeSource source.toUTF8
  quiet : o.LogsNothing environment

namespace Command

variable {read : String → Except ReadError String} {environment : Option String}
  {args : List String} {o : Options} {source : String}

theorem RunsOn.run_eq (h : RunsOn read environment args o source) :
    run read environment args =
      if o.tokens then .finish (list source)
      else if o.interactive then .step "" source (Recording.ofText source)
      else .finish (check o.file source) := by
  obtain ⟨filter, hfilter, -⟩ := h.quiet
  have hnotice : filterNotice o environment = "" := by rw [filterNotice, hfilter]
  have hsource : read o.file = .ok source := by rw [h.readable, decodeSource, fromUTF8?_toUTF8]
  have hquiet (r : Result) : r.withNotice "" = r := by rw [Result.withNotice, String.empty_append]
  simp only [run, h.asked, execute, hnotice, hsource, hquiet]

end Command

/-- **The modes agree.** A check and a listing of the same source tell its recording, and a check
that succeeds means that the listing does. -/
theorem modes_agree {read : String → Except ReadError String} {environment : Option String}
    {source : String} {checkArgs listArgs : List String} {c l : Options}
    (hcheck : Command.RunsOn read environment checkArgs c source)
    (hlist : Command.RunsOn read environment listArgs l source)
    (hchecks : c.tokens = false ∧ c.interactive = false) (hlists : l.tokens = true) :
    let recording := Recording.ofText source
    ∃ checked listed : Result,
      Command.run read environment checkArgs = .finish checked ∧
      Command.run read environment listArgs = .finish listed ∧
      (checked = ⟨0, c.file ++ ": syntax OK\n", ""⟩ ↔ recording.outcome = .accepted) ∧
      (∀ d, recording.outcome = .rejected d →
        checked = ⟨1, c.file ++ ": rejected\n", d.render ++ "\n"⟩) ∧
      listed =
        ⟨if ∀ s ∈ recording.steps, s.token.kind ≠ .error then 0 else 1,
          String.join (recording.steps.map fun s =>
              padRight 14 s.token.span.render ++ " " ++ s.token.render ++ "\n") ++
            String.join ((recording.steps.flatMap Step.warnings).map fun w =>
              "WARNING: " ++ w.message ++ "\n"), ""⟩ ∧
      (checked.code = 0 → listed.code = 0) ∧
      ∀ (j : Nat) (t : Token), recording.tokens[j]? = some t → t.kind = .error →
        ∃ d i, recording.outcome = .rejected d ∧ recording.failure? = some i ∧ i ≤ j ∧
          (recording.tokens[i]?).map Token.span = some d.span := by
  intro recording
  have hchecked : Command.run read environment checkArgs =
      .finish (Command.verdictResult c.file recording.outcome) := by
    rw [hcheck.run_eq, if_neg (by simp [hchecks.1]), if_neg (by simp [hchecks.2]),
      Command.check_eq]
  have hlisted : Command.run read environment listArgs = .finish (Command.list source) := by
    rw [hlist.run_eq, if_pos hlists]
  have hrejected (j : Nat) (t : Token) (hj : recording.tokens[j]? = some t)
      (herror : t.kind = .error) := Recording.rejected_of_error hj herror
  refine ⟨_, _, hchecked, hlisted, ?_, ?_, ?_, ?_, hrejected⟩
  · cases recording.outcome with
    | accepted => exact iff_of_true rfl rfl
    | rejected d => exact iff_of_false (by simp [Command.verdictResult]) (by simp)
  · intro d hd
    rw [hd]
    rfl
  · rw [← Command.code_list, ← Command.output_list]
    rfl
  · intro hcode
    rw [Command.code_list, if_pos]
    intro s hs herror
    obtain ⟨j, hj⟩ := List.getElem?_of_mem (List.mem_map_of_mem (f := Step.token) hs)
    obtain ⟨d, -, houtcome, -⟩ := hrejected j s.token hj herror
    rw [houtcome] at hcode
    cases hcode

/-- An error token after a string: the check rejects it there, and the listing fails. -/
theorem modes_agree_strayAt :
    let source := "int x = \"\\q\" @ ;"
    let read (path : String) : Except ReadError String :=
      if path = "prog.mc" then decodeSource source.toUTF8 else .error .notFound
    Command.run read (some "off") ["prog.mc"] = .finish ⟨1, "prog.mc: rejected\n",
        "ERROR: \";\" expected here at line 1, column 14\n"⟩ ∧
      ∃ listed, Command.run read (some "off") ["-t", "prog.mc"] = .finish listed ∧
        listed.code = 1 := by
  intro source read
  have hquiet (tokens : Bool) :
      Options.LogsNothing ⟨"prog.mc", tokens, false, false, none⟩ (some "off") :=
    Options.logsNothing_off rfl
  have hread : read "prog.mc" = decodeSource source.toUTF8 := rfl
  have hcheck : Command.RunsOn read (some "off") ["prog.mc"]
      ⟨"prog.mc", false, false, false, none⟩ source := ⟨by cbv, hread, hquiet false⟩
  have hlist : Command.RunsOn read (some "off") ["-t", "prog.mc"]
      ⟨"prog.mc", true, false, false, none⟩ source := ⟨by cbv, hread, hquiet true⟩
  obtain ⟨checked, listed, hchecked, hlisted, -, hrejected, hlisting, -⟩ :=
    modes_agree hcheck hlist ⟨rfl, rfl⟩ rfl
  have hverdict := hrejected ⟨"\";\" expected here", ⟨⟨1, 14⟩, ⟨1, 15⟩⟩⟩ (by cbv)
  have hstep : (Recording.ofText source).steps[4]? =
      some ⟨⟨.error, "@", ⟨⟨1, 14⟩, ⟨1, 15⟩⟩⟩, []⟩ := by cbv
  have herror : ¬∀ s ∈ (Recording.ofText source).steps, s.token.kind ≠ .error :=
    fun hnone => hnone _ (List.mem_of_getElem? hstep) rfl
  refine ⟨?_, listed, hlisted, ?_⟩
  · rw [hchecked, hverdict]
    cbv
  · rw [hlisting, if_neg herror]

end MiniC
