import MiniC.Proofs.Effects

/-!
# One report or none

**Theorem (`recognize_reports_once`).** From every state, a recognition accepts and makes no report,
or it rejects and makes one report as the last thing it does. The report is about the lookahead,
its diagnostic is the verdict, and the message is the template with its only mark replaced.

**Reporters.** A reporter only ever sees the reports of a recognition, and these are the same for
every reporter (`recognition_eq`). So whatever one report keeps between two reporters is kept by
any number of recognitions: a console without a bound has counted and written exactly what a
collecting reporter holds (`Console.Matches`).
-/

namespace MiniC

/-! ## Filling a template -/

/-- The message is the template with its only mark replaced by the text, which may have marks of
its own. -/
def Report.FilledBy (r : Report) (message : String) : Prop :=
  ∃ before after : String, r.template = before ++ "%" ++ after ∧
    '%' ∉ before.toList ∧ '%' ∉ after.toList ∧ message = before ++ r.token ++ after

theorem flatMap_mark_of_notMem {cs token : List Char} (h : '%' ∉ cs) :
    (cs.flatMap fun c => if c = '%' then token else [c]) = cs := by
  induction cs with
  | nil => rfl
  | cons c cs ih =>
    rw [List.mem_cons, not_or] at h
    rw [List.flatMap_cons, if_neg (Ne.symm h.1), ih h.2, List.singleton_append]

theorem Report.fill_mark {before after : String} (token : String) (hbefore : '%' ∉ before.toList)
    (hafter : '%' ∉ after.toList) :
    fill (before ++ "%" ++ after) token = before ++ token ++ after := by
  have hmark : "%".toList = ['%'] := rfl
  apply String.toList_inj.1
  rw [fill, String.toList_ofList]
  simp only [String.toList_append, List.flatMap_append, flatMap_mark_of_notMem hbefore,
    flatMap_mark_of_notMem hafter, hmark, List.flatMap_singleton, if_true]

/-- Every template has one mark. -/
theorem filledBy_diagnostic (e : Expectation) (found : Token) :
    (e.report found).FilledBy (e.report found).diagnostic.message := by
  suffices h : ∃ before after : String, (e.report found).template = before ++ "%" ++ after ∧
      '%' ∉ before.toList ∧ '%' ∉ after.toList by
    obtain ⟨before, after, htemplate, hbefore, hafter⟩ := h
    refine ⟨before, after, htemplate, hbefore, hafter, ?_⟩
    rw [Report.diagnostic, htemplate, Report.fill_mark _ hbefore hafter]
  cases e with
  | kind k => exact ⟨"\"", "\" expected here", rfl, by decide, by decide⟩
  | typeSpecifier =>
    exact ⟨"type specifier expected here, found \"", "\"", rfl, by decide, by decide⟩
  | statement => exact ⟨"statement expected here, found \"", "\"", rfl, by decide, by decide⟩
  | expression => exact ⟨"expression expected here, found \"", "\"", rfl, by decide, by decide⟩
  | initializer => exact ⟨"initializer expected here, found \"", "\"", rfl, by decide, by decide⟩
  | endOfProgram => exact ⟨"\"", "\" not expected after end of program", rfl, by decide, by decide⟩

/-! ## Two reporters side by side -/

theorem fromUTF8?_toUTF8 (s : String) : String.fromUTF8? s.toUTF8 = some s := by
  rw [String.fromUTF8?, String.toUTF8_eq_toByteArray, dif_pos s.isValidUTF8]
  rfl

/-- The lines a reader of the collected diagnostics would see. -/
def Collected.text (c : Collected) : String :=
  String.join (c.diagnostics.map fun d => d.render ++ "\n")

theorem Collected.text_report (c : Collected) (r : Report) :
    (Reporter.report c r).text = c.text ++ (r.diagnostic.render ++ "\n") := by
  show Collected.text ⟨c.diagnostics ++ [r.diagnostic]⟩ = _
  simp [Collected.text, String.join_append, String.join_cons]

theorem utf8_append (s t : String) :
    (s ++ t).toUTF8.data.toList = s.toUTF8.data.toList ++ t.toUTF8.data.toList := by
  simp only [String.toUTF8, String.toByteArray_append, ByteArray.data_append, Array.toList_append]

/-- The console has counted and written exactly what was collected. -/
structure Console.Matches (console : Console) (collected : Collected) : Prop where
  capacity : console.capacity = none
  errors : console.errors = collected.diagnostics.length
  written : console.written = collected.text.toUTF8.data.toList

namespace Console.Matches

variable {console : Console} {collected : Collected}

theorem init : Matches {} {} := ⟨rfl, rfl, rfl⟩

theorem report (h : Matches console collected) (r : Report) :
    Matches (Reporter.report console r) (Reporter.report collected r) where
  capacity := h.capacity
  errors := by
    show console.errors + 1 = (collected.diagnostics ++ [r.diagnostic]).length
    rw [h.errors, List.length_append, List.length_singleton]
  written := by
    show (console.write (r.diagnostic.render ++ "\n")).written = _
    simp only [Console.write, h.capacity, h.written, Collected.text_report, utf8_append]

/-- What was written reads back as the lines of the diagnostics. -/
theorem text_eq (h : Matches console collected) : console.text = collected.text := by
  have hbytes : (⟨console.written.toArray⟩ : ByteArray) = collected.text.toUTF8 := by
    rw [h.written, Array.toArray_toList]
  simp only [Console.text, Nat.sub_zero, List.take_length, hbytes, fromUTF8?_toUTF8]
  rfl

end Console.Matches

namespace Recognizer

/-- Two recognisers that read the same text with a console and a collecting reporter. -/
structure Alike (r : Recognizer Console) (r' : Recognizer Collected) : Prop where
  scanner : r.scanner = r'.scanner
  reporter : r.reporter.Matches r'.reporter

namespace Alike

variable {r : Recognizer Console} {r' : Recognizer Collected}

theorem apply (h : Alike r r') (e : Effect) : Alike (r.apply e) (r'.apply e) := by
  cases e with
  | scan t => exact ⟨congrArg (·.scan.2) h.scanner, h.reporter⟩
  | report report => exact ⟨h.scanner, h.reporter.report report⟩

theorem replay (h : Alike r r') (es : List Effect) :
    Alike (es.foldl Recognizer.apply r) (es.foldl Recognizer.apply r') := by
  induction es generalizing r r' with
  | nil => exact h
  | cons e es ih => exact ih (h.apply e)

theorem recognize (h : Alike r r') : Alike r.recognize.2 r'.recognize.2 := by
  rw [recognize_eq_replay, recognize_eq_replay, recognition_eq r' r h.scanner]
  exact h.replay _

theorem iterate (h : Alike r r') (n : Nat) :
    Alike ((fun r => r.recognize.2)^[n] r) ((fun r => r.recognize.2)^[n] r') := by
  induction n with
  | zero => exact h
  | succ n ih =>
    rw [Function.iterate_succ_apply', Function.iterate_succ_apply']
    exact ih.recognize

end Alike

end Recognizer

/-! ## Recognitions -/

/-- **One report or none.** From every state a recognition only scans and accepts, or it scans
and then, at the last token scanned, makes the one report whose diagnostic is the verdict. The
final state is what these effects make of the first one. So after any number of recognitions a
console has counted and written what a collecting reporter holds. -/
theorem recognize_reports_once :
    (∀ {ρ : Type} [Reporter ρ] (r : Recognizer ρ),
      r.recognize.2 = r.recognition.foldl Recognizer.apply r ∧
      ((r.recognize.1 = .accepted ∧ ∃ tokens : List Token, r.recognition = tokens.map .scan) ∨
        ∃ (tokens : List Token) (report : Report),
          r.recognition = tokens.map .scan ++ [.report report] ∧
          tokens.getLast? = some r.recognize.2.lookahead ∧
          report.span = r.recognize.2.lookahead.span ∧
          r.recognize.1 = .rejected report.diagnostic ∧
          report.FilledBy report.diagnostic.message)) ∧
    ∀ (source : String) (n : Nat),
      let console := ((fun r => r.recognize.2)^[n]
        (Recognizer.ofText source ({} : Console))).reporter
      let collected := ((fun r => r.recognize.2)^[n]
        (Recognizer.ofText source ({} : Collected))).reporter
      console.errors = collected.diagnostics.length ∧
        console.text = String.join (collected.diagnostics.map fun d => d.render ++ "\n") := by
  constructor
  · intro ρ _ r
    refine ⟨r.recognize_eq_replay, ?_⟩
    obtain ⟨ts, r', s', -, ⟨-, heffects, hrec⟩ | ⟨x, t, e, -, -, heffects, hrec⟩⟩ :=
      r.recognize_cases
    · left
      rw [hrec]
      exact ⟨rfl, _, heffects⟩
    · right
      rw [hrec]
      refine ⟨_, _, heffects, ?_, ?_, rfl, filledBy_diagnostic e r'.lookahead⟩
      · exact List.getLast?_concat
      · cases e <;> rfl
  · intro source n
    have hfresh : Recognizer.Alike (.ofText source {}) (.ofText source {}) := ⟨rfl, .init⟩
    have hmatches := (hfresh.iterate n).reporter
    exact ⟨hmatches.errors, hmatches.text_eq⟩

end MiniC
