import MiniC.Recording
import MiniC.Proofs.Effects
import MiniC.Proofs.Recognition
import MiniC.Proofs.Spans
import MiniC.Proofs.Steps

/-!
# The two passes of a recording agree

A recording is made in two passes that share nothing but the source: one scans every token, the
other recognises and scans as far as it needs to. The failing token is then looked up by the span
of the diagnostic.

**Theorem (`passes_agree`).** The recogniser scans the recorded tokens through some index `i`, in
order, and raises the warnings of exactly these. It accepts at the end of input and nowhere else;
when it rejects, the look-up finds `i`, because no two tokens have the same span (`nodup_spans`).

**Warnings.** Scanning everything at once, as `tokenize` does, gives the warnings of the recorded
steps (`warnings_scanAll`). Scanning one token after another gives the warnings of a first part of
them (`warnings_iterate_advance`).
-/

namespace MiniC

/-! ## Scanning on demand -/

namespace Recognizer

variable {ρ : Type}

/-- Scanning one token after another raises the warnings of the steps one after another. -/
theorem warnings_iterate_advance (r : Recognizer ρ) {n : Nat}
    (h : n ≤ r.scanner.cursor.steps.length) :
    (advance^[n] r).scanner.warnings =
      r.scanner.warnings ++ (r.scanner.cursor.steps.take n).flatMap Step.warnings := by
  induction n generalizing r with
  | zero => simp
  | succ n ih =>
    have hwarnings : r.advance.scanner.warnings =
        r.scanner.warnings ++ r.scanner.cursor.next.1.warnings := rfl
    rw [Function.iterate_succ_apply]
    by_cases heof : r.scanner.cursor.next.1.token.kind = .eof
    · rw [Cursor.steps_of_eof heof] at h ⊢
      obtain rfl : n = 0 := by simpa using h
      simp [hwarnings]
    · rw [Cursor.steps_of_ne_eof heof] at h ⊢
      have hn : n ≤ r.advance.scanner.cursor.steps.length := Nat.succ_le_succ_iff.1 h
      rw [ih r.advance hn, hwarnings, List.take_succ_cons, List.flatMap_cons, List.append_assoc]
      rfl

/-- Neither the end of input nor an error token is ever taken. -/
theorem Reaches.kind_ne {r r' : Recognizer ρ} {s s' : List Symbol} {ts : List Token}
    (h : Reaches r s ts r' s') {t : Token} (ht : t ∈ ts) : t.kind ≠ .eof ∧ t.kind ≠ .error := by
  induction h with
  | refl => cases ht
  | shift hp _ ih =>
    rcases List.mem_cons.1 ht with rfl | ht
    · exact ne_of_shift hp
    · exact ih ht
  | expand _ _ ih => exact ih ht

theorem Reaches.kind_ne_eof {r r' : Recognizer ρ} {s s' : List Symbol} {ts : List Token}
    (h : Reaches r s ts r' s') {t : Token} (ht : t ∈ ts) : t.kind ≠ .eof := (h.kind_ne ht).1

/-- A run through the whole program accepts at the end of input. -/
theorem Reaches.kind_eq_eof {r r' : Recognizer ρ} {ts : List Token}
    (h : Reaches r [.definitions, .finish] ts r' []) : r'.lookahead.kind = .eof := by
  simpa using h.getLast?_eq rfl

end Recognizer

/-! ## Recordings -/

/-- Where no two tokens have the same span, a span tells the index of its token. -/
theorem eq_of_span_eq {tokens : List Token} (h : (tokens.map Token.span).Nodup) {i j : Nat}
    {t t' : Token} (hi : tokens[i]? = some t) (hj : tokens[j]? = some t')
    (hspan : t'.span = t.span) : j = i := by
  have hlt : j < (tokens.map Token.span).length := by
    rw [List.length_map]
    exact (List.getElem?_eq_some_iff.1 hj).1
  apply (List.getElem?_inj hlt h).1
  rw [List.getElem?_map, List.getElem?_map, hi, hj, Option.map_some, Option.map_some, hspan]

namespace Recording

theorem tokens_ofText (source : String) : (ofText source).tokens = (tokenize source).1 :=
  (Scanner.ofText source).tokens_scanAll.symm

theorem warnings_ofText (source : String) :
    (ofText source).steps.flatMap Step.warnings = (tokenize source).2 :=
  (Scanner.ofText source).warnings_scanAll.symm

theorem length_tokens (r : Recording) : r.tokens.length = r.size := List.length_map _

theorem failure?_of_accepted {r : Recording} (h : r.outcome = .accepted) : r.failure? = none := by
  rw [failure?, h]
  rfl

/-- The look-up by span finds the token that has the span of the diagnostic. -/
theorem failure?_of_rejected {r : Recording} {d : Diagnostic} {i : Nat} {t : Token}
    (h : r.outcome = .rejected d) (hnodup : (r.tokens.map Token.span).Nodup)
    (hi : r.tokens[i]? = some t) (hspan : d.span = t.span) : r.failure? = some i := by
  have hlookup : r.failure? = r.steps.findIdx? fun s => s.token.span = d.span := by
    rw [failure?, h]
    rfl
  have hget (j : Nat) (hj : j < r.steps.length) : r.tokens[j]? = some r.steps[j].token := by
    rw [tokens, List.getElem?_map, List.getElem?_eq_getElem hj, Option.map_some]
  have hlt : i < r.steps.length := by
    have := (List.getElem?_eq_some_iff.1 hi).1
    rwa [length_tokens] at this
  rw [hlookup, List.findIdx?_eq_some_iff_getElem]
  refine ⟨hlt, ?_, ?_⟩
  · obtain rfl : r.steps[i].token = t := Option.some.inj ((hget i hlt).symm.trans hi)
    exact decide_eq_true hspan.symm
  · intro j hj
    rw [decide_eq_true_eq]
    intro hspan'
    exact hj.ne (eq_of_span_eq hnodup hi (hget j (by omega)) (hspan'.trans hspan))

end Recording

/-- **The passes agree.** The recogniser scans the recorded tokens through an index `i` and stops
there: at the end of input if it accepts, and otherwise at the token that the look-up finds. Its
warnings are those recorded through `i`. The other pass has recorded what `tokenize` gives. -/
theorem passes_agree {ρ : Type} [Reporter ρ] (source : String) (reporter : ρ) :
    let recording := Recording.ofText source
    let recognizer := Recognizer.ofText source reporter
    let after := recognizer.recognize.2
    ∃ i, recording.tokens[i]? = some after.lookahead ∧
      recognizer.scanned = recording.tokens.take (i + 1) ∧
      (∀ t ∈ recording.tokens.take i, t.kind ≠ .eof) ∧
      recording.outcome = recognizer.recognize.1 ∧
      (match recognizer.recognize.1 with
        | .accepted => i + 1 = recording.size ∧ after.lookahead.kind = .eof ∧
            recording.failure? = none
        | .rejected d => recording.failure? = some i ∧ d.span = after.lookahead.span ∧
            ∀ (j : Nat) (t : Token), recording.tokens[j]? = some t → t.span = d.span → j = i) ∧
      after.takeWarnings.1 = recording.warningsUntil i ∧
      recording.tokens = (tokenize source).1 ∧
      recording.steps.flatMap Step.warnings = (tokenize source).2 := by
  intro recording recognizer after
  have htokenize : recording.tokens = (tokenize source).1 := Recording.tokens_ofText source
  have hnodup : (recording.tokens.map Token.span).Nodup := htokenize ▸ nodup_spans source
  have houtcome : recording.outcome = recognizer.recognize.1 :=
    recognizer.recognize_fst_eq (Recognizer.ofText source ({} : Collected)) rfl
  have hpending : recording.tokens = recognizer.advance.pending :=
    htokenize.trans (pending_ofText source reporter).symm
  obtain ⟨ts, r', s', hr, hscanned, hscanner, hlookahead, hverdict⟩ := recognizer.recognize_scans
  have hget : recording.tokens[ts.length]? = some r'.lookahead := hpending ▸ hr.getElem?_pending
  have hlt : ts.length < recording.size := by
    rw [← recording.length_tokens]
    exact (List.getElem?_eq_some_iff.1 hget).1
  refine ⟨ts.length, ?_, ?_, ?_, houtcome, ?_, ?_, htokenize, Recording.warnings_ofText source⟩
  · rw [hget, hlookahead]
  · rw [hscanned, hpending, hr.take_succ_pending]
  · rw [hpending, hr.take_pending]
    exact fun t ht => hr.kind_ne_eof ht
  · rw [hlookahead]
    cases hrec : recognizer.recognize.1 with
    | accepted =>
      rw [hrec] at houtcome hverdict
      obtain rfl : s' = [] := hverdict
      have heof := hr.kind_eq_eof
      refine ⟨?_, heof, Recording.failure?_of_accepted houtcome⟩
      rw [← recording.length_tokens, hpending, hr.pending_eq, Recognizer.pending_of_eof heof,
        List.length_append, List.length_singleton]
    | rejected d =>
      rw [hrec] at houtcome hverdict
      have hspan : d.span = r'.lookahead.span := hverdict
      refine ⟨Recording.failure?_of_rejected houtcome hnodup hget hspan, hspan, ?_⟩
      intro j t hj ht
      exact eq_of_span_eq hnodup hget hj (ht.trans hspan)
  · show after.scanner.warnings = _
    rw [hscanner, hr.eq_iterate, ← Function.iterate_succ_apply]
    exact recognizer.warnings_iterate_advance hlt

end MiniC
