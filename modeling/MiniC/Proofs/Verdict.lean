import MiniC.Proofs.Recognition

/-!
# The verdict is read off the tokens

A recogniser sees its source only through the tokens that the scanner hands out.

**Theorem (`recognize_respan`).** If the tokens of two sources differ only in their spans, and these
by one function, so do the two verdicts: both accept, or both reject with the same message and with
spans that differ by that function.

**Theorem (`recognize_after_accepted`).** A source whose tokens are those of an accepted one, and
then more, has the verdict on the tokens that come after. When the last token of a program is
taken, the recogniser stands where it started: nothing of the last definition is left on the stack,
not even something that the next token could still have gone to (`Takes.eq_program_stack`).
-/

namespace MiniC

/-! ## Tokens at other places -/

/-- The token with its span changed. -/
def Token.respan (f : Span → Span) (t : Token) : Token := { t with span := f t.span }

def Diagnostic.respan (f : Span → Span) (d : Diagnostic) : Diagnostic := { d with span := f d.span }

/-- The verdict with the span of its diagnostic changed. -/
def Outcome.respan (f : Span → Span) : Outcome → Outcome
  | accepted => accepted
  | rejected d => rejected (d.respan f)

theorem diagnostic_report_respan (f : Span → Span) (e : Expectation) (t : Token) :
    (e.report (t.respan f)).diagnostic = (e.report t).diagnostic.respan f := by
  cases e <;> rfl

namespace Recognizer

variable {ρ σ : Type}

/-! ## Only the tokens to come matter -/

/-- **A run depends on the tokens alone.** -/
theorem run_respan [Reporter ρ] [Reporter σ] (f : Span → Span) (r : Recognizer ρ)
    (r' : Recognizer σ) (s : List Symbol) (h : r'.pending = r.pending.map (Token.respan f)) :
    (r'.run s).1 = (r.run s).1.respan f := by
  have hlookahead : ∀ {r : Recognizer ρ} {r' : Recognizer σ},
      r'.pending = r.pending.map (Token.respan f) → r'.lookahead = r.lookahead.respan f := by
    intro r r' h
    have hhead := r'.head?_pending
    rw [h, List.head?_map, r.head?_pending] at hhead
    exact (Option.some.inj hhead).symm
  fun_induction run r s generalizing r' with
  | case1 r =>
    rw [run_nil]
    rfl
  | case2 r x s rest hp ih =>
    have hp' : predict x r'.lookahead.kind = .shift rest := by rwa [hlookahead h]
    have hne := (ne_of_shift hp).1
    rw [pending_eq_cons hne, List.map_cons] at h
    rw [run_of_shift s hp', ih r'.advance (pending_advance_of_pending h hne)]
  | case3 r x s rest hp ih =>
    have hp' : predict x r'.lookahead.kind = .expand rest := by rwa [hlookahead h]
    rw [run_of_expand s hp', ih r' h]
  | case4 r x s e hp =>
    have hp' : predict x r'.lookahead.kind = .fail e := by rwa [hlookahead h]
    rw [run_of_fail s hp', reject, reject, hlookahead h, diagnostic_report_respan]
    rfl

end Recognizer

/-! ## Where a program can end -/

/-- From one stack to another by taking the given kinds, and not a move further. -/
inductive Takes : List Symbol → List Kind → List Symbol → Prop
  | nil (s : List Symbol) : Takes s [] s
  | shift {x : Symbol} {k : Kind} {rest s s' : List Symbol} {ks : List Kind} :
      predict x k = .shift rest → Takes (rest ++ s) ks s' → Takes (x :: s) (k :: ks) s'
  | expand {x : Symbol} {k : Kind} {rest s s' : List Symbol} {ks : List Kind} :
      predict x k = .expand rest → Takes (rest ++ s) (k :: ks) s' → Takes (x :: s) (k :: ks) s'

/-- The symbols that a definition can end with. Each has to supply a token. -/
def Symbol.closes : Symbol → Bool
  | token _ | definitionTail | block => true
  | _ => false

/-- The symbols end like a definition. -/
def Closing (s : List Symbol) : Prop := ∀ x ∈ s.getLast?, x.closes

section Closing

variable {x : Symbol} {k : Kind} {rest s : List Symbol}

theorem closing_of_shift (hx : x.closes) (h : predict x k = .shift rest) : Closing rest := by
  cases x <;> cases hx <;> simp only [predict, blockMove] at h <;> split at h <;> cases h <;>
    simp [Closing, Symbol.closes]

/-- Only the tail of a definition is expanded, to something that ends with a semicolon. -/
theorem eq_of_expand (hx : x.closes) (h : predict x k = .expand rest) :
    rest = [.optArraySize, .optInitializer, .moreDeclarators, .token .semicolon] := by
  cases x <;> cases hx <;> simp only [predict, blockMove] at h <;> split at h <;> cases h
  rfl

theorem Closing.append (hs : Closing (x :: s)) (hrest : x.closes → Closing rest) :
    Closing (rest ++ s) := by
  cases s with
  | nil =>
    rw [List.append_nil]
    exact hrest (hs x rfl)
  | cons y s => simpa [Closing, List.getLast?_append] using hs

end Closing

/-- Nothing is taken after the end of the program. -/
theorem not_takes_finish {k : Kind} {ks : List Kind} {s : List Symbol} :
    ¬ Takes [.finish] (k :: ks) s := by
  intro h
  cases h with
  | shift hp _ =>
    simp only [predict] at hp
    split at hp <;> cases hp
  | expand hp h =>
    simp only [predict] at hp
    split at hp <;> cases hp
    cases h

/-- After any tokens of a program the stack is some of a definition, and then more definitions. -/
theorem Takes.closing {s s' : List Symbol} {ks : List Kind} (h : Takes s ks s') :
    ∀ xs, Closing xs → s = xs ++ [.definitions, .finish] →
      ∃ xs', Closing xs' ∧ s' = xs' ++ [.definitions, .finish] := by
  induction h with
  | nil s => exact fun xs hxs hs => ⟨xs, hxs, hs⟩
  | @shift x k rest s s' ks hp _ ih =>
    intro xs hxs hs
    cases xs with
    | nil =>
      obtain ⟨rfl, rfl⟩ := List.cons.inj hs
      have hrest : rest = [.token .identifier, .definitionTail, .definitions] := by
        simp only [predict] at hp
        split at hp <;> cases hp
        rfl
      subst hrest
      exact ih [.token .identifier, .definitionTail] (by simp [Closing, Symbol.closes]) rfl
    | cons y xs =>
      rw [List.cons_append] at hs
      obtain ⟨rfl, rfl⟩ := List.cons.inj hs
      refine ih (rest ++ xs) (hxs.append fun hx => closing_of_shift hx hp) ?_
      rw [List.append_assoc]
  | @expand x k rest s s' ks hp h ih =>
    intro xs hxs hs
    cases xs with
    | nil =>
      -- There are no more definitions, so nothing could be taken any more.
      obtain ⟨rfl, rfl⟩ := List.cons.inj hs
      simp only [predict] at hp
      split at hp <;> cases hp
      exact absurd h not_takes_finish
    | cons y xs =>
      rw [List.cons_append] at hs
      obtain ⟨rfl, rfl⟩ := List.cons.inj hs
      refine ih (rest ++ xs) (hxs.append fun hx => ?_) ?_
      · rw [eq_of_expand hx hp]
        simp [Closing, Symbol.closes]
      · rw [List.append_assoc]

namespace Recognizer

variable {ρ : Type} {r r' : Recognizer ρ} {s s' : List Symbol} {ts : List Token}

/-- A symbol that has to supply a token stays until it has done so. -/
theorem Reaches.exists_closes (h : Reaches r s ts r' s') (hts : ts = [])
    (hs : ∃ x ∈ s, x.closes) : ∃ x ∈ s', x.closes := by
  induction h with
  | refl => exact hs
  | shift => cases hts
  | @expand r r' x rest s s' ts hp _ ih =>
    apply ih hts
    obtain ⟨y, hy, hcloses⟩ := hs
    rcases List.mem_cons.1 hy with rfl | hy
    · rw [eq_of_expand hcloses hp]
      exact ⟨.token .semicolon, by simp, rfl⟩
    · exact ⟨y, List.mem_append_right rest hy, hcloses⟩

/-- A run takes its tokens first, and may then go on without taking more. -/
theorem Reaches.exists_takes (h : Reaches r s ts r' s') :
    ∃ s₁, Takes s (ts.map Token.kind) s₁ ∧ Reaches r' s₁ [] r' s' := by
  induction h with
  | refl r s => exact ⟨s, .nil s, .refl r s⟩
  | shift hp _ ih =>
    obtain ⟨s₁, htakes, hr⟩ := ih
    exact ⟨s₁, .shift hp htakes, hr⟩
  | @expand r r' x rest s s' ts hp hr ih =>
    cases ts with
    | nil =>
      obtain rfl : r' = r := hr.eq_iterate
      exact ⟨x :: s, .nil _, .expand hp hr⟩
    | cons t ts =>
      obtain ⟨s₁, htakes, hr'⟩ := ih
      rw [lookahead_of_pending hr.pending_eq] at hp
      exact ⟨s₁, .expand hp htakes, hr'⟩

/-- What takes the kinds of some tokens takes these tokens, whatever comes after them. -/
theorem reaches_of_takes {ks : List Kind} (h : Takes s ks s') {r : Recognizer ρ} {ts q : List Token}
    (hks : ts.map Token.kind = ks) (hr : r.pending = ts ++ q) :
    ∃ r', Reaches r s ts r' s' ∧ r'.pending = q := by
  induction h generalizing r ts with
  | nil s =>
    obtain rfl := List.map_eq_nil_iff.1 hks
    exact ⟨r, .refl r s, hr⟩
  | shift hp _ ih =>
    obtain ⟨t, ts, rfl, rfl, rfl⟩ := List.map_eq_cons_iff.1 hks
    obtain rfl := lookahead_of_pending hr
    obtain ⟨r', hr', hq⟩ := ih rfl (pending_advance_of_pending hr (ne_of_shift hp).1)
    exact ⟨r', .shift hp hr', hq⟩
  | expand hp _ ih =>
    obtain ⟨t, ts, rfl, rfl, rfl⟩ := List.map_eq_cons_iff.1 hks
    obtain ⟨r', hr', hq⟩ := ih rfl hr
    obtain rfl := lookahead_of_pending hr
    exact ⟨r', .expand hp hr', hq⟩

end Recognizer

/-- **An accepted program leaves the stack as it was at the start.** -/
theorem Takes.eq_program_stack {ρ : Type} {r r' : Recognizer ρ} {ks : List Kind}
    {s : List Symbol} (h : Takes [.definitions, .finish] ks s)
    (hr : r.Reaches s [] r' []) : s = [.definitions, .finish] := by
  obtain ⟨xs, hxs, rfl⟩ := h.closing [] nofun rfl
  cases hlast : xs.getLast? with
  | none =>
    obtain rfl := List.getLast?_eq_none_iff.1 hlast
    rfl
  | some x =>
    have hmem : x ∈ xs := List.mem_of_getLast? hlast
    obtain ⟨y, hy, -⟩ := hr.exists_closes rfl
      ⟨x, List.mem_append_left _ hmem, hxs x hlast⟩
    cases hy

/-! ## Sources -/

variable {ρ σ τ : Type} [Reporter ρ] [Reporter σ] [Reporter τ] {source source' : String}

/-- Sources whose tokens differ in their spans alone have verdicts that differ in their spans
alone. -/
theorem recognize_respan (f : Span → Span) (reporter : ρ) (reporter' : σ)
    (h : (tokenize source').1 = (tokenize source).1.map (Token.respan f)) :
    (Recognizer.ofText source' reporter').recognize.1 =
      (Recognizer.ofText source reporter).recognize.1.respan f := by
  apply Recognizer.run_respan
  rw [pending_ofText, pending_ofText, h]

/-- Sources with the same tokens have the same verdict. -/
theorem recognize_congr (reporter : ρ) (reporter' : σ)
    (h : (tokenize source').1 = (tokenize source).1) :
    (Recognizer.ofText source' reporter').recognize.1 =
      (Recognizer.ofText source reporter).recognize.1 := by
  have htokens : (tokenize source').1 = (tokenize source).1.map (Token.respan id) := by
    rw [h]
    exact (List.map_id _).symm
  rw [recognize_respan id reporter reporter' htokens]
  cases (Recognizer.ofText source reporter).recognize.1 <;> rfl

/-- Whether a source is accepted depends on the kinds of its tokens alone. -/
theorem recognize_accepted_congr (reporter : ρ) (reporter' : σ)
    (h : (tokenize source').1.map Token.kind = (tokenize source).1.map Token.kind) :
    (Recognizer.ofText source' reporter').recognize.1 = .accepted ↔
      (Recognizer.ofText source reporter).recognize.1 = .accepted := by
  rw [Recognizer.recognize, Recognizer.recognize,
    Recognizer.run_accepted_iff fits_program_stack rfl,
    Recognizer.run_accepted_iff fits_program_stack rfl, Recognizer.kinds, Recognizer.kinds,
    pending_ofText, pending_ofText, h]

/-- **After an accepted program everything starts anew.** -/
theorem recognize_after_accepted (f : Span → Span) {later : String} (reporter : ρ) (reporter' : σ)
    (reporter'' : τ) (haccepted : (Recognizer.ofText source reporter).recognize.1 = .accepted)
    (h : (tokenize source').1 =
      (tokenize source).1.dropLast ++ (tokenize later).1.map (Token.respan f)) :
    (Recognizer.ofText source' reporter').recognize.1 =
      (Recognizer.ofText later reporter'').recognize.1.respan f := by
  obtain ⟨ts, r, s, hr, ⟨rfl, -⟩ | ⟨x, t, e, -, -, hrun⟩⟩ := Recognizer.run_cases
    (Recognizer.ofText source reporter).advance [.definitions, .finish]
  · have heof : r.lookahead.kind = .eof := by simpa using hr.getLast?_eq rfl
    have hts : (tokenize source).1.dropLast = ts := by
      rw [← pending_ofText source reporter, hr.pending_eq, Recognizer.pending_of_eof heof,
        List.dropLast_concat]
    obtain ⟨s₁, htakes, hrest⟩ := hr.exists_takes
    obtain rfl := htakes.eq_program_stack hrest
    have hpending : (Recognizer.ofText source' reporter').advance.pending =
        ts ++ (tokenize later).1.map (Token.respan f) := by
      rw [pending_ofText, h, hts]
    obtain ⟨r', hr', hq⟩ := Recognizer.reaches_of_takes htakes rfl hpending
    rw [Recognizer.recognize, hr'.run_eq]
    apply Recognizer.run_respan
    rw [hq, pending_ofText]
  · rw [Recognizer.recognize, hrun] at haccepted
    cases haccepted

end MiniC
