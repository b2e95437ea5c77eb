import MiniC.Lexeme
import Mathlib

/-!
# The texts of tokens, and how they are read

The texts that are tokens are given as a relation between a text and its kind (`Lexical`): words,
numbers, closed strings, and the fixed texts of operators and punctuation. It says nothing about
how a text is read.

**Theorem (`covers_of_lexical`).** If the text of a token is at the front of the input, the scanner
reads a token there, and one that is at least as long.

**Theorem (`reads_read`).** What the scanner reads is the text of a token of that kind, or one of
the ways in which no token can be read (`Lexeme.Reads`). One number is an exception: digits before
an exponent that is not complete are a floating-point literal.

Both follow the rules of the scanner one by one. A greedy rule is exact because the texts of one
rule that agree with the input differ only in how far they go.
-/

namespace MiniC

/-! ## The texts of tokens -/

/-- One or more digits. -/
def IsDigits (w : List Char) : Prop := w ≠ [] ∧ ∀ c ∈ w, c.isDigit

/-- A marker, perhaps a sign, and digits. -/
inductive IsExponent : List Char → Prop
  | unsigned {m : Char} {ds : List Char} :
      m = 'e' ∨ m = 'E' → IsDigits ds → IsExponent (m :: ds)
  | signed {m s : Char} {ds : List Char} :
      m = 'e' ∨ m = 'E' → s = '+' ∨ s = '-' → IsDigits ds → IsExponent (m :: s :: ds)

/-- What may stand between the quotes of a string: a backslash takes any character with it, and
otherwise there is no backslash, quote or newline. There is no end marker anywhere. -/
inductive IsStringBody : List Char → Prop
  | nil : IsStringBody []
  | escape {c : Char} {body : List Char} :
      c ≠ '\x00' → IsStringBody body → IsStringBody ('\\' :: c :: body)
  | char {c : Char} {body : List Char} :
      c ≠ '"' → c ≠ '\\' → c ≠ '\n' → c ≠ '\x00' → IsStringBody body → IsStringBody (c :: body)

/-- The operators and the punctuation. -/
def Kind.hasFixedText (k : Kind) : Bool := k.isBinaryOp || k.isRelationalOp || k.isPunctuation

/-- The texts of tokens, with the kind of each. -/
inductive Lexical : Kind → List Char → Prop
  | word {c : Char} {cs : List Char} : isWordStart c → (∀ d ∈ cs, isWordPart d) →
      Lexical ((Kind.keyword? (String.ofList (c :: cs))).getD .identifier) (c :: cs)
  | integer {ds : List Char} : IsDigits ds → Lexical .intLiteral ds
  | point {ds : List Char} : IsDigits ds → Lexical .floatLiteral (ds ++ ['.'])
  | decimal {ds fs e : List Char} : IsDigits ds → IsDigits fs → e = [] ∨ IsExponent e →
      Lexical .floatLiteral (ds ++ '.' :: (fs ++ e))
  | scientific {ds e : List Char} : IsDigits ds → IsExponent e → Lexical .floatLiteral (ds ++ e)
  | fraction {fs e : List Char} : IsDigits fs → e = [] ∨ IsExponent e →
      Lexical .floatLiteral ('.' :: (fs ++ e))
  | string {body : List Char} : IsStringBody body → Lexical .stringLiteral ('"' :: (body ++ ['"']))
  | fixed {k : Kind} : k.hasFixedText → Lexical k k.spelling.toList

theorem not_isDigit_of_isWordStart {c : Char} (h : isWordStart c) : ¬ c.isDigit := by
  simp only [isWordStart, Char.isAlpha, Char.isUpper, Char.isLower, Char.isDigit, Bool.or_eq_true,
    Bool.and_eq_true, decide_eq_true_eq] at h ⊢
  rcases h with h | rfl
  · grind
  · decide

theorem not_isDigits_of_mem {c : Char} {w : List Char} (hc : ¬ c.isDigit) (h : c ∈ w) :
    ¬ IsDigits w := fun hw => hc (hw.2 c h)

theorem exists_marker {e : List Char} (h : IsExponent e) :
    ∃ m e', e = m :: e' ∧ (m = 'e' ∨ m = 'E') := by
  cases h with
  | unsigned hm _ => exact ⟨_, _, rfl, hm⟩
  | signed hm _ _ => exact ⟨_, _, rfl, hm⟩

theorem not_isDigit_marker {m : Char} (h : m = 'e' ∨ m = 'E') : ¬ m.isDigit := by
  rcases h with rfl | rfl <;> decide

theorem isDigit_of_append_eq {ds t cs : List Char} {c : Char} (h : IsDigits ds)
    (ht : ds ++ t = c :: cs) : c.isDigit := by
  obtain ⟨d, ds', rfl⟩ := List.exists_cons_of_ne_nil h.1
  cases ht
  exact h.2 _ List.mem_cons_self

/-! ## Each text has one kind -/

namespace Lexical

/-- The kind of a token's text: its first character tells the rule. -/
def kindOf : List Char → Kind
  | [] => .error
  | c :: cs =>
    if isWordStart c then (Kind.keyword? (String.ofList (c :: cs))).getD .identifier
    else if c = '"' then .stringLiteral
    else if c.isDigit || c = '.' then
      if (c :: cs).all Char.isDigit then .intLiteral else .floatLiteral
    else (Kind.all.find? (·.spelling.toList = c :: cs)).getD .error

theorem kindOf_of_isDigit {c : Char} {w cs : List Char} (hc : c.isDigit) (hw : w = c :: cs) :
    kindOf w = if w.all Char.isDigit then .intLiteral else .floatLiteral := by
  have hstart : ¬ isWordStart c := fun h => not_isDigit_of_isWordStart h hc
  have hquote : c ≠ '"' := by rintro rfl; exact absurd hc (by decide)
  subst hw
  simp only [kindOf, if_neg hstart, if_neg hquote, hc, Bool.true_or, if_true]

theorem kindOf_float {ds t : List Char} {c : Char} (h : IsDigits ds) (hc : ¬ c.isDigit) :
    kindOf (ds ++ c :: t) = .floatLiteral := by
  obtain ⟨d, ds', rfl⟩ := List.exists_cons_of_ne_nil h.1
  rw [List.cons_append, kindOf_of_isDigit (h.2 d List.mem_cons_self) rfl, if_neg]
  simp [hc]

theorem kind_eq {k : Kind} {w : List Char} (h : Lexical k w) : k = kindOf w := by
  cases h with
  | word hc _ => exact (if_pos hc).symm
  | @integer ds hds =>
    obtain ⟨d, ds', rfl⟩ := List.exists_cons_of_ne_nil hds.1
    rw [kindOf_of_isDigit (hds.2 d List.mem_cons_self) rfl, if_pos (List.all_eq_true.2 hds.2)]
  | point hds => exact (kindOf_float hds (by decide)).symm
  | decimal hds _ _ => exact (kindOf_float hds (by decide)).symm
  | scientific hds he =>
    obtain ⟨m, e, rfl, hm⟩ := exists_marker he
    exact (kindOf_float hds (not_isDigit_marker hm)).symm
  | fraction hfs he => rfl
  | string hbody => rfl
  | @fixed k hk => cases k <;> cases hk <;> decide

/-- The kind of a word keeps its text, and it is none of those that are read otherwise. -/
theorem kind_word (w : String) : ((Kind.keyword? w).getD .identifier).keepsText ∧
    (Kind.keyword? w).getD .identifier ≠ .error ∧
    (Kind.keyword? w).getD .identifier ≠ .stringLiteral := by
  cases h : Kind.keyword? w with
  | none => exact ⟨rfl, nofun, nofun⟩
  | some k =>
    have hk : ∀ p ∈ Kind.keywords, p.2.keepsText ∧ p.2 ≠ .error ∧ p.2 ≠ .stringLiteral := by decide
    obtain ⟨l, l', hkeywords, -⟩ := List.lookup_eq_some_iff.1 h
    exact hk (w, k) (hkeywords ▸ List.mem_append_right l List.mem_cons_self)

/-- The text of a token is kept or fixed by its kind. -/
theorem keepsText_or_fixed {k : Kind} {w : List Char} (h : Lexical k w) :
    k.keepsText ∧ k ≠ .error ∨ k.hasFixedText ∧ w = k.spelling.toList := by
  cases h with
  | word _ _ => exact .inl ⟨(kind_word _).1, (kind_word _).2.1⟩
  | fixed hk => exact .inr ⟨hk, rfl⟩
  | _ => exact .inl ⟨rfl, nofun⟩

/-- **Each text has one kind.** -/
theorem kind_unique {k k' : Kind} {w : List Char} (h : Lexical k w) (h' : Lexical k' w) :
    k = k' := by rw [h.kind_eq, h'.kind_eq]

end Lexical

/-! ## No text goes beyond the end marker -/

theorem IsDigits.nul_notMem {w : List Char} (h : IsDigits w) : '\x00' ∉ w :=
  fun hmem => absurd (h.2 _ hmem) (by decide)

theorem IsExponent.nul_notMem {e : List Char} (h : IsExponent e) : '\x00' ∉ e := by
  cases h with
  | unsigned hm hds => rcases hm with rfl | rfl <;> simpa using hds.nul_notMem
  | signed hm hs hds =>
    rcases hm with rfl | rfl <;> rcases hs with rfl | rfl <;> simpa using hds.nul_notMem

theorem IsStringBody.nul_notMem {body : List Char} (h : IsStringBody body) : '\x00' ∉ body := by
  induction h with
  | nil => exact List.not_mem_nil
  | escape hc _ ih => simpa [Ne.symm hc] using ih
  | char _ _ _ hc _ ih => simpa [Ne.symm hc] using ih

theorem Lexical.nul_notMem {k : Kind} {w : List Char} (h : Lexical k w) : '\x00' ∉ w := by
  have hpower : ∀ {e}, e = [] ∨ IsExponent e → '\x00' ∉ e := by
    rintro e (rfl | he)
    · exact List.not_mem_nil
    · exact he.nul_notMem
  cases h with
  | @word c cs hc hcs =>
    rintro (_ | ⟨_, hmem⟩)
    · exact absurd hc (by decide)
    · exact absurd (hcs _ hmem) (by decide)
  | integer hds => exact hds.nul_notMem
  | point hds => simpa using hds.nul_notMem
  | decimal hds hfs he => simp [hds.nul_notMem, hfs.nul_notMem, hpower he]
  | scientific hds he => simp [hds.nul_notMem, he.nul_notMem]
  | fraction hfs he => simp [hfs.nul_notMem, hpower he]
  | string hbody => simpa using hbody.nul_notMem
  | @fixed k hk => cases k <;> cases hk <;> decide

namespace Lexeme

/-- The outcomes of a read: a lexeme and the text after it. -/
inductive Reads : Lexeme → List Char → Prop
  | token {k : Kind} {cs : List Char} (rest : List Char) :
      Lexical k cs → ¬ IsDigits cs → k ≠ .stringLiteral → Reads (plain k cs) rest
  | integer {ds rest : List Char} : IsDigits ds → rest.head? ≠ some 'e' → rest.head? ≠ some 'E' →
      Reads (plain .intLiteral ds) rest
  /-- The exponent that follows is not complete. -/
  | mantissa {ds rest : List Char} : IsDigits ds → rest.head? = some 'e' ∨ rest.head? = some 'E' →
      Reads (plain .floatLiteral ds) rest
  | string {body : List Char} (rest : List Char) : IsStringBody body →
      Reads (quoted body .closed) rest
  | newline {body rest : List Char} : rest.head? = some '\n' → Reads (quoted body .newline) rest
  | endOfInput (body : List Char) : Reads (quoted body .endOfInput) []
  | error {c : Char} (rest : List Char) : c ≠ '"' → Reads (plain .error [c]) rest

/-- The lexeme is a token, and not one of the ways in which reading a token fails. -/
def isComplete : Lexeme → Bool
  | plain k _ => k ≠ .error
  | quoted _ ending => ending = .closed

/-- The lexeme is a token that reaches at least as far as the text `w`. -/
structure Covers (l : Lexeme) (w : List Char) : Prop where
  isComplete : l.isComplete
  length_le : w.length ≤ l.chars.length

/-! ## Digits -/

theorem isDigits_takeWhile {cs : List Char} (h : cs.takeWhile Char.isDigit ≠ []) :
    IsDigits (cs.takeWhile Char.isDigit) :=
  ⟨h, fun _ => List.mem_takeWhile_imp⟩

/-- Digits at the front are among those that the scanner takes. -/
theorem length_le_takeWhile {ds t : List Char} (h : IsDigits ds) :
    ds.length ≤ ((ds ++ t).takeWhile Char.isDigit).length := by
  rw [List.takeWhile_append_of_pos h.2, List.length_append]
  omega

/-- Digits that end where another character follows are exactly those that the scanner takes. -/
theorem span_digits {ds t : List Char} {c : Char} (h : IsDigits ds) (hc : ¬ c.isDigit) :
    (ds ++ c :: t).takeWhile Char.isDigit = ds ∧
      (ds ++ c :: t).dropWhile Char.isDigit = c :: t := by
  rw [List.takeWhile_append_of_pos h.2, List.dropWhile_append_of_pos h.2,
    List.takeWhile_cons_of_neg hc, List.dropWhile_cons_of_neg hc, List.append_nil]
  exact ⟨rfl, rfl⟩

/-! ## Exponents -/

theorem exponent_eq_of_head {cs head rest : List Char} (h : exponentHead cs = some (head, rest))
    (hr : rest.takeWhile Char.isDigit ≠ []) :
    exponent cs = (head ++ rest.takeWhile Char.isDigit, rest.dropWhile Char.isDigit) := by
  unfold exponent
  rw [h]
  simp only

theorem exponentHead_signed {m s : Char} {rest : List Char} (hm : m = 'e' ∨ m = 'E')
    (hs : s = '+' ∨ s = '-') : exponentHead (m :: s :: rest) = some ([m, s], rest) := by
  rcases hm with rfl | rfl <;> rcases hs with rfl | rfl <;> rfl

theorem exponentHead_unsigned {m d : Char} {rest : List Char} (hm : m = 'e' ∨ m = 'E')
    (hd : d.isDigit) : exponentHead (m :: d :: rest) = some ([m], d :: rest) := by
  have h1 : d ≠ '+' := by rintro rfl; revert hd; decide
  have h2 : d ≠ '-' := by rintro rfl; revert hd; decide
  rcases hm with rfl | rfl <;> simp [exponentHead, h1, h2]

/-- An exponent at the front is among what the scanner takes for one. -/
theorem length_le_exponent {e t : List Char} (h : IsExponent e) :
    e.length ≤ (exponent (e ++ t)).1.length := by
  cases h with
  | @signed m s ds hm hs hds =>
    have hlen := length_le_takeWhile (t := t) hds
    rw [List.cons_append, List.cons_append, exponent_eq_of_head (exponentHead_signed hm hs)]
    · simpa using hlen
    · rintro hnil
      rw [hnil] at hlen
      exact hds.1 (List.length_eq_zero_iff.1 (Nat.le_zero.1 hlen))
  | @unsigned m ds hm hds =>
    have hlen := length_le_takeWhile (t := t) hds
    obtain ⟨d, ds', rfl⟩ := List.exists_cons_of_ne_nil hds.1
    rw [List.cons_append, List.cons_append,
      exponent_eq_of_head (exponentHead_unsigned hm (hds.2 d List.mem_cons_self))]
    · simpa using hlen
    · rintro hnil
      rw [List.cons_append, hnil] at hlen
      simp at hlen

theorem exponentHead_cases {cs head rest : List Char} (h : exponentHead cs = some (head, rest)) :
    (∃ m, (m = 'e' ∨ m = 'E') ∧ head = [m]) ∨
      ∃ m s, (m = 'e' ∨ m = 'E') ∧ (s = '+' ∨ s = '-') ∧ head = [m, s] := by
  unfold exponentHead at h
  split at h
  · cases h
  · split at h
    · next m rest hm =>
      have hm' : m = 'e' ∨ m = 'E' := by simpa using hm
      split at h
      · cases h
        exact .inl ⟨m, hm', rfl⟩
      · split at h
        · next s rest' hs =>
          cases h
          exact .inr ⟨m, s, hm', by simpa using hs, rfl⟩
        · cases h
          exact .inl ⟨m, hm', rfl⟩
    · cases h

theorem exponent_spec (cs : List Char) : (exponent cs).1 = [] ∨ IsExponent (exponent cs).1 := by
  unfold exponent
  split
  · exact .inl rfl
  · next head rest h =>
    split
    · exact .inl rfl
    · next hne =>
      right
      have hds : IsDigits (rest.takeWhile Char.isDigit) := isDigits_takeWhile hne
      rcases exponentHead_cases h with ⟨m, hm, rfl⟩ | ⟨m, s, hm, hs, rfl⟩
      · exact .unsigned hm hds
      · exact .signed hm hs hds

/-! ## Numbers -/

theorem number_of_fraction {cs rest : List Char} (h : cs.dropWhile Char.isDigit = '.' :: rest)
    (hr : rest.takeWhile Char.isDigit ≠ []) :
    number cs = (plain .floatLiteral (cs.takeWhile Char.isDigit ++
      '.' :: (rest.takeWhile Char.isDigit ++ (exponent (rest.dropWhile Char.isDigit)).1)),
      (exponent (rest.dropWhile Char.isDigit)).2) := by
  unfold number
  rw [h]
  simp only

theorem number_of_marker {cs rest : List Char} {m : Char} (hm : m = 'e' ∨ m = 'E')
    (h : cs.dropWhile Char.isDigit = m :: rest) :
    number cs = (plain .floatLiteral (cs.takeWhile Char.isDigit ++ (exponent (m :: rest)).1),
      (exponent (m :: rest)).2) := by
  unfold number
  rw [h]
  rcases hm with rfl | rfl <;> rfl

theorem reads_number {cs : List Char} (h : cs.takeWhile Char.isDigit ≠ []) :
    Reads (number cs).1 (number cs).2 := by
  have hds := isDigits_takeWhile h
  unfold number
  split
  · next rest hd =>
    split
    · exact .token _ (.point hds) (not_isDigits_of_mem (c := '.') (by decide) (by simp)) nofun
    · next hne =>
      refine .token _ (.decimal hds (isDigits_takeWhile hne) (exponent_spec _)) ?_ nofun
      exact not_isDigits_of_mem (c := '.') (by decide) (by simp)
  · next c rest _ hd =>
    split
    · next hc =>
      have hm : c = 'e' ∨ c = 'E' := by simpa using hc
      rcases exponent_spec (c :: rest) with hnil | hexp
      · have happ := exponent_append (c :: rest)
        rw [hnil, List.nil_append] at happ
        simp only [hnil, List.append_nil, happ]
        exact .mantissa hds (by simpa using hm)
      · refine .token _ (.scientific hds hexp) ?_ nofun
        obtain ⟨m, e, he, hm'⟩ := exists_marker hexp
        rw [he]
        exact not_isDigits_of_mem (not_isDigit_marker hm') (by simp)
    · next hc =>
      have hm : ¬ (c = 'e' ∨ c = 'E') := by simpa using hc
      rw [not_or] at hm
      exact .integer hds (by simpa using hm.1) (by simpa using hm.2)
  · exact .integer hds nofun nofun

theorem length_takeWhile_le_number (cs : List Char) :
    (cs.takeWhile Char.isDigit).length ≤ (number cs).1.chars.length := by
  unfold number
  split
  · split <;> simp
  · split <;> simp
  · exact le_rfl

theorem length_point_le_number {ds : List Char} (h : IsDigits ds) (t : List Char) :
    ds.length + 1 ≤ (number (ds ++ '.' :: t)).1.chars.length := by
  obtain ⟨htake, hdrop⟩ := span_digits (t := t) h (c := '.') (by decide)
  unfold number
  rw [hdrop, htake]
  simp only
  split <;> simp

theorem length_scientific_le_number {ds e : List Char} (h : IsDigits ds) (he : IsExponent e)
    (t : List Char) : (ds ++ e).length ≤ (number (ds ++ e ++ t)).1.chars.length := by
  obtain ⟨m, e', rfl, hm⟩ := exists_marker he
  have hlen := length_le_exponent (t := t) he
  rw [List.append_assoc, List.cons_append]
  obtain ⟨htake, hdrop⟩ := span_digits (t := e' ++ t) h (not_isDigit_marker hm)
  rw [number_of_marker hm hdrop, htake]
  simpa using hlen

/-- A fraction and its exponent, if there is one, are among what the scanner takes. -/
theorem length_fraction_le {fs e : List Char} (h : IsDigits fs) (he : e = [] ∨ IsExponent e)
    (t : List Char) : (fs ++ e).length ≤ ((fs ++ (e ++ t)).takeWhile Char.isDigit).length +
      (exponent ((fs ++ (e ++ t)).dropWhile Char.isDigit)).1.length := by
  rcases he with rfl | he
  · have := length_le_takeWhile (t := t) h
    simp only [List.append_nil, List.nil_append]
    omega
  · obtain ⟨m, e', rfl, hm⟩ := exists_marker he
    obtain ⟨htake, hdrop⟩ := span_digits (t := e' ++ t) h (not_isDigit_marker hm)
    rw [List.cons_append, htake, hdrop]
    have hlen := length_le_exponent (t := t) he
    rw [List.cons_append] at hlen
    simp only [List.length_append]
    omega

theorem takeWhile_ne_nil {fs : List Char} (h : IsDigits fs) (t : List Char) :
    (fs ++ t).takeWhile Char.isDigit ≠ [] := by
  rw [List.takeWhile_append_of_pos h.2]
  simp [h.1]

theorem length_decimal_le_number {ds fs e : List Char} (h : IsDigits ds) (hf : IsDigits fs)
    (he : e = [] ∨ IsExponent e) (t : List Char) :
    (ds ++ '.' :: (fs ++ e)).length ≤
      (number (ds ++ '.' :: (fs ++ e) ++ t)).1.chars.length := by
  have hlen := length_fraction_le hf he t
  rw [List.append_assoc, List.cons_append, List.append_assoc]
  obtain ⟨htake, hdrop⟩ := span_digits (t := fs ++ (e ++ t)) h (c := '.') (by decide)
  rw [number_of_fraction hdrop (takeWhile_ne_nil hf _), htake]
  simp only [chars_plain, List.length_append, List.length_cons] at hlen ⊢
  omega

theorem isComplete_number (cs : List Char) : (number cs).1.isComplete := by
  unfold number
  split
  · split <;> rfl
  · split <;> rfl
  · rfl

theorem read_of_isDigit {c : Char} (h : c.isDigit) (cs : List Char) :
    read c cs = number (c :: cs) := if_pos h

theorem covers_number {ds t w : List Char} {c : Char} {cs : List Char} (hds : IsDigits ds)
    (ht : ds ++ t = c :: cs) (h : w.length ≤ (number (ds ++ t)).1.chars.length) :
    Covers (read c cs).1 w := by
  rw [read_of_isDigit (isDigit_of_append_eq hds ht), ← ht]
  exact ⟨isComplete_number _, h⟩

/-! ## Fractions -/

theorem fraction_of_digits {cs : List Char} (h : cs.takeWhile Char.isDigit ≠ []) :
    fraction cs = (plain .floatLiteral ('.' :: (cs.takeWhile Char.isDigit ++
      (exponent (cs.dropWhile Char.isDigit)).1)), (exponent (cs.dropWhile Char.isDigit)).2) := by
  unfold fraction
  split
  · next hnil => exact absurd hnil h
  · rfl

theorem reads_fraction (cs : List Char) : Reads (fraction cs).1 (fraction cs).2 := by
  by_cases h : cs.takeWhile Char.isDigit = []
  · unfold fraction
    rw [h]
    exact .error _ (by decide)
  · rw [fraction_of_digits h]
    refine .token _ (.fraction (isDigits_takeWhile h) (exponent_spec _)) ?_ nofun
    exact not_isDigits_of_mem (c := '.') (by decide) (by simp)

theorem covers_fraction {fs e : List Char} (hf : IsDigits fs) (he : e = [] ∨ IsExponent e)
    (t : List Char) : Covers (fraction (fs ++ e ++ t)).1 ('.' :: (fs ++ e)) := by
  have hlen := length_fraction_le hf he t
  rw [List.append_assoc, fraction_of_digits (takeWhile_ne_nil hf _)]
  refine ⟨rfl, ?_⟩
  simp only [chars_plain, List.length_append, List.length_cons] at hlen ⊢
  omega

/-! ## Words -/

theorem read_of_isWordStart {c : Char} (h : isWordStart c) (cs : List Char) :
    read c cs = word (c :: cs) := by
  unfold read
  rw [if_neg (not_isDigit_of_isWordStart h), if_pos h]

theorem reads_word {c : Char} (h : isWordStart c) (cs : List Char) :
    Reads (word (c :: cs)).1 (word (c :: cs)).2 := by
  have htake : (c :: cs).takeWhile isWordPart = c :: cs.takeWhile isWordPart :=
    List.takeWhile_cons_of_pos (isWordPart_of_isWordStart h)
  unfold word
  rw [htake]
  refine .token _ (.word h fun _ => List.mem_takeWhile_imp) ?_ (Lexical.kind_word _).2.2
  exact not_isDigits_of_mem (not_isDigit_of_isWordStart h) List.mem_cons_self

theorem covers_word {w : List Char} (h : ∀ c ∈ w, isWordPart c) (t : List Char) :
    Covers (word (w ++ t)).1 w := by
  constructor
  · simpa [word, Lexeme.isComplete] using (Lexical.kind_word _).2.1
  · rw [word, chars_plain, List.takeWhile_append_of_pos h, List.length_append]
    omega

/-! ## Strings -/

/-- The scanner stops a string at the quote that closes it. -/
theorem stringBody_append {body : List Char} (h : IsStringBody body) (t : List Char) :
    stringBody (body ++ '"' :: t) = (body, .closed, t) := by
  induction h with
  | nil => rfl
  | @escape c body _ _ ih => simp [stringBody, ih]
  | @char c body _ hb _ _ _ ih => simp [stringBody, ih, hb]

/-- A longer body ends the same way. -/
theorem Reads.longer_body {body body' rest : List Char} {ending : Ending}
    (h : Reads (quoted body ending) rest) (hbody : IsStringBody body → IsStringBody body') :
    Reads (quoted body' ending) rest := by
  cases h with
  | string _ hb => exact .string rest (hbody hb)
  | newline hn => exact .newline hn
  | endOfInput => exact .endOfInput body'

theorem reads_stringBody {cs : List Char} (h : '\x00' ∉ cs) :
    Reads (quoted (stringBody cs).1 (stringBody cs).2.1) (stringBody cs).2.2 := by
  induction cs using stringBody.induct with
  | case1 => exact .endOfInput []
  | case2 rest => exact .string rest .nil
  | case3 rest => exact .newline rfl
  | case4 c rest body ending rest' heq ih =>
    simp only [List.mem_cons, not_or] at h
    simp only [stringBody, heq] at ih ⊢
    exact (ih h.2.2).longer_body (.escape (Ne.symm h.2.1))
  | case5 c rest hquote hnewline hescape body ending rest' heq ih =>
    simp only [List.mem_cons, not_or] at h
    by_cases hc : c = '\\'
    · -- A backslash that takes nothing with it is the last character of the text.
      cases rest with
      | nil => subst hc; exact .endOfInput _
      | cons d rest => exact (hescape d rest hc rfl).elim
    · simp only [stringBody, heq] at ih ⊢
      exact (ih h.2).longer_body (.char hquote hc hnewline (Ne.symm h.1))

theorem covers_string {body : List Char} (h : IsStringBody body) (t : List Char) :
    Covers (string (body ++ '"' :: t)).1 ('"' :: (body ++ ['"'])) := by
  rw [string, stringBody_append h]
  exact ⟨rfl, le_rfl⟩

/-! ## Operators and punctuation -/

theorem reads_fixed {k : Kind} (h : k.hasFixedText) (rest : List Char) :
    Reads (plain k k.spelling.toList) rest := by
  have hdigits : k.spelling.toList.all Char.isDigit = false := by cases k <;> cases h <;> rfl
  refine .token rest (.fixed h) ?_ ?_
  · intro hds
    rw [List.all_eq_true.2 hds.2] at hdigits
    cases hdigits
  · rintro rfl
    cases h

theorem reads_oneOrTwo {c d : Char} {one two : Kind} (hone : ∀ rest, Reads (plain one [c]) rest)
    (htwo : ∀ rest, Reads (plain two [c, d]) rest) (cs : List Char) :
    Reads (oneOrTwo c d one two cs).1 (oneOrTwo c d one two cs).2 := by
  unfold oneOrTwo
  split
  · split
    · next h => subst h; exact htwo _
    · exact hone _
  · exact hone _

theorem reads_read {c : Char} {cs : List Char} (h : '\x00' ∉ c :: cs) :
    Reads (read c cs).1 (read c cs).2 := by
  unfold read
  split
  · next hc => exact reads_number (by simp [hc])
  · split
    · next hc => exact reads_word hc cs
    · split
      · exact reads_fraction cs
      · exact reads_stringBody fun hmem => h (List.mem_cons_of_mem _ hmem)
      · exact reads_oneOrTwo (reads_fixed (k := .assign) rfl) (reads_fixed (k := .equal) rfl) cs
      · exact reads_oneOrTwo (reads_fixed (k := .not) rfl) (reads_fixed (k := .notEqual) rfl) cs
      · exact reads_oneOrTwo (reads_fixed (k := .less) rfl) (reads_fixed (k := .lessEqual) rfl) cs
      · exact reads_oneOrTwo (reads_fixed (k := .greater) rfl)
          (reads_fixed (k := .greaterEqual) rfl) cs
      · exact reads_oneOrTwo (.error · (by decide)) (reads_fixed (k := .and) rfl) cs
      · exact reads_oneOrTwo (.error · (by decide)) (reads_fixed (k := .or) rfl) cs
      · exact reads_fixed (k := .plus) rfl cs
      · exact reads_fixed (k := .minus) rfl cs
      · exact reads_fixed (k := .times) rfl cs
      · exact reads_fixed (k := .div) rfl cs
      · exact reads_fixed (k := .leftBrace) rfl cs
      · exact reads_fixed (k := .rightBrace) rfl cs
      · exact reads_fixed (k := .leftBracket) rfl cs
      · exact reads_fixed (k := .rightBracket) rfl cs
      · exact reads_fixed (k := .leftParen) rfl cs
      · exact reads_fixed (k := .rightParen) rfl cs
      · exact reads_fixed (k := .comma) rfl cs
      · exact reads_fixed (k := .semicolon) rfl cs
      · next hquote _ _ _ _ _ _ _ _ _ _ _ _ _ _ _ _ _ _ => exact .error cs hquote

/-! ## Every token at the front is read -/

theorem covers_oneOrTwo (c d : Char) (one two : Kind) (hone : one ≠ .error) (htwo : two ≠ .error)
    (cs : List Char) : Covers (oneOrTwo c d one two cs).1 [c] := by
  refine ⟨?_, List.length_pos_iff.2 (chars_oneOrTwo_ne_nil c d one two cs)⟩
  unfold oneOrTwo
  split
  · split <;> simp [Lexeme.isComplete, hone, htwo]
  · simp [Lexeme.isComplete, hone]

theorem covers_fixed {k : Kind} {c : Char} {cs : List Char} (hk : k.hasFixedText)
    (h : k.spelling.toList <+: c :: cs) : Covers (read c cs).1 k.spelling.toList := by
  obtain ⟨t, ht⟩ := h
  cases k <;> cases hk <;> cases ht
  -- Four operators may be the front of a longer one; the others are read as they stand.
  case assign => exact covers_oneOrTwo '=' '=' .assign .equal nofun nofun t
  case not => exact covers_oneOrTwo '!' '=' .not .notEqual nofun nofun t
  case less => exact covers_oneOrTwo '<' '=' .less .lessEqual nofun nofun t
  case greater => exact covers_oneOrTwo '>' '=' .greater .greaterEqual nofun nofun t
  all_goals exact ⟨rfl, le_rfl⟩

/-- **No token is missed.** If a token is at the front of the input, the scanner reads a token
there, and none that is shorter. -/
theorem covers_of_lexical {k : Kind} {c : Char} {cs w : List Char} (h : Lexical k w)
    (hw : w <+: c :: cs) : Covers (read c cs).1 w := by
  obtain ⟨t, ht⟩ := hw
  cases h with
  | word hd hds =>
    cases ht
    rw [read_of_isWordStart hd]
    exact covers_word (List.forall_mem_cons.2 ⟨isWordPart_of_isWordStart hd, hds⟩) t
  | integer hds =>
    exact covers_number hds ht (le_trans (length_le_takeWhile hds) (length_takeWhile_le_number _))
  | @point ds hds =>
    rw [List.append_assoc] at ht
    exact covers_number hds ht (by simpa using length_point_le_number hds t)
  | decimal hds hfs he =>
    have hlen := length_decimal_le_number hds hfs he t
    rw [List.append_assoc] at ht hlen
    exact covers_number hds ht hlen
  | scientific hds he =>
    have hlen := length_scientific_le_number hds he t
    rw [List.append_assoc] at ht hlen
    exact covers_number hds ht hlen
  | fraction hfs he =>
    cases ht
    exact covers_fraction hfs he t
  | string hbody =>
    rw [List.cons_append, List.append_assoc] at ht
    cases ht
    exact covers_string hbody t
  | fixed hk => exact covers_fixed hk ⟨t, ht⟩

end Lexeme

end MiniC
