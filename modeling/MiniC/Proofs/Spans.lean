import MiniC.Proofs.Tiling

/-!
# No two tokens have the same span

Reading on always leads to a new place: a newline raises the line, and without one the column grows
(`Place.after_ne`). So the places of a text's indices are all different (`placeAt_ne`), and a token
can be told by its span alone.

**Theorem (`nodup_spans`).** The spans of the tokens of a source are pairwise distinct. The end of
input is placed at the first column of its line, which may be where another token starts; its span
is empty, though, and that of a token is not.
-/

namespace MiniC

/-! ## Places -/

namespace Place

theorem line_after (p : Place) (s : List Char) : (p.after s).line = p.line + s.count '\n' := by
  induction s generalizing p with
  | nil => rfl
  | cons c s ih =>
    rw [after_cons, ih, step]
    by_cases hc : c = '\n'
    · subst hc
      simp only [if_true, List.count_cons_self]
      omega
    · simp [hc]

theorem column_after (p : Place) {s : List Char} (h : '\n' ∉ s) :
    (p.after s).column = p.column + s.length := by
  induction s generalizing p with
  | nil => rfl
  | cons c s ih =>
    rw [List.mem_cons, not_or] at h
    have hstep : p.step c = ⟨p.line, p.column + 1⟩ := if_neg (Ne.symm h.1)
    rw [after_cons, ih _ h.2, hstep, List.length_cons]
    show p.column + 1 + s.length = p.column + (s.length + 1)
    omega

/-- Reading on never comes back to the same place. -/
theorem after_ne (p : Place) {s : List Char} (h : s ≠ []) : p.after s ≠ p := by
  intro heq
  have hline := p.line_after s
  rw [heq] at hline
  have hnewline : '\n' ∉ s := by
    intro hmem
    have hpos := List.count_pos_iff.2 hmem
    omega
  have hcolumn := p.column_after hnewline
  rw [heq] at hcolumn
  have hpos := List.length_pos_iff.2 h
  omega

end Place

/-- The place of an index comes after that of an earlier one. -/
theorem placeAt_eq_after (text : List Char) {i j : Nat} (h : i ≤ j) :
    placeAt text j = (placeAt text i).after (text.extract i j) := by
  have htake : text.take j = text.take i ++ text.extract i j := by
    rw [List.extract_eq_take_drop, ← List.take_add, Nat.add_sub_cancel' h]
  rw [placeAt_eq, placeAt_eq, htake, Place.after_append]

/-- Different indices of a text are at different places. -/
theorem placeAt_ne {text : List Char} {i j : Nat} (hij : i < j) (hj : j ≤ text.length) :
    placeAt text i ≠ placeAt text j := by
  have hne : text.extract i j ≠ [] := by
    apply List.ne_nil_of_length_pos
    rw [List.extract_eq_take_drop, List.length_take, List.length_drop]
    omega
  rw [placeAt_eq_after text hij.le]
  exact (Place.after_ne _ hne).symm

/-! ## Spans of tokens -/

theorem ReadAt.span_eq {text : List Char} {t : Token} {a b : Nat} (h : ReadAt text t a b) :
    t.span = ⟨placeAt text a, placeAt text b⟩ := by
  obtain ⟨-, -, rfl⟩ := h
  rfl

namespace Tiles

variable {P : Token → Nat → Nat → Prop} {text : List Char} {i : Nat} {ranges : List (Nat × Nat)}
  {tokens : List Token}

/-- Every token of a tiling has its range after the index where the tiling starts. -/
theorem exists_range (h : Tiles P text i ranges tokens) {t : Token} (ht : t ∈ tokens) :
    ∃ a b, i ≤ a ∧ a < b ∧ b ≤ text.length ∧ P t a b := by
  induction h with
  | last => cases ht
  | @token i a b t' ranges tokens hia hab hb _ hP _ ih =>
    rcases List.mem_cons.1 ht with rfl | ht
    · exact ⟨a, b, hia, hab, hb, hP⟩
    · obtain ⟨a', b', hba, hab', hb', hP'⟩ := ih ht
      exact ⟨a', b', by omega, hab', hb', hP'⟩

theorem nodup_map_span (h : Tiles (ReadAt text) text i ranges tokens) :
    (tokens.map Token.span).Nodup := by
  induction h with
  | last => exact List.nodup_nil
  | @token i a b t ranges tokens _ hab hb _ hread htiles ih =>
    rw [List.map_cons, List.nodup_cons]
    refine ⟨?_, ih⟩
    intro hmem
    obtain ⟨t', ht', hspan⟩ := List.mem_map.1 hmem
    obtain ⟨a', b', hba, hab', hb', hread'⟩ := htiles.exists_range ht'
    rw [hread.span_eq, hread'.span_eq] at hspan
    exact placeAt_ne (by omega) (by omega) (congrArg Span.start hspan).symm

end Tiles

/-- **Spans tell tokens apart.** -/
theorem nodup_spans (source : String) : ((tokenize source).1.map Token.span).Nodup := by
  obtain ⟨ranges, tokens, htokens, -, htiles⟩ := tiles_readable source
  rw [htokens, List.map_append, List.map_singleton, List.nodup_append]
  refine ⟨htiles.nodup_map_span, List.nodup_singleton _, ?_⟩
  intro span hspan point hpoint heq
  obtain ⟨t, ht, rfl⟩ := List.mem_map.1 hspan
  obtain ⟨a, b, -, hab, hb, hread⟩ := htiles.exists_range ht
  obtain rfl := List.mem_singleton.1 hpoint
  have hempty : placeAt (readable source) a = placeAt (readable source) b := by
    rw [hread.span_eq] at heq
    exact (congrArg Span.start heq).trans (congrArg Span.stop heq).symm
  exact placeAt_ne hab hb hempty

end MiniC
