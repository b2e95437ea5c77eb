import MiniC.Proofs.Steps

/-!
# Spelled tokens are read back

**Spellings.** A spelling is a kind and a text of that kind, where a string has no escape but `\n`
(`Spelling`). A spacing is a blank and then any gap (`Spacing`).

**Theorem (`tokenize_joined`).** Spellings with a spacing between each two are scanned into tokens
of exactly their kinds and texts, then the end of input, without a warning, provided that no spacing
has an end marker. A comment with one is closed in the text but not for the scanner, which reads
nothing behind it (`not_tokenize_joined_endMark`).

The induction is over the spellings. A spacing begins with a blank, so the spelling before it is
read as it stands (`next_lexical`), whatever comments the spacing goes on with; and it is a gap, so
it is skipped as a whole (`steps_gap`).
-/

namespace MiniC

/-! ## Spellings and spacings -/

/-- The text of a token, with its kind. -/
structure Spelling where
  kind : Kind
  text : List Char
  lexical : Lexical kind text
  /-- A backslash comes before an `n` and before nothing else. -/
  escapes : ∀ c, ['\\', c] <:+: text → c = 'n'

/-- What the token keeps: nothing if the kind tells the text, and a string without its quotes. -/
def Spelling.lexeme (w : Spelling) : List Char :=
  if w.kind.hasFixedText then []
  else if w.kind = .stringLiteral then w.text.tail.dropLast
  else w.text

/-- A blank, and then blanks and comments that are closed. -/
structure Spacing where
  first : Char
  more : List Char
  blank : first ∈ [' ', '\t', '\x0c', '\r', '\n']
  gap : Gap more

def Spacing.text (s : Spacing) : List Char := s.first :: s.more

/-- The spellings with spacings between them, one after another. -/
def joined (spacing : Nat → Spacing) : List Spelling → List Char
  | [] => []
  | [w] => w.text
  | w :: w' :: ws => w.text ++ ((spacing 0).text ++ joined (fun i => spacing (i + 1)) (w' :: ws))

namespace Spacing

theorem gap_text (s : Spacing) : Gap s.text := .cons (.blank s.blank) s.gap

theorem delimited (s : Spacing) (rest : List Char) : Delimited (s.text ++ rest) := by
  rintro c ⟨⟩
  have hmem := s.blank
  simp only [List.mem_cons, List.not_mem_nil, or_false] at hmem
  rcases hmem with h | h | h | h | h <;> rw [h] <;> rfl

theorem nul_notMem {s : Spacing} (h : '\x00' ∉ s.more) : '\x00' ∉ s.text := by
  intro hmem
  rcases List.mem_cons.1 hmem with hfirst | hmore
  · exact absurd (hfirst ▸ s.blank) (by decide)
  · exact h hmore

end Spacing

/-- No end marker is in the spacings that stand between the spellings. -/
def Readable (spacing : Nat → Spacing) (ws : List Spelling) : Prop :=
  ∀ i, i + 1 < ws.length → '\x00' ∉ (spacing i).more

theorem Readable.tail {spacing : Nat → Spacing} {w : Spelling} {ws : List Spelling}
    (h : Readable spacing (w :: ws)) : Readable (fun i => spacing (i + 1)) ws :=
  fun i hi => h (i + 1) (Nat.succ_lt_succ hi)

theorem nul_notMem_joined {spacing : Nat → Spacing} {ws : List Spelling}
    (hreadable : Readable spacing ws) : '\x00' ∉ joined spacing ws := by
  fun_induction joined spacing ws with
  | case1 => exact List.not_mem_nil
  | case2 spacing w => exact w.lexical.nul_notMem
  | case3 spacing w w' ws ih =>
    have hfirst : '\x00' ∉ (spacing 0).text :=
      Spacing.nul_notMem (hreadable 0 (Nat.succ_lt_succ (Nat.succ_pos _)))
    rw [List.mem_append, List.mem_append, not_or, not_or]
    exact ⟨w.lexical.nul_notMem, hfirst, ih hreadable.tail⟩

/-! ## One spelling -/

theorem Lexical.kind_ne_eof {k : Kind} {w : List Char} (h : Lexical k w) : k ≠ .eof := by
  rintro rfl
  rcases h.keepsText_or_fixed with ⟨hkeeps, -⟩ | ⟨hfixed, -⟩
  · cases hkeeps
  · cases hfixed

theorem Lexical.keepsText_eq {k : Kind} {w : List Char} (h : Lexical k w) :
    k.keepsText = !k.hasFixedText := by
  simp [Kind.keepsText, Kind.hasFixedText, h.kind_ne_eof]

namespace Lexeme

theorem text_ofText (w : Spelling) : (ofText w.kind w.text).text = w.lexeme := by
  have hkeeps : w.kind.keepsText = !w.kind.hasFixedText := w.lexical.keepsText_eq
  by_cases hk : w.kind = .stringLiteral
  · have hfixed : ¬ w.kind.hasFixedText := by rw [hk]; decide
    rw [ofText, if_pos hk, Spelling.lexeme, if_neg hfixed, if_pos hk]
    rfl
  · rw [ofText, if_neg hk, Spelling.lexeme, text, hkeeps]
    by_cases hfixed : w.kind.hasFixedText <;> simp [hfixed, hk]

theorem warnings_ofText (w : Spelling) (p : Place) : (ofText w.kind w.text).warnings p = [] := by
  by_cases hk : w.kind = .stringLiteral
  · have hbody : w.text.tail.dropLast <:+: w.text :=
      (List.dropLast_prefix _).isInfix.trans (List.tail_suffix _).isInfix
    have hclosed : Ending.closed ≠ .newline := by decide
    rw [ofText, if_pos hk, warnings, if_neg hclosed, List.append_nil]
    exact illegalEscapes_eq_nil (fun c hc => w.escapes c (hc.trans hbody)) _
  · rw [ofText, if_neg hk, warnings]

end Lexeme

/-- The kind, the text and the warnings of a step. -/
def Step.content (s : Step) : Kind × String × List Warning :=
  (s.token.kind, s.token.lexeme, s.warnings)

def Spelling.content (w : Spelling) : Kind × String × List Warning :=
  (w.kind, String.ofList w.lexeme, [])

/-- A spelling before a blank or the end is one step, with its kind and its text. -/
theorem content_steps_append (w : Spelling) {rest : List Char} (hrest : Delimited rest)
    (hnul : '\x00' ∉ w.text ++ rest) (p : Place) :
    (⟨w.text ++ rest, p⟩ : Cursor).steps.map Step.content =
      w.content :: (⟨rest, p.after w.text⟩ : Cursor).steps.map Step.content := by
  have hnext := Cursor.next_lexical w.lexical hrest hnul p
  have hcontent : Step.content (Cursor.next ⟨w.text ++ rest, p⟩).1 = w.content := by
    rw [hnext, Step.content, Spelling.content, Lexeme.token, Lexeme.kind_ofText,
      Lexeme.text_ofText, Lexeme.warnings_ofText]
  have hkind : (Cursor.next ⟨w.text ++ rest, p⟩).1.token.kind = w.kind := congrArg Prod.fst hcontent
  have heof : (Cursor.next ⟨w.text ++ rest, p⟩).1.token.kind ≠ .eof := hkind ▸ w.lexical.kind_ne_eof
  rw [Cursor.steps_of_ne_eof heof, List.map_cons, hcontent, hnext]

/-! ## All spellings -/

theorem content_steps_nil (p : Place) :
    (⟨[], p⟩ : Cursor).steps.map Step.content = [(.eof, "", [])] := by
  have heof : (Cursor.next ⟨[], p⟩).1.token.kind = .eof := by
    rw [Cursor.next_nil]
    rfl
  rw [Cursor.steps_of_eof heof, Cursor.next_nil]
  rfl

/-- **The steps of joined spellings.** -/
theorem content_steps_joined {spacing : Nat → Spacing} {ws : List Spelling}
    (hreadable : Readable spacing ws) (p : Place) :
    (⟨joined spacing ws, p⟩ : Cursor).steps.map Step.content =
      ws.map Spelling.content ++ [(.eof, "", [])] := by
  fun_induction joined spacing ws generalizing p with
  | case1 => exact content_steps_nil p
  | case2 spacing w =>
    have hend : Delimited [] := nofun
    have hnul : '\x00' ∉ w.text ++ [] := (List.append_nil w.text).symm ▸ w.lexical.nul_notMem
    rw [← List.append_nil w.text, content_steps_append w hend hnul, content_steps_nil]
    rfl
  | case3 spacing w w' ws ih =>
    have hnul : '\x00' ∉ joined spacing (w :: w' :: ws) := nul_notMem_joined hreadable
    rw [content_steps_append w ((spacing 0).delimited _) hnul,
      Cursor.steps_gap (spacing 0).gap_text, ih hreadable.tail]
    rfl

/-- A text without an end marker is read to its end. -/
theorem Cursor.ofText_ofList {cs : List Char} (h : '\x00' ∉ cs) :
    ofText (String.ofList cs) = ⟨cs, .origin⟩ := by
  have hall : ∀ c ∈ cs, (c != Reader.endMark) = true := by
    intro c hc
    apply bne_iff_ne.2
    rintro rfl
    exact h hc
  have hremaining : (Reader.ofText (String.ofList cs)).remaining = cs := by
    simpa [Reader.remaining, Reader.ofText] using hall
  rw [ofText, ofReader, hremaining]

/-- **Spelled tokens are read back.** -/
theorem tokenize_joined (spacing : Nat → Spacing) (ws : List Spelling)
    (hreadable : ∀ i, i + 1 < ws.length → '\x00' ∉ (spacing i).more) :
    let scan := tokenize (String.ofList (joined spacing ws))
    scan.1.map (fun t => (t.kind, t.lexeme)) =
        ws.map (fun w => (w.kind, String.ofList w.lexeme)) ++ [(.eof, "")] ∧
      scan.2 = [] := by
  let scanner := Scanner.ofText (String.ofList (joined spacing ws))
  have hcursor : scanner.cursor = ⟨joined spacing ws, .origin⟩ :=
    Cursor.ofText_ofList (nul_notMem_joined hreadable)
  have hcontent : scanner.cursor.steps.map Step.content =
      ws.map Spelling.content ++ [(.eof, "", [])] := by
    rw [hcursor]
    exact content_steps_joined hreadable .origin
  constructor
  · calc scanner.scanAll.1.map (fun t => (t.kind, t.lexeme))
      _ = (scanner.cursor.steps.map Step.content).map (fun x => (x.1, x.2.1)) := by
        rw [scanner.tokens_scanAll, List.map_map, List.map_map]
        rfl
      _ = ws.map (fun w => (w.kind, String.ofList w.lexeme)) ++ [(.eof, "")] := by
        rw [hcontent, List.map_append, List.map_map]
        rfl
  · calc scanner.scanAll.2.warnings
      _ = (scanner.cursor.steps.map Step.content).flatMap (fun x => x.2.2) := by
        rw [scanner.warnings_scanAll, List.flatMap_map]
        rfl
      _ = [] := by
        rw [hcontent, List.flatMap_append, List.flatMap_map]
        simp [Spelling.content]

/-- A name, a division and a string, with a comment of each form between the last two. The `/` ends
at the blank behind it, though a comment comes next. -/
theorem tokenize_joined_commented :
    let scan := tokenize "n / // \"n\n /* \\ */ \"\\n\""
    scan.1.map (fun t => (t.kind, t.lexeme)) =
        [(.identifier, "n"), (.div, ""), (.stringLiteral, "\\n"), (.eof, "")] ∧
      scan.2 = [] := by
  have hescape {text : List Char} (h : '\\' ∉ text) (c : Char) (hc : ['\\', c] <:+: text) :
      c = 'n' := absurd (hc.mem List.mem_cons_self) h
  let name : Spelling :=
    ⟨.identifier, ['n'], @Lexical.word 'n' [] rfl nofun, hescape (by decide)⟩
  let division : Spelling := ⟨.div, "/".toList, .fixed rfl, hescape (by decide)⟩
  let newline : Spelling :=
    ⟨.stringLiteral, "\"\\n\"".toList, .string (.escape (by decide) .nil),
      by simp [List.infix_cons_iff]⟩
  let blank : Spacing := ⟨' ', [], by decide, .nil⟩
  let comments : Spacing :=
    ⟨' ', '/' :: '/' :: (" \"n".toList ++ ['\n']) ++
      ([' '] ++ ('/' :: '*' :: (" \\ ".toList ++ ['*', '/']) ++ ([' '] ++ []))), by decide,
      .cons (.line (by decide)) (.cons (.blank (by decide))
        (.cons (.block (by decide)) (.cons (.blank (by decide)) .nil)))⟩
  let spacing (i : Nat) : Spacing := if i = 0 then blank else comments
  have hreadable : ∀ i, i + 1 < 3 → '\x00' ∉ (spacing i).more := by
    intro i _
    by_cases hi : i = 0 <;> simp [spacing, hi, blank, comments]
  exact tokenize_joined spacing [name, division, newline] hreadable

/-- An end marker is the end of input also in a comment that is closed: the second name is not
read, and the comment is warned of as one that is never closed. -/
theorem not_tokenize_joined_endMark :
    ¬ ∀ (spacing : Nat → Spacing) (ws : List Spelling),
      let scan := tokenize (String.ofList (joined spacing ws))
      scan.1.map (fun t => (t.kind, t.lexeme)) =
          ws.map (fun w => (w.kind, String.ofList w.lexeme)) ++ [(.eof, "")] ∧
        scan.2 = [] := by
  intro hall
  let name : Spelling :=
    ⟨.identifier, ['a'], @Lexical.word 'a' [] rfl nofun, fun c hc =>
      absurd (hc.mem List.mem_cons_self) (by decide)⟩
  let comment : Spacing :=
    ⟨' ', '/' :: '*' :: (['\x00'] ++ ['*', '/']) ++ ([' '] ++ []), by decide,
      .cons (.block (by decide)) (.cons (.blank (by decide)) .nil)⟩
  have hscan : tokenize "a /*\x00*/ a" =
      ([⟨.identifier, "a", ⟨⟨1, 1⟩, ⟨1, 2⟩⟩⟩, .endOfInput ⟨1, 5⟩],
        [.unterminatedComment ⟨⟨1, 3⟩, ⟨1, 5⟩⟩]) := by cbv
  have hwarnings : (tokenize "a /*\x00*/ a").2 = [] := (hall (fun _ => comment) [name, name]).2
  rw [hscan] at hwarnings
  cases hwarnings

end MiniC
