import MiniC.Proofs.Lookahead
import MiniC.Proofs.Spelling
import MiniC.Proofs.Verdict

/-!
# Printed tokens are read back

**Printing.** A token is printed as its lexeme, a string in quotes, and an operator or punctuation
as its kind is spelled. The tokens of a source are printed with one space between each two
(`reprint`).

**Theorem (`tokenize_reprint`).** Scanning what was printed gives the same kinds and lexemes again,
and the same illegal escapes; the two texts are both accepted or both rejected.

Errors are left out, and so are digits before an exponent that is not complete, which were a
floating-point literal only for what followed them. Every other lexeme is printed as the text of a
token (`Lexeme.Prints`), and before a space or the end of the text that is what is read there. A
string that the end of its line cut short is printed with the quote it missed, and so without its
warning.
-/

namespace MiniC

/-! ## Printing -/

/-- The text that a token is printed as. -/
def printed (k : Kind) (lexeme : String) : String :=
  if k = .stringLiteral then "\"" ++ lexeme ++ "\""
  else if k.hasFixedText then k.spelling
  else lexeme

/-- The tokens but for the end of input, with single spaces between them. -/
def reprint (tokens : List Token) : String :=
  " ".intercalate ((tokens.filter (·.kind ≠ .eof)).map fun t => printed t.kind t.lexeme)

example : reprint (tokenize "x=\"\\q // \n/**/ -.5e+").1 = "x = \"\\q // \" - .5 e +" := by cbv

/-- The character of an illegal escape. -/
def Warning.escaped? : Warning → Option Char
  | illegalEscape c _ => some c
  | unterminatedString _ | unterminatedComment _ => none

/-! ## Lexemes, wherever they stand -/

namespace Lexeme

/-- The characters of a string body after a backslash, other than `n`. -/
def escapedChars : List Char → List Char
  | [] => []
  | '\\' :: c :: rest => if c = 'n' then escapedChars rest else c :: escapedChars rest
  | _ :: rest => escapedChars rest

def escaped : Lexeme → List Char
  | plain _ _ => []
  | quoted body _ => escapedChars body

theorem map_escaped?_illegalEscapes (p : Place) (body : List Char) :
    (illegalEscapes p body).map Warning.escaped? = (escapedChars body).map some := by
  fun_induction illegalEscapes p body with
  | case1 => rfl
  | case2 p rest q ih => exact ih
  | case3 p c rest q hc ih =>
    rw [escapedChars, if_neg hc, List.map_cons, List.map_cons, ih]
    rfl
  | case4 p c rest h ih => rw [escapedChars.eq_3 _ _ h, ih]

theorem filterMap_escaped?_warnings (l : Lexeme) (p : Place) :
    (l.warnings p).filterMap Warning.escaped? = l.escaped := by
  cases l with
  | plain => rfl
  | quoted body ending =>
    have hescapes : (illegalEscapes (p.step '"') body).filterMap Warning.escaped? =
        escapedChars body := by
      have hmap := congrArg (List.filterMap id) (map_escaped?_illegalEscapes (p.step '"') body)
      rwa [List.filterMap_map, List.filterMap_map, Function.id_comp, Function.id_comp,
        List.filterMap_some] at hmap
    rw [warnings, List.filterMap_append, hescapes, escaped]
    split <;> exact List.append_nil _

/-- The lexeme with its closing quote, if it is a string. -/
def close : Lexeme → Lexeme
  | plain k cs => plain k cs
  | quoted body _ => quoted body .closed

@[simp] theorem text_close (l : Lexeme) : l.close.text = l.text := by cases l <;> rfl

theorem map_escaped?_warnings_close (l : Lexeme) (p : Place) :
    (l.close.warnings p).map Warning.escaped? = l.escaped.map some := by
  cases l with
  | plain => rfl
  | quoted body ending =>
    have hclosed : Ending.closed ≠ .newline := by decide
    rw [close, warnings, if_neg hclosed, List.append_nil]
    exact map_escaped?_illegalEscapes _ body

/-! ## Lexemes that are read back -/

/-- The lexemes that are the text of a token, or would be with a closing quote. -/
inductive Prints : Lexeme → Prop
  | token {k : Kind} {w : List Char} : Lexical k w → k ≠ .stringLiteral → Prints (plain k w)
  | string {body : List Char} {ending : Ending} :
      IsStringBody body → ending ≠ .endOfInput → Prints (quoted body ending)

section Prints

variable {l : Lexeme}

theorem Prints.kind_close (h : l.Prints) : l.close.kind = l.kind := by
  cases h with
  | token => rfl
  | @string body ending _ hending =>
    cases ending with
    | closed | newline => rfl
    | endOfInput => exact absurd rfl hending

theorem Prints.lexical (h : l.Prints) : Lexical l.kind l.close.chars := by
  rw [← h.kind_close]
  cases h with
  | token hw _ => exact hw
  | string hbody _ => exact .string hbody

theorem Prints.ofText_eq (h : l.Prints) : ofText l.kind l.close.chars = l.close := by
  rw [← h.kind_close]
  cases h with
  | token _ hk => exact if_neg hk
  | @string body _ _ _ =>
    show quoted (body ++ ['"']).dropLast .closed = quoted body .closed
    rw [List.dropLast_concat]

/-- A lexeme is printed with its closing quote. -/
theorem Prints.printed_eq (h : l.Prints) :
    printed l.kind (String.ofList l.text) = String.ofList l.close.chars := by
  rw [← h.kind_close]
  cases h with
  | @token k w hw hk =>
    show printed k (String.ofList (if k.keepsText then w else [])) = String.ofList w
    rw [printed, if_neg hk, hw.keepsText_eq]
    rcases hw.keepsText_or_fixed with ⟨hkeeps, -⟩ | ⟨hfixed, rfl⟩
    · rw [hw.keepsText_eq, Bool.not_eq_true'] at hkeeps
      simp [hkeeps]
    · simp [hfixed]
  | @string body ending _ _ =>
    show "\"" ++ String.ofList body ++ "\"" = String.ofList ('"' :: (body ++ ['"']))
    apply String.toList_injective
    simp

/-- What is read is printed, but for errors and for digits that were no integer literal. -/
theorem prints_of_read? {cs rest : List Char} (h : Piece.read? cs = some (.lexeme l, rest))
    (hnul : '\x00' ∉ cs) (herror : l.kind ≠ .error)
    (hfloat : l.kind = .floatLiteral → ¬ IsDigits l.text) : l.Prints := by
  obtain ⟨c, cs, rfl, -, -, hread⟩ := Piece.exists_cons_of_read? h
  by_cases hquote : c = '"'
  · subst hquote
    obtain ⟨rfl, -⟩ := Prod.ext_iff.1 hread
    have hending : (stringBody cs).2.1 ≠ .endOfInput := by
      intro hending
      apply herror
      show (quoted (stringBody cs).1 (stringBody cs).2.1).kind = .error
      rw [hending]
      rfl
    have hbody := isStringBody_stringBody (fun hmem => hnul (List.mem_cons_of_mem _ hmem)) hending
    exact .string hbody hending
  · obtain ⟨k, w, hplain⟩ := exists_plain_read hquote hnul
    have hreads := reads_read hnul
    rw [hread] at hplain hreads
    subst hplain
    cases hreads with
    | token _ hw _ hk => exact .token hw hk
    | integer hds _ _ => exact .token (.integer hds) nofun
    | mantissa hds _ => exact absurd hds (hfloat rfl)
    | error => exact absurd rfl herror

end Prints

end Lexeme

/-! ## The lexemes of a text -/

/-- The lexemes among the pieces, up to a comment that is never closed. -/
def lexemes : List Piece → List Lexeme
  | [] | .openComment _ :: _ => []
  | .lexeme l :: ps => l :: lexemes ps
  | .blank _ :: ps | .lineComment _ _ :: ps | .blockComment _ :: ps => lexemes ps

/-- The kind and the text of a token. -/
def Token.content (t : Token) : Kind × String := (t.kind, t.lexeme)

def Lexeme.content (l : Lexeme) : Kind × String := (l.kind, String.ofList l.text)

theorem content_stepsOf (p : Place) (ps : List Piece) :
    (stepsOf p ps).map (Token.content ∘ Step.token) =
      (lexemes ps).map Lexeme.content ++ [(.eof, "")] := by
  induction ps generalizing p with
  | nil => rfl
  | cons piece ps ih =>
    cases piece with
    | blank | lineComment | blockComment => exact ih _
    | openComment => rfl
    | lexeme l => exact congrArg (_ :: ·) (ih _)

theorem filterMap_escaped?_stepsOf (p : Place) (ps : List Piece) :
    ((stepsOf p ps).flatMap Step.warnings).filterMap Warning.escaped? =
      (lexemes ps).flatMap Lexeme.escaped := by
  induction ps generalizing p with
  | nil => rfl
  | cons piece ps ih =>
    cases piece with
    | blank | lineComment | blockComment => exact ih _
    | openComment => rfl
    | lexeme l =>
      rw [stepsOf, List.flatMap_cons, List.filterMap_append, ih,
        Lexeme.filterMap_escaped?_warnings]
      rfl

/-- Every lexeme of a text is printed, under the same conditions. -/
theorem prints_of_mem_lexemes {cs : List Char} (hnul : '\x00' ∉ cs) {l : Lexeme}
    (h : l ∈ lexemes (pieces cs)) (herror : l.kind ≠ .error)
    (hfloat : l.kind = .floatLiteral → ¬ IsDigits l.text) : l.Prints := by
  induction cs using induction_on_pieces with
  | nil =>
    rw [pieces_nil] at h
    cases h
  | piece cs p rest hr ih =>
    have hrest := (Piece.nul_notMem_of_read? hr hnul).2
    rw [pieces_of_read? hr] at h
    cases p with
    | blank | lineComment | blockComment => exact ih hrest h
    | openComment => cases h
    | lexeme l' =>
      rcases List.mem_cons.1 h with rfl | h
      · exact Lexeme.prints_of_read? hr hnul herror hfloat
      · exact ih hrest h

/-! ## Scanning what was printed -/

/-- The lexemes as they are printed, with spaces between them. -/
def spaced : List Lexeme → List Char
  | [] => []
  | [l] => l.close.chars
  | l :: l' :: ls => l.close.chars ++ ' ' :: spaced (l' :: ls)

theorem intercalate_eq_spaced (ls : List Lexeme) :
    [' '].intercalate (ls.map fun l => l.close.chars) = spaced ls := by
  fun_induction spaced ls with
  | case1 => rfl
  | case2 l => exact List.intercalate_singleton
  | case3 l l' ls ih =>
    rw [List.map_cons] at ih
    rw [List.map_cons, List.map_cons, List.intercalate_cons_cons, ih, List.append_assoc]
    rfl

theorem nul_notMem_spaced {ls : List Lexeme} (h : ∀ l ∈ ls, l.Prints) : '\x00' ∉ spaced ls := by
  fun_induction spaced ls with
  | case1 => exact List.not_mem_nil
  | case2 l => exact (h l List.mem_cons_self).lexical.nul_notMem
  | case3 l l' ls ih =>
    rw [List.forall_mem_cons] at h
    have hspace : '\x00' ≠ ' ' := by decide
    rw [List.mem_append, List.mem_cons, not_or, not_or]
    exact ⟨h.1.lexical.nul_notMem, hspace, ih h.2⟩

theorem pieces_close_append {l : Lexeme} {rest : List Char} (h : l.Prints) (hrest : Delimited rest)
    (hnul : '\x00' ∉ rest) :
    pieces (l.close.chars ++ rest) = .lexeme l.close :: pieces rest := by
  have hnul' : '\x00' ∉ l.close.chars ++ rest := by
    rw [List.mem_append, not_or]
    exact ⟨h.lexical.nul_notMem, hnul⟩
  have hread := Piece.read?_lexical h.lexical hrest hnul'
  rw [h.ofText_eq] at hread
  exact pieces_of_read? hread

/-- What a step tells apart from its place: the kind, the text, and which of its warnings are for
an illegal escape. -/
def Step.reading (s : Step) : (Kind × String) × List (Option Char) :=
  (s.token.content, s.warnings.map Warning.escaped?)

def Lexeme.reading (l : Lexeme) : (Kind × String) × List (Option Char) :=
  (l.content, l.escaped.map some)

theorem reading_stepsOf_close {l : Lexeme} (h : l.Prints) (p : Place) (ps : List Piece) :
    (stepsOf p (.lexeme l.close :: ps)).map Step.reading =
      l.reading :: (stepsOf (p.after l.close.chars) ps).map Step.reading := by
  rw [stepsOf, List.map_cons, Step.reading, Lexeme.map_escaped?_warnings_close, Lexeme.token,
    Token.content, h.kind_close, l.text_close, Lexeme.reading, Lexeme.content]

/-- **Lexemes that were printed are read back.** -/
theorem reading_spaced {ls : List Lexeme} (h : ∀ l ∈ ls, l.Prints) (p : Place) :
    (stepsOf p (pieces (spaced ls))).map Step.reading =
      ls.map Lexeme.reading ++ [((.eof, ""), [])] := by
  fun_induction spaced ls generalizing p with
  | case1 =>
    rw [pieces_nil]
    rfl
  | case2 l =>
    have hl := h l List.mem_cons_self
    have hend : Delimited [] := nofun
    rw [← List.append_nil l.close.chars, pieces_close_append hl hend List.not_mem_nil,
      reading_stepsOf_close hl, pieces_nil]
    rfl
  | case3 l l' ls ih =>
    rw [List.forall_mem_cons] at h
    have hspace : Delimited (' ' :: spaced (l' :: ls)) := by
      rintro c ⟨⟩
      rfl
    have hnul : '\x00' ∉ ' ' :: spaced (l' :: ls) := by
      rw [List.mem_cons, not_or]
      exact ⟨by decide, nul_notMem_spaced h.2⟩
    have hblank : pieces (' ' :: spaced (l' :: ls)) = .blank ' ' :: pieces (spaced (l' :: ls)) :=
      pieces_of_read? (Piece.read?_blank (by decide) _)
    rw [pieces_close_append h.1 hspace hnul, reading_stepsOf_close h.1, hblank,
      stepsOf_of_isSkipped rfl, ih h.2]
    rfl

/-! ## Sources -/

theorem content_tokenize (source : String) :
    (tokenize source).1.map Token.content =
      (lexemes (pieces (readable source))).map Lexeme.content ++ [(.eof, "")] := by
  rw [tokenize_eq, List.map_map]
  exact content_stepsOf .origin _

theorem prints_of_tokenize {source : String} (herror : ∀ t ∈ (tokenize source).1, t.kind ≠ .error)
    (hfloat : ∀ t ∈ (tokenize source).1, t.kind = .floatLiteral → ¬ IsDigits t.lexeme.toList) :
    ∀ l ∈ lexemes (pieces (readable source)), l.Prints := by
  intro l hl
  have hmem : l.content ∈ (tokenize source).1.map Token.content := by
    rw [content_tokenize]
    exact List.mem_append_left _ (List.mem_map_of_mem hl)
  obtain ⟨t, ht, hcontent⟩ := List.mem_map.1 hmem
  have hkind : t.kind = l.kind := congrArg Prod.fst hcontent
  have htext : t.lexeme.toList = l.text := by
    rw [show t.lexeme = String.ofList l.text from congrArg Prod.snd hcontent, String.toList_ofList]
  have herror' := herror t ht
  have hfloat' := hfloat t ht
  rw [hkind] at herror' hfloat'
  rw [htext] at hfloat'
  exact prints_of_mem_lexemes (nul_notMem_readable source) hl herror' hfloat'

/-- The tokens of a source are printed as its lexemes with spaces between them. -/
theorem toList_reprint {source : String}
    (h : ∀ l ∈ lexemes (pieces (readable source)), l.Prints) :
    (reprint (tokenize source).1).toList = spaced (lexemes (pieces (readable source))) := by
  let ls := lexemes (pieces (readable source))
  have hkinds : ∀ x ∈ ls.map Lexeme.content, decide (x.1 ≠ .eof) = true := by
    intro x hx
    obtain ⟨l, hl, rfl⟩ := List.mem_map.1 hx
    exact decide_eq_true (h l hl).lexical.kind_ne_eof
  have hprinted : ((tokenize source).1.filter (·.kind ≠ .eof)).map
      (fun t => printed t.kind t.lexeme) = ls.map fun l => String.ofList l.close.chars := by
    calc ((tokenize source).1.filter (·.kind ≠ .eof)).map (fun t => printed t.kind t.lexeme)
      _ = (((tokenize source).1.map Token.content).filter (·.1 ≠ .eof)).map
            (fun x => printed x.1 x.2) := by
        rw [List.filter_map, List.map_map]
        rfl
      _ = (ls.map Lexeme.content).map (fun x => printed x.1 x.2) := by
        rw [content_tokenize, List.filter_append, List.filter_eq_self.2 hkinds]
        simp
      _ = ls.map fun l => String.ofList l.close.chars := by
        rw [List.map_map]
        exact List.map_congr_left fun l hl => (h l hl).printed_eq
  have htoList : (String.toList ∘ fun l : Lexeme => String.ofList l.close.chars) =
      fun l => l.close.chars := funext fun l => String.toList_ofList
  rw [reprint, hprinted, String.toList_intercalate, List.map_map, htoList]
  exact intercalate_eq_spaced ls

/-- **Printing is faithful.** Without errors and without digits that were a floating-point literal,
the printed text has the kinds and the lexemes of the source, warns of the same illegal escapes and
of nothing else, and is accepted exactly if the source is. -/
theorem tokenize_reprint (source : String) (herror : ∀ t ∈ (tokenize source).1, t.kind ≠ .error)
    (hfloat : ∀ t ∈ (tokenize source).1, t.kind = .floatLiteral → ¬ IsDigits t.lexeme.toList) :
    let text := reprint (tokenize source).1
    (tokenize text).1.map Token.content = (tokenize source).1.map Token.content ∧
      (tokenize text).2.map Warning.escaped? =
        ((tokenize source).2.filterMap Warning.escaped?).map some ∧
      ∀ {ρ : Type} [Reporter ρ] (reporter : ρ),
        (Recognizer.ofText text reporter).recognize.1 = .accepted ↔
          (Recognizer.ofText source reporter).recognize.1 = .accepted := by
  intro text
  let ls := lexemes (pieces (readable source))
  have hprints : ∀ l ∈ ls, l.Prints := prints_of_tokenize herror hfloat
  have htext : text.toList = spaced ls := toList_reprint hprints
  have hreadable : readable text = spaced ls := by
    rw [readable_eq_toList, htext]
    rw [htext]
    exact nul_notMem_spaced hprints
  have hreading := reading_spaced hprints .origin
  have htokens : (tokenize text).1.map Token.content = (tokenize source).1.map Token.content := by
    calc (tokenize text).1.map Token.content
      _ = ((stepsOf .origin (pieces (spaced ls))).map Step.reading).map Prod.fst := by
        rw [tokenize_eq, hreadable, List.map_map, List.map_map]
        rfl
      _ = (tokenize source).1.map Token.content := by
        rw [hreading, content_tokenize, List.map_append, List.map_map]
        rfl
  refine ⟨htokens, ?_, ?_⟩
  · calc (tokenize text).2.map Warning.escaped?
      _ = ((stepsOf .origin (pieces (spaced ls))).map Step.reading).flatMap Prod.snd := by
        rw [tokenize_eq, hreadable, List.map_flatMap, List.flatMap_map]
        rfl
      _ = (ls.flatMap Lexeme.escaped).map some := by
        rw [hreading, List.flatMap_append, List.flatMap_map, List.map_flatMap]
        exact List.append_nil _
      _ = ((tokenize source).2.filterMap Warning.escaped?).map some := by
        rw [tokenize_eq source, filterMap_escaped?_stepsOf]
  · intro ρ _ reporter
    apply recognize_accepted_congr
    have hkinds := congrArg (List.map Prod.fst) htokens
    rwa [List.map_map, List.map_map] at hkinds

/-- A string with illegal escapes, one of them of a newline, that the end of its line cuts short. -/
theorem tokenize_reprint_string :
    let source := "int s=\"\\q\\\nb\n>.5; // 1e"
    let text := "int s = \"\\q\\\nb\" > .5 ;"
    reprint (tokenize source).1 = text ∧
      (tokenize text).2.map Warning.escaped? = [some 'q', some '\n'] ∧
      (Recognizer.ofText text ({} : Collected)).recognize.1 = .accepted := by
  intro source text
  have htext : reprint (tokenize source).1 = text := by cbv
  have hescapes : (tokenize source).2.filterMap Warning.escaped? = ['q', '\n'] := by cbv
  have haccepted : (Recognizer.ofText source ({} : Collected)).recognize.1 = .accepted := by cbv
  have herror : (tokenize source).1.all (·.kind ≠ .error) = true := by cbv
  have hfloat : ∀ t ∈ (tokenize source).1,
      t.kind = .floatLiteral → ¬ IsDigits t.lexeme.toList := by
    have hall : (tokenize source).1.all
        (fun t => t.kind ≠ .floatLiteral || !t.lexeme.toList.all Char.isDigit) = true := by cbv
    intro t ht hk hds
    have hnot := List.all_eq_true.1 hall t ht
    simp [hk, List.all_eq_true.2 hds.2] at hnot
  obtain ⟨-, hwarnings, hverdict⟩ := tokenize_reprint source (by simpa using herror) hfloat
  rw [htext, hescapes] at hwarnings
  rw [htext] at hverdict
  exact ⟨htext, hwarnings, (hverdict _).2 haccepted⟩

end MiniC
