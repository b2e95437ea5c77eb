import MiniC.Proofs.Head.Pieces
import MiniC.Proofs.EndOfInput
import MiniC.Proofs.LongestMatch
import MiniC.Proofs.Run

/-!
# Scanning ends

**Theorem (`scanning_ends`).** Each loop of a head ends, from every state, and none takes more
turns than there are characters left. A comment and every token but the end of input leave less,
also where the head has gone back to the marker of an exponent. So the tokens of a source are
found, and there is at most one more of them than characters before the first end marker.

The head finds the tokens and the warnings that the cursor steps through (`Head.scan_eq`): blanks
and comments are passed in the loop of `Head.restart`, by induction on what is left
(`Head.finds_restart`).
-/

namespace MiniC

namespace Head

open Reader Kind

variable {h h' : Head} {c : Char} {cs : List Char}

/-! ## One turn after another -/

/-- Where a token begins, the blanks before it have been skipped and nothing else has happened. -/
theorem ready_beginToken (h : Head) : h.beginToken.Ready := ⟨rfl, rfl, rfl⟩

theorem moves_beginToken (h : Head) :
    h.unread = h.unread.takeWhile isBlank ++ h.beginToken.unread ∧
      h.beginToken.place = h.place.after (h.unread.takeWhile isBlank) ∧
      h.beginToken.warnings = h.warnings := by
  have m := moves_blanks { h with keeping := false }
  exact ⟨m.unread, m.place, m.warnings.trans (List.append_nil _)⟩

theorem unread_beginToken (h : Head) : h.beginToken.unread = h.unread.dropWhile isBlank :=
  List.append_cancel_left
    ((moves_beginToken h).1.symm.trans List.takeWhile_append_dropWhile.symm)

theorem not_isBlank_of_unread_beginToken (hu : h.beginToken.unread = c :: cs) : ¬ isBlank c := by
  rw [unread_beginToken] at hu
  have := List.head?_dropWhile_not isBlank h.unread
  simpa [hu] using this

theorem scanToken_of_nil (hu : h.unread = []) : h.scanToken = (some .eof, h) :=
  if_pos (current_of_nil hu)

/-- The piece that is passed next. -/
theorem exists_passes_beginToken (hu : h.beginToken.unread ≠ []) : ∃ piece rest,
    Piece.read? h.beginToken.unread = some (piece, rest) ∧
      Passes h.beginToken piece h.beginToken.scanToken := by
  obtain ⟨c, cs, hcons⟩ := List.exists_cons_of_ne_nil hu
  exact passes_scanToken (ready_beginToken h) hcons (not_isBlank_of_unread_beginToken hcons)

/-- A comment leaves less, and so does a token. -/
theorem left_scanToken_lt (hu : h.beginToken.unread ≠ []) :
    h.beginToken.scanToken.2.left < h.left := by
  obtain ⟨piece, rest, hread, -, m⟩ := exists_passes_beginToken hu
  have hpos := List.length_pos_iff.2 (Piece.chars_ne_nil_of_read? hread)
  have hblanks := congrArg List.length (moves_beginToken h).1
  have hpiece := congrArg List.length m.unread
  rw [List.length_append] at hblanks hpiece
  unfold left
  omega

/-- Passes comments, and then one token. -/
def restart : Loop Head (Kind × Head) where
  turn h := match h.beginToken.scanToken with
    | (some k, h') => .inl (k, h')
    | (none, h') => .inr h'
  size := left
  size_lt := by
    intro h h' hturn
    split at hturn
    · cases hturn
    · next h'' heq =>
      cases hturn
      have hu : h.beginToken.unread ≠ [] := by
        intro hu
        rw [scanToken_of_nil hu] at heq
        cases heq
      have hlt := left_scanToken_lt hu
      rwa [heq] at hlt

/-- The next token. -/
def scan (h : Head) : Token × Head :=
  let (k, h') := restart.run h
  (h'.token k, h'.endToken)

/-! ## The tokens are those of the scanner -/

/-- What a head has left, as a cursor. -/
def cursor (h : Head) : Cursor := ⟨h.unread, h.place⟩

/-- The scanner that a head is. -/
def scanner (h : Head) : Scanner := ⟨h.cursor, h.warnings⟩

theorem gap_takeWhile_isBlank (cs : List Char) : Gap (cs.takeWhile isBlank) := by
  induction cs with
  | nil => exact .nil
  | cons c cs ih =>
    by_cases hc : isBlank c
    · rw [List.takeWhile_cons_of_pos hc]
      exact .cons (.blank (Piece.mem_blanks_of_isBlank hc)) ih
    · rw [List.takeWhile_cons_of_neg hc]
      exact .nil

theorem next_beginToken (h : Head) : h.beginToken.cursor.next = h.cursor.next := by
  obtain ⟨hunread, hplace, -⟩ := moves_beginToken h
  rw [cursor, cursor, hunread, hplace]
  exact (Cursor.next_gap (gap_takeWhile_isBlank _) _ _).symm

theorem kind_ne_eof_of_read? {l : Lexeme} {rest : List Char}
    (h : Piece.read? cs = some (.lexeme l, rest)) : l.kind ≠ .eof := by
  obtain ⟨c, cs', -, -, -, hread⟩ := Piece.exists_cons_of_read? h
  have hkind := Lexeme.kind_read_ne_eof c cs'
  rwa [hread] at hkind

/-- The token of a lexeme that has been read. -/
theorem token_of_moves {l : Lexeme} (hr : h.Ready) (hl : l.kind ≠ .eof)
    (m : Moves h l.chars l.kept (l.warnings h.place) h') :
    h'.token l.kind = l.token ⟨h.place, h.place.after l.chars⟩ := by
  have htext : (if l.kind.keepsText then l.kept else []) = l.text := by
    cases l with
    | plain k cs => rfl
    | quoted body ending => cases ending <;> rfl
  rw [token, m.kept, hr.kept, List.nil_append, if_neg hl, span, m.start, hr.start, m.place, htext]
  rfl

/-- The token, the cursor and the warnings are those of the next step of a cursor. -/
structure Finds (c : Cursor) (ws : List Warning) (r : Kind × Head) : Prop where
  token : r.2.token r.1 = c.next.1.token
  cursor : r.2.cursor = c.next.2
  warnings : r.2.warnings = ws ++ c.next.1.warnings

theorem Finds.of_next_eq {c c' : Cursor} {ws : List Warning} {r : Kind × Head}
    (hf : Finds c' ws r) (hnext : c.next = c'.next) : Finds c ws r :=
  ⟨hnext ▸ hf.token, hnext ▸ hf.cursor, hnext ▸ hf.warnings⟩

theorem finds_nil (hu : h.unread = []) : Finds h.cursor h.warnings (.eof, h) := by
  have hcursor : h.cursor = ⟨[], h.place⟩ := by rw [Head.cursor, hu]
  have hnext : h.cursor.next = (⟨.endOfInput h.place, []⟩, h.cursor) := by
    rw [hcursor, Cursor.next_nil]
  constructor <;> rw [hnext]
  · rfl
  · exact (List.append_nil _).symm

theorem finds_lexeme {l : Lexeme} {rest : List Char} {r : Option Kind × Head} (hr : h.Ready)
    (hread : Piece.read? h.unread = some (.lexeme l, rest)) (hp : Passes h (.lexeme l) r) :
    Finds h.cursor h.warnings (l.kind, r.2) := by
  have hrest : r.2.unread = rest := hp.moves.unread_eq (Piece.read?_append hread).symm
  have hnext : h.cursor.next = _ := Cursor.next_of_lexeme hread
  refine ⟨?_, ?_, ?_⟩
  · rw [hnext]
    exact token_of_moves hr (kind_ne_eof_of_read? hread) hp.moves
  · rw [hnext, Head.cursor, hrest, hp.moves.place]
    rfl
  · rw [hnext, hp.moves.warnings]
    rfl

/-- What is found after a comment is what the cursor finds before it. -/
theorem Finds.of_passes {piece : Piece} {rest : List Char} {r : Option Kind × Head}
    {found : Kind × Head} (hread : Piece.read? h.unread = some (piece, rest))
    (hp : Passes h piece r) (hnone : piece.kind? = none)
    (hf : Finds r.2.cursor r.2.warnings found) : Finds h.cursor h.warnings found := by
  have hrest : r.2.unread = rest := hp.moves.unread_eq (Piece.read?_append hread).symm
  have hcursor : r.2.cursor = ⟨rest, h.place.after piece.chars⟩ := by
    rw [Head.cursor, hrest, hp.moves.place]
  have hwarnings := hp.moves.warnings
  have hskipped (hskip : piece.isSkipped) (hquiet : piece.warnings h.place = []) :
      Finds h.cursor h.warnings found := by
    rw [hquiet, List.append_nil] at hwarnings
    rw [hwarnings] at hf
    refine hf.of_next_eq ?_
    rw [hcursor]
    exact Cursor.next_of_isSkipped hread hskip
  cases piece with
  | blank c => exact hskipped rfl rfl
  | lineComment body closed => exact hskipped rfl rfl
  | blockComment body => exact hskipped rfl rfl
  | lexeme l => cases hnone
  | openComment body =>
    -- The comment is the end of input for the cursor, and the head finds nothing behind it.
    obtain rfl : rest = [] := by
      cases Piece.reads_of_read? hread
      rfl
    have hnext : h.cursor.next = _ := Cursor.next_of_openComment hread
    rw [hcursor, hwarnings] at hf
    have hend := Cursor.next_nil (h.place.after (Piece.openComment body).chars)
    refine ⟨?_, ?_, ?_⟩
    · rw [hnext, hf.token, hend]
      rfl
    · rw [hnext, hf.cursor, hend]
      rfl
    · rw [hnext, hf.warnings, hend, List.append_nil]
      rfl

theorem turn_restart_of_none (hnone : h.beginToken.scanToken.1 = none) :
    restart.turn h = .inr h.beginToken.scanToken.2 := by
  have hpair : h.beginToken.scanToken = (none, h.beginToken.scanToken.2) := Prod.ext hnone rfl
  simp only [restart]
  rw [hpair]

theorem turn_restart_of_some {k : Kind} (hsome : h.beginToken.scanToken.1 = some k) :
    restart.turn h = .inl (k, h.beginToken.scanToken.2) := by
  have hpair : h.beginToken.scanToken = (some k, h.beginToken.scanToken.2) := Prod.ext hsome rfl
  simp only [restart]
  rw [hpair]

theorem run_restart_of_nil (hu : h.beginToken.unread = []) :
    restart.run h = (.eof, h.beginToken) := by
  rw [Loop.run_of_inl _ (turn_restart_of_some (congrArg Prod.fst (scanToken_of_nil hu))),
    scanToken_of_nil hu]

/-- **One turn of the loop over comments.** Nothing is left; or it goes on behind a comment, where
less is left; or it ends with a lexeme. -/
theorem restart_cases (h : Head) :
    (h.beginToken.unread = [] ∧ restart.run h = (.eof, h.beginToken)) ∨
    ∃ piece rest, Piece.read? h.beginToken.unread = some (piece, rest) ∧
      Passes h.beginToken piece h.beginToken.scanToken ∧
      (piece.kind? = none ∧ h.beginToken.scanToken.2.left < h.left ∧
          restart.run h = restart.run h.beginToken.scanToken.2 ∨
        ∃ l, piece = .lexeme l ∧ restart.run h = (l.kind, h.beginToken.scanToken.2)) := by
  by_cases hu : h.beginToken.unread = []
  · exact .inl ⟨hu, run_restart_of_nil hu⟩
  · obtain ⟨piece, rest, hread, hp⟩ := exists_passes_beginToken hu
    refine .inr ⟨piece, rest, hread, hp, ?_⟩
    cases hkind : piece.kind? with
    | none =>
      have hturn := turn_restart_of_none (hp.kind.trans hkind)
      exact .inl ⟨rfl, left_scanToken_lt hu, Loop.run_of_inr _ hturn⟩
    | some k =>
      have hturn := turn_restart_of_some (hp.kind.trans hkind)
      cases piece with
      | lexeme l =>
        obtain rfl : l.kind = k := Option.some.inj hkind
        exact .inr ⟨l, rfl, Loop.run_of_inl _ hturn⟩
      | _ => cases hkind

/-- **The loop over comments** ends at the next step of the cursor. -/
theorem finds_restart (h : Head) : Finds h.cursor h.warnings (restart.run h) := by
  suffices hf : Finds h.beginToken.cursor h.beginToken.warnings (restart.run h) by
    rw [(moves_beginToken h).2.2] at hf
    exact hf.of_next_eq (next_beginToken h).symm
  rcases restart_cases h with ⟨hu, hrun⟩ |
    ⟨piece, rest, hread, hp, ⟨hkind, hlt, hrun⟩ | ⟨l, rfl, hrun⟩⟩
  · rw [hrun]
    exact finds_nil hu
  · rw [hrun]
    exact Finds.of_passes hread hp hkind (finds_restart _)
  · rw [hrun]
    exact finds_lexeme (ready_beginToken h) hread hp
termination_by h.left

/-- **A scan of the head is a scan of the scanner.** -/
theorem scan_eq (h : Head) :
    h.scan.1 = h.scanner.scan.1 ∧ h.scan.2.scanner = h.scanner.scan.2 := by
  obtain ⟨htoken, hcursor, hwarnings⟩ := finds_restart h
  refine ⟨htoken, ?_⟩
  show Scanner.mk (restart.run h).2.cursor (restart.run h).2.warnings = _
  rw [hcursor, hwarnings]
  rfl

theorem left_scan_lt (hkind : h.scan.1.kind ≠ .eof) : h.scan.2.left < h.left := by
  obtain ⟨htoken, hscanner⟩ := scan_eq h
  have hlt := h.scanner.length_scan_lt (htoken ▸ hkind)
  rwa [← hscanner] at hlt

/-! ## All tokens -/

/-- Scans through the end of input, behind the tokens that are there already. -/
def tokens : Loop (List Token × Head) (List Token × Head) where
  turn := fun (ts, h) =>
    if h.scan.1.kind = .eof then .inl (ts ++ [h.scan.1], h.scan.2)
    else .inr (ts ++ [h.scan.1], h.scan.2)
  size s := s.2.left
  size_lt := by
    rintro ⟨ts, h⟩ s' hturn
    dsimp only at hturn
    split at hturn <;> cases hturn
    exact left_scan_lt ‹_›

theorem run_tokens (ts : List Token) (h : Head) :
    (tokens.run (ts, h)).1 = ts ++ h.scanner.scanAll.1 ∧
      (tokens.run (ts, h)).2.scanner = h.scanner.scanAll.2 := by
  obtain ⟨htoken, hscanner⟩ := scan_eq h
  by_cases hkind : h.scan.1.kind = .eof
  · have hturn : tokens.turn (ts, h) = .inl (ts ++ [h.scan.1], h.scan.2) := if_pos hkind
    rw [Loop.run_of_inl _ hturn, Scanner.scanAll_of_eof (htoken ▸ hkind), ← htoken, ← hscanner]
    exact ⟨rfl, rfl⟩
  · have hturn : tokens.turn (ts, h) = .inr (ts ++ [h.scan.1], h.scan.2) := if_neg hkind
    have hlt := left_scan_lt hkind
    obtain ⟨htokens, hlast⟩ := run_tokens (ts ++ [h.scan.1]) h.scan.2
    have hall := Scanner.scanAll_of_ne_eof (s := h.scanner) (htoken ▸ hkind)
    rw [Loop.run_of_inr _ hturn, htokens, hlast, hall, ← htoken, ← hscanner, List.append_assoc]
    exact ⟨rfl, rfl⟩
termination_by h.left

theorem scanner_ofText (source : String) : (ofText source).scanner = .ofText source := by
  have hunread : (ofText source).unread = (Reader.ofText source).remaining :=
    (Reader.ofText source).remaining_eq.symm
  rw [scanner, cursor, hunread]
  rfl

/-- What is left of a whole source is what comes before its first end marker. -/
theorem left_ofText (source : String) : (ofText source).left = source.toList.idxOf '\x00' := by
  have hunread : (ofText source).unread = readable source :=
    (congrArg (fun s : Scanner => s.cursor.rest) (scanner_ofText source)).trans
      (readable_eq_takeWhile source).symm
  rw [left, hunread, length_readable]

end Head

/-- **Scanning ends.** From every state each loop ends, and takes no more turns than characters are
left. A comment leaves less before the next turn, and every token but the end of input leaves less
behind it; the end of input takes nothing, as nothing is left. So all tokens of a source are found,
and apart from the last there are no more of them than characters before the first end marker. -/
theorem scanning_ends :
    (∀ h : Head,
      Loop.EndsWithin Head.blanks.turn h.left h (Head.blanks.run h) ∧
      Loop.EndsWithin Head.digits.turn h.left h (Head.digits.run h) ∧
      Loop.EndsWithin Head.wordParts.turn h.left h (Head.wordParts.run h) ∧
      Loop.EndsWithin Head.stringBody.turn h.left h (Head.stringBody.run h) ∧
      Loop.EndsWithin Head.restOfLine.turn h.left h (Head.restOfLine.run h) ∧
      (∀ inBody : Bool, Loop.EndsWithin Head.blockBody.turn h.left (inBody, h)
        (Head.blockBody.run (inBody, h))) ∧
      Loop.EndsWithin Head.restart.turn h.left h (Head.restart.run h) ∧
      (∀ h', Head.restart.turn h = .inr h' → h'.left < h.left) ∧
      (h.scan.1.kind ≠ .eof → h.scan.2.left < h.left) ∧
      (h.beginToken.scanToken.1 = some .eof →
        h.beginToken.scanToken.2 = h.beginToken ∧ h.beginToken.left = 0) ∧
      h.scan.1 = h.scanner.scan.1 ∧ h.scan.2.scanner = h.scanner.scan.2) ∧
    ∀ source : String,
      let bound := source.toList.idxOf '\x00'
      let start : List Token × Head := ([], .ofText source)
      Loop.EndsWithin Head.tokens.turn bound start (Head.tokens.run start) ∧
        (Head.tokens.run start).1 = (tokenize source).1 ∧
        (Head.tokens.run start).2.warnings = (tokenize source).2 ∧
        (tokenize source).1.length ≤ bound + 1 := by
  constructor
  · intro h
    refine ⟨Head.blanks.endsWithin_size h, Head.digits.endsWithin_size h,
      Head.wordParts.endsWithin_size h, Head.stringBody.endsWithin_size h,
      Head.restOfLine.endsWithin_size h, fun inBody => Head.blockBody.endsWithin_size (inBody, h),
      Head.restart.endsWithin_size h, fun h' => Head.restart.size_lt, Head.left_scan_lt, ?_,
      h.scan_eq⟩
    intro heof
    have hu : h.beginToken.unread = [] := by
      by_contra hu
      obtain ⟨piece, rest, hread, hp⟩ := Head.exists_passes_beginToken hu
      cases piece with
      | lexeme l =>
        have hkind : l.kind = .eof := Option.some.inj (hp.kind.symm.trans heof)
        exact Head.kind_ne_eof_of_read? hread hkind
      | _ => cases hp.kind.symm.trans heof
    exact ⟨congrArg Prod.snd (Head.scanToken_of_nil hu), List.length_eq_zero_iff.2 hu⟩
  · intro source bound start
    have hleft : (Head.ofText source).left = bound := Head.left_ofText source
    obtain ⟨htokens, hscanner⟩ := Head.run_tokens [] (.ofText source)
    rw [Head.scanner_ofText] at htokens hscanner
    refine ⟨?_, htokens, congrArg Scanner.warnings hscanner, ?_⟩
    · rw [← hleft]
      exact Head.tokens.endsWithin_size start
    · have hsteps := (Scanner.ofText source).cursor.length_steps_le
      have hrest : (Scanner.ofText source).cursor.rest.length = bound := by
        rw [← Head.scanner_ofText]
        exact hleft
      show (Scanner.ofText source).scanAll.1.length ≤ _
      rw [Scanner.tokens_scanAll, List.length_map]
      omega

/-- A comment, a number whose exponent is not complete, a word, and a blank before the end. -/
theorem scanning_ends_exponent :
    let h := Head.ofText "/**/1e "
    let behind := h.beginToken.scanToken.2
    let last := h.scan.2.scan.2
    (Head.restart.turn h = .inr behind ∧ behind.left < h.left) ∧
      (h.scan.1.kind ≠ .eof ∧ h.scan.2.left < h.left) ∧
      (last.beginToken.scanToken.1 = some .eof ∧ last.beginToken.left = 0) ∧
      (tokenize "/**/1e ").1.length ≤ 7 + 1 := by
  intro h behind last
  have hcomment : h.beginToken.scanToken.1 = none := by cbv
  have hkind : h.scan.1.kind ≠ .eof := by
    have hfloat : (Scanner.ofText "/**/1e ").scan.1.kind = .floatLiteral := by cbv
    rw [(Head.scan_eq h).1, Head.scanner_ofText, hfloat]
    decide
  have hscanner : last.scanner = (Scanner.ofText "/**/1e ").scan.2.scan.2 := by
    rw [(Head.scan_eq _).2, (Head.scan_eq _).2, Head.scanner_ofText]
  have hblank : last.unread = [' '] :=
    (congrArg (fun s : Scanner => s.cursor.rest) hscanner).trans (by cbv)
  have hnil : last.beginToken.unread = [] := by
    rw [Head.unread_beginToken, hblank]
    rfl
  have heof : last.beginToken.scanToken.1 = some .eof :=
    congrArg Prod.fst (Head.scanToken_of_nil hnil)
  have hturn : Head.restart.turn h = .inr behind := Head.turn_restart_of_none hcomment
  obtain ⟨hstates, hsources⟩ := scanning_ends
  obtain ⟨-, -, -, -, -, -, -, hrestart, hscan, -⟩ := hstates h
  obtain ⟨-, -, -, -, -, -, -, -, -, hend, -⟩ := hstates last
  exact ⟨⟨hturn, hrestart _ hturn⟩, ⟨hkind, hscan hkind⟩, ⟨heof, (hend heof).2⟩,
    (hsources "/**/1e ").2.2.2⟩

end MiniC
