import MiniC.Proofs.Head.Lexemes
import MiniC.Proofs.Pieces

/-!
# Pieces passed by a head

A head that is ready for a token, and does not stand at a blank, passes the next piece of the text
(`Head.passes_scanToken`): a lexeme, or a comment after its first slash.

The loop over a block comment looks at one character and remembers one, where `Piece.splitClose?`
sees two at a time. So the induction (`Head.moves_blockBody`) is on what is left with a star put
before it if one has just been passed (`Head.pendingStar`).
-/

namespace MiniC

namespace Head

open Reader Kind

variable {h h' : Head} {c : Char} {cs : List Char}

/-! ### Comments -/

theorem moves_restOfLine (h : Head) :
    Moves h (h.unread.takeWhile (· != '\n')) [] [] (restOfLine.run h) :=
  moves_onward (fun c hc => by rw [Bool.eq_iff_iff]; simp [hc]) false nofun

/-- From its second slash, a line comment is passed as a whole. -/
theorem moves_lineComment (hu : h.unread = '/' :: cs) :
    Moves h (Piece.readLineComment cs).1.chars.tail [] [] h.lineComment := by
  have mrest := moves_restOfLine h
  have hrest : (restOfLine.run h).unread = cs.dropWhile (· != '\n') := by
    refine mrest.unread_eq ?_
    rw [hu]
    exact (congrArg ('/' :: ·) List.takeWhile_append_dropWhile).symm
  have hcurrent := (restOfLine.run h).current_eq
  rw [hu] at mrest
  rw [hrest] at hcurrent
  rw [lineComment, Piece.readLineComment]
  cases hd : cs.dropWhile (· != '\n') with
  | nil =>
    rw [hd] at hcurrent
    rw [if_neg (by rw [hcurrent]; decide)]
    exact mrest.congr (by simp [Piece.chars]) rfl rfl
  | cons c rest =>
    rw [hd] at hcurrent hrest
    have hc : c = '\n' := by
      have := List.head?_dropWhile_not (· != '\n') cs
      simpa [hd] using this
    rw [if_pos (hcurrent.trans hc)]
    exact (mrest.trans (moves_skip_cons hrest).1).congr (by simp [Piece.chars, hc]) rfl rfl

/-- What a block comment can still be closed by: a star that has just been passed counts, unless it
is that of the opening. -/
def pendingStar (b : Bool) (h : Head) : List Char :=
  if b && h.previous = '*' then ['*'] else []

/-- Splitting at the close, one character on. -/
theorem splitClose?_cons {star cs : List Char} {c : Char} (hstar : star = [] ∨ star = ['*'])
    (hclose : ¬ (star = ['*'] ∧ c = '/')) :
    Piece.splitClose? (star ++ c :: cs) =
      (Piece.splitClose? ((if c = '*' then ['*'] else []) ++ cs)).map fun (body, rest) =>
        (star ++ (if c = '*' then body else c :: body), rest) := by
  have hone : Piece.splitClose? (c :: cs) =
      (Piece.splitClose? ((if c = '*' then ['*'] else []) ++ cs)).map fun (body, rest) =>
        (if c = '*' then body else c :: body, rest) := by
    by_cases hc : c = '*'
    · simp [hc]
    · simp only [if_neg hc, List.nil_append]
      exact Piece.splitClose?.eq_3 _ _ fun _ hc' => absurd hc' hc
  rcases hstar with rfl | rfl
  · exact hone
  · have hslash : ∀ rest, c :: cs = '/' :: rest → False := by
      intro rest h
      exact hclose ⟨rfl, (List.cons.inj h).1⟩
    rw [List.singleton_append, Piece.splitClose?.eq_3 _ _ fun rest _ => hslash rest, hone,
      Option.map_map]
    rfl

theorem pendingStar_cases (b : Bool) (h : Head) :
    (pendingStar b h = ['*'] ∧ (b && h.previous = '*') = true) ∨
      (pendingStar b h = [] ∧ (b && h.previous = '*') = false) := by
  unfold pendingStar
  cases b && h.previous = '*'
  · exact .inr ⟨rfl, rfl⟩
  · exact .inl ⟨rfl, rfl⟩

theorem pendingStar_skip (h : Head) :
    pendingStar true h.skip = if h.current = '*' then ['*'] else [] := by
  simp [pendingStar, skip, advance]

/-- **The loop over a block comment** ends behind the first close, or warns at the end of what is
left. -/
theorem moves_blockBody {b : Bool} :
    match Piece.splitClose? (pendingStar b h ++ h.unread) with
    | some (body, _) => ∃ passed, pendingStar b h ++ passed = body ++ ['*', '/'] ∧
        Moves h passed [] [] (blockBody.run (b, h))
    | none => Moves h h.unread [] [.unterminatedComment ⟨h.start, h.place.after h.unread⟩]
        (blockBody.run (b, h)) := by
  generalize hu : h.unread = cs
  induction cs generalizing h b with
  | nil =>
    have hturn : blockBody.turn (b, h) = .inl (h.warn (.unterminatedComment h.span)) :=
      if_pos (current_of_nil hu)
    have hopen : Piece.splitClose? (pendingStar b h ++ []) = none := by
      unfold pendingStar
      split <;> rfl
    rw [Loop.run_of_inl _ hturn, hopen]
    exact moves_warn _ h
  | cons c cs ih =>
    obtain ⟨rfl, hne, -⟩ := unread_of_cons hu
    obtain ⟨mskip, htail⟩ := moves_skip_cons hu
    -- A turn closes the comment exactly if the text begins with a close, the pending star included.
    have hstar := pendingStar_cases b h
    by_cases hclose : (b && h.previous = '*') = true ∧ h.current = '/'
    · have hturn : blockBody.turn (b, h) = .inl h.skip :=
        (if_neg hne).trans (if_pos (by simpa using hclose))
      obtain ⟨hstar, -⟩ := hstar.resolve_right fun hnone => by simp_all
      rw [Loop.run_of_inl _ hturn, hstar, hclose.2]
      exact ⟨['/'], rfl, hclose.2 ▸ mskip⟩
    · have hturn : blockBody.turn (b, h) = .inr (true, h.skip) :=
        (if_neg hne).trans (if_neg (by simpa using hclose))
      have hloop := ih (b := true) htail
      rw [Loop.run_of_inr _ hturn, splitClose?_cons (hstar.symm.imp And.left And.left) ?hopen,
        ← pendingStar_skip]
      case hopen =>
        rintro ⟨hpending, hslash⟩
        rcases hstar with ⟨-, hpassed⟩ | ⟨hnone, -⟩
        · exact hclose ⟨hpassed, hslash⟩
        · cases hnone.symm.trans hpending
      cases hsplit : Piece.splitClose? (pendingStar true h.skip ++ cs) with
      | none =>
        rw [hsplit, mskip.start, mskip.place] at hloop
        exact mskip.trans hloop
      | some split =>
        rw [hsplit] at hloop
        obtain ⟨passed, hpassed, mpassed⟩ := hloop
        refine ⟨h.current :: passed, ?_, mskip.trans mpassed⟩
        rw [pendingStar_skip] at hpassed
        split at hpassed
        · next hc => rw [hc]; simpa using hpassed
        · next hc => simpa [hc] using hpassed

theorem moves_blockComment (hu : h.unread = '*' :: cs) :
    Moves h (Piece.readBlockComment cs).1.chars.tail []
      (if (Piece.splitClose? cs).isSome then []
        else [.unterminatedComment ⟨h.start, h.place.after ('*' :: cs)⟩]) h.blockComment := by
  obtain ⟨mstar, htail⟩ := moves_skip_cons hu
  have hbody := moves_blockBody (h := h.skip) (b := false)
  rw [htail, show pendingStar false h.skip = [] from rfl, List.nil_append] at hbody
  rw [Piece.readBlockComment]
  cases hsplit : Piece.splitClose? cs with
  | none =>
    rw [hsplit, mstar.start, mstar.place] at hbody
    exact mstar.trans hbody
  | some split =>
    rw [hsplit] at hbody
    obtain ⟨passed, rfl, mpassed⟩ := hbody
    exact mstar.trans mpassed

end Head

/-! ## Pieces -/

namespace Piece

/-- The kind of the token that a piece is, if it is one. -/
def kind? : Piece → Option Kind
  | lexeme l => some l.kind
  | _ => none

/-- What a head keeps of a piece. The first slash of a comment may still be a token. -/
def kept : Piece → List Char
  | lexeme l => l.kept
  | _ => ['/']

/-- The warnings raised by a piece at a place. -/
def warnings (p : Place) : Piece → List Warning
  | lexeme l => l.warnings p
  | openComment body => [.unterminatedComment ⟨p, p.after (openComment body).chars⟩]
  | _ => []

end Piece

namespace Head

open Reader Kind

variable {h h' : Head} {c : Char} {cs : List Char}

/-- A procedure has passed a piece from `h` on, and tells whether it is a token. -/
structure Passes (h : Head) (piece : Piece) (r : Option Kind × Head) : Prop where
  kind : r.1 = piece.kind?
  moves : Moves h piece.chars piece.kept (piece.warnings h.place) r.2

theorem eq_cons_of_current {d : Char} (hu : h.unread = cs) (hd : d ≠ endMark)
    (hc : h.current = d) : ∃ cs', cs = d :: cs' :=
  ⟨(h.advance true).unread, by rw [← hu, unread_eq_cons (hc ▸ hd) true, hc]⟩

theorem passes_slash (hr : h.Ready) (hu : h.unread = '/' :: cs) :
    ∃ piece rest, Piece.read? ('/' :: cs) = some (piece, rest) ∧ Passes h piece h.slash := by
  obtain ⟨mslash, htail⟩ := moves_take_cons hu hr.keeping
  unfold slash
  dsimp only
  split
  · next hc =>
    obtain ⟨cs', rfl⟩ := eq_cons_of_current htail (by decide) hc
    have mcomment := mslash.trans (moves_lineComment htail)
    obtain ⟨body, closed, hpiece⟩ :
        ∃ body closed, (Piece.readLineComment cs').1 = .lineComment body closed := by
      unfold Piece.readLineComment
      split <;> exact ⟨_, _, rfl⟩
    refine ⟨(Piece.readLineComment cs').1, _, rfl, ?_⟩
    rw [hpiece] at mcomment ⊢
    exact ⟨rfl, mcomment⟩
  · next hc =>
    obtain ⟨cs', rfl⟩ := eq_cons_of_current htail (by decide) hc
    have mcomment := mslash.trans (moves_blockComment htail)
    rw [mslash.start, hr.start, mslash.place] at mcomment
    refine ⟨(Piece.readBlockComment cs').1, _, rfl, ?_⟩
    unfold Piece.readBlockComment at mcomment ⊢
    cases hsplit : Piece.splitClose? cs' with
    | none =>
      rw [hsplit] at mcomment
      exact ⟨rfl, mcomment⟩
    | some split =>
      rw [hsplit] at mcomment
      exact ⟨rfl, mcomment⟩
  · next hline hblock =>
    have hhead (d : Char) (hne : h.take.current ≠ d) : cs.head? ≠ some d := by
      intro hd
      obtain ⟨cs', rfl⟩ := List.head?_eq_some_iff.1 hd
      exact hne (unread_of_cons htail).1
    have hread : Piece.read? ('/' :: cs) = _ :=
      Piece.read?_lexeme (by decide) fun _ => ⟨hhead _ hline, hhead _ hblock⟩
    exact ⟨_, _, hread, rfl, mslash⟩

theorem passes_scanToken (hr : h.Ready) (hu : h.unread = c :: cs) (hblank : ¬ isBlank c) :
    ∃ piece rest, Piece.read? h.unread = some (piece, rest) ∧ Passes h piece h.scanToken := by
  obtain ⟨hc, hne, -⟩ := unread_of_cons hu
  rw [scanToken, hc, if_neg hne, hu]
  split
  · next hslash =>
    subst hslash
    exact passes_slash hr hu
  · next hslash =>
    have hreads := reads_lexeme hr hu hslash
    exact ⟨_, _, Piece.read?_lexeme hblank fun h => absurd h hslash,
      congrArg some hreads.kind, hreads.moves⟩

end Head

end MiniC
