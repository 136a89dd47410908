import CcxLexis.Proofs.Shown
import CcxLexis.Scanner.Stream
import Mathlib.Logic.Function.Iterate

/-!
# A scanner hands out the pieces of its source

What a scanner does next depends on three things: its settings, the bytes that the token being
read has taken so far, and the bytes that are left.  `Scanner.IsAt` says that a scanner is at such
a point, and every move of a scanner leads from one point to another.

From there each mode is followed to the end of its token by an induction on the bytes that the
token has still to take (`yields_run`, `yields_quotation`, `yields_blockComment`).  Together they
give the main statements of this file: `token_next`, by which the next token shows the next piece
of the bytes that are left, and `value_collect`, by which all tokens that are left show the pieces
of all bytes that are left.
-/

namespace CcxLexis

namespace Scanner

/-- A scanner whose token has taken the given bytes, with the given bytes left. -/
structure IsAt (settings : Settings) (taken left : List Byte) (scanner : Scanner) : Prop where
  settings_eq : scanner.settings = settings
  lexeme_eq : scanner.lexeme = Lexeme.holding settings taken
  remaining_eq : scanner.remaining = left

variable {settings : Settings} {taken left : List Byte} {scanner : Scanner}

/-! ## Moves -/

namespace IsAt

theorem current?_eq (h : IsAt settings taken left scanner) :
    scanner.cursor.current? = left.head? := by
  rw [← h.remaining_eq]
  exact (Cursor.head?_remaining scanner.cursor).symm

theorem behind_eq {byte : Byte} (h : IsAt settings taken (byte :: left) scanner) :
    scanner.cursor.behind = left := by
  have hremaining : scanner.cursor.remaining = byte :: left := h.remaining_eq
  rw [Cursor.remaining_of_current? h.current?_eq] at hremaining
  exact (List.cons.inj hremaining).2

theorem keep (h : IsAt settings taken left scanner) (byte : Byte) :
    IsAt settings (taken ++ [byte]) left (scanner.keep byte).value where
  settings_eq := h.settings_eq
  lexeme_eq := by
    rw [← Lexeme.value_push_holding, ← h.lexeme_eq, ← h.settings_eq]
    rfl
  remaining_eq := h.remaining_eq

theorem advance {byte : Byte} (h : IsAt settings taken (byte :: left) scanner) :
    IsAt settings taken left scanner.advance.value where
  settings_eq := h.settings_eq
  lexeme_eq := h.lexeme_eq
  remaining_eq := (Cursor.remaining_advance scanner.cursor).trans h.behind_eq

theorem take {byte : Byte} (h : IsAt settings taken (byte :: left) scanner) (kept : Byte) :
    IsAt settings (taken ++ [kept]) left (scanner.take kept).value :=
  (h.keep kept).advance

theorem lookFurther (h : IsAt settings taken left scanner) :
    IsAt settings taken left scanner.lookFurther.value where
  settings_eq := h.settings_eq
  lexeme_eq := h.lexeme_eq
  remaining_eq := (remaining_lookFurther scanner).trans h.remaining_eq

theorem following?_eq {byte : Byte} (h : IsAt settings taken (byte :: left) scanner) :
    scanner.lookFurther.value.cursor.following? = left.head? := by
  have hfollowing := Cursor.following?_lookFurther scanner.cursor
  rwa [h.behind_eq] at hfollowing

end IsAt

theorem isAt_start (settings : Settings) (reader : Reader) :
    IsAt settings [] reader.remaining (start settings reader).value where
  settings_eq := rfl
  lexeme_eq := (Lexeme.holding_nil settings).symm
  remaining_eq := Cursor.remaining_start reader

/-! ## Finishing a token -/

/-- A token with the scanner after it: the token shows a piece, and the scanner is between tokens
in front of what is behind the piece. -/
structure Yields (settings : Settings) (found : Piece × List Byte) (result : Token × Scanner) :
    Prop where
  token_eq : result.1 = found.1.token settings
  isAt : IsAt settings [] found.2 result.2

/-- The token that a scanner finishes from the given mode on, with the scanner after it. -/
def finishing (mode : Mode) (scanner : Scanner) : Token × Scanner :=
  (finishToken mode (pure scanner)).value

theorem finishing_of_finished {mode : Mode} {token : Token} {next : Scanner}
    (h : (scanner.step mode).value = .finished token next) :
    scanner.finishing mode = (token, next) := by
  rw [finishing, finishToken_of_finished h]

theorem finishing_of_reading {mode mode' : Mode} {next : Scanner}
    (h : (scanner.step mode).value = .reading mode' next) :
    scanner.finishing mode = next.finishing mode' := by
  rw [finishing, finishToken_of_reading h, finishToken_eq]
  rfl

theorem yields_of_finish {mode : Mode} {kind : Kind} {next : Scanner}
    (h : IsAt settings taken left next)
    (hstep : (scanner.step mode).value = next.finish (Piece.shownKind settings ⟨kind, taken⟩)) :
    Yields settings (⟨kind, taken⟩, left) (scanner.finishing mode) := by
  rw [finishing_of_finished hstep]
  constructor
  · simp only [Piece.token, h.lexeme_eq]
    rfl
  · exact ⟨h.settings_eq, (Lexeme.holding_nil settings).symm, h.remaining_eq⟩

theorem yields_of_finish_of_ne {mode : Mode} {kind : Kind} {next : Scanner}
    (h : IsAt settings taken left next) (hkind : kind ≠ .keyword)
    (hstep : (scanner.step mode).value = next.finish kind) :
    Yields settings (⟨kind, taken⟩, left) (scanner.finishing mode) := by
  refine yields_of_finish h ?_
  rw [hstep, Piece.shownKind_of_ne_keyword settings hkind]

/-! ## Runs -/

/-- The kind of a finished run is that of the run in full, unless a reserved word was cut. -/
theorem kindOfRun_eq (h : IsAt settings taken left scanner) (run : Run) :
    scanner.kindOfRun run = Piece.shownKind settings ⟨run.kindOf taken, taken⟩ := by
  cases run with
  | word =>
    simp only [kindOfRun, Run.kindOf, Piece.shownKind, h.lexeme_eq, Lexeme.holding]
    by_cases hdrops : settings.drops taken = true
    · by_cases hreserved : isReserved (Byte.text taken) = true <;> simp [hdrops, hreserved]
    · rw [Bool.not_eq_true] at hdrops
      rw [settings.kept_eq_of_not_drops hdrops]
      simp [hdrops]
  | number based | operators | lineComment =>
    simp [kindOfRun, Run.kindOf, Piece.shownKind]

theorem stepRun_of_some {run next : Run} {byte : Byte}
    (h : IsAt settings taken (byte :: left) scanner) (hextend : run.extend? byte = some next) :
    (scanner.step (.run run)).value = .reading (.run next) (scanner.take byte).value := by
  simp [step, stepRun, h.current?_eq, hextend]

theorem stepRun_of_stop (run : Run) (h : IsAt settings taken left scanner)
    (hstop : ∀ byte, left.head? = some byte → run.extend? byte = none) :
    (scanner.step (.run run)).value = scanner.finish (scanner.kindOfRun run) := by
  simp only [step, stepRun, h.current?_eq]
  cases hhead : left.head? with
  | none => rfl
  | some byte => simp [hstop byte hhead]

/-- A run takes the bytes with which it goes on. -/
theorem yields_run (run : Run) (h : IsAt settings taken left scanner) :
    Yields settings
      (⟨run.kindOf (taken ++ (run.split left).1), taken ++ (run.split left).1⟩, (run.split left).2)
      (scanner.finishing (.run run)) := by
  induction left generalizing run taken scanner with
  | nil =>
    have hstep := stepRun_of_stop run h nofun
    simpa [Run.split] using yields_of_finish h (hstep.trans (by rw [kindOfRun_eq h]))
  | cons byte left ih =>
    cases hextend : run.extend? byte with
    | none =>
      have hstep := stepRun_of_stop run h (by simpa using hextend)
      rw [Run.split_cons_of_none hextend, List.append_nil]
      exact yields_of_finish h (hstep.trans (by rw [kindOfRun_eq h]))
    | some next =>
      rw [finishing_of_reading (stepRun_of_some h hextend), Run.split_cons_of_some hextend]
      have hnext := ih next (h.take byte)
      rwa [Run.kindOf_of_extend? hextend, List.append_assoc] at hnext

/-! ## Quotations -/

theorem stepQuotation_of_ne {quotation : Quotation} {byte : Byte}
    (h : IsAt settings taken (byte :: left) scanner) (hmark : byte ≠ quotation.mark) :
    (scanner.step (.quotation quotation)).value =
      .reading (.quotation quotation) (scanner.take byte).value := by
  simp [step, stepQuotation, h.current?_eq, hmark]

theorem stepQuotation_of_mark {quotation : Quotation}
    (h : IsAt settings taken (quotation.mark :: left) scanner) :
    (scanner.step (.quotation quotation)).value =
      (scanner.take quotation.mark).value.finish quotation.kind := by
  simp [step, stepQuotation, h.current?_eq]

theorem stepQuotation_of_end {quotation : Quotation} (h : IsAt settings taken [] scanner) :
    (scanner.step (.quotation quotation)).value = scanner.finish .unknown := by
  simp [step, stepQuotation, h.current?_eq]

/-- A quotation takes everything up to its closing mark, and everything if there is none. -/
theorem yields_quotation {quotation : Quotation} (h : IsAt settings taken left scanner) :
    Yields settings
      (match quotation.close? left with
        | some (body, rest) => (⟨quotation.kind, taken ++ (body ++ [quotation.mark])⟩, rest)
        | none => (⟨.unknown, taken ++ left⟩, []))
      (scanner.finishing (.quotation quotation)) := by
  induction left generalizing taken scanner with
  | nil =>
    rw [Quotation.close?, List.append_nil]
    have hkind : Kind.unknown ≠ .keyword := by decide
    exact yields_of_finish_of_ne h hkind (stepQuotation_of_end h)
  | cons byte left ih =>
    by_cases hmark : byte = quotation.mark
    · subst hmark
      rw [Quotation.close?, if_pos rfl]
      have hkind : quotation.kind ≠ .keyword := by cases quotation <;> decide
      exact yields_of_finish_of_ne (h.take _) hkind (stepQuotation_of_mark h)
    · rw [finishing_of_reading (stepQuotation_of_ne h hmark), Quotation.close?, if_neg hmark]
      have hnext := ih (h.take byte)
      cases hclose : quotation.close? left with
      | none => simpa [hclose] using hnext
      | some found => simpa [hclose] using hnext

/-! ## Block comments -/

theorem stepBlockComment_of_closer
    (h : IsAt settings taken (Byte.star :: Byte.slash :: left) scanner) :
    ∃ next, IsAt settings (taken ++ commentCloser) left next ∧
      (scanner.step .blockComment).value = next.finish .blockComment := by
  have hfollowing : scanner.lookFurther.value.cursor.following? = some Byte.slash := h.following?_eq
  have hkept := (h.lookFurther.keep Byte.star).keep Byte.slash
  rw [List.append_assoc] at hkept
  refine ⟨_, hkept.advance.advance, ?_⟩
  simp [step, stepBlockComment, h.current?_eq, hfollowing]

theorem stepBlockComment_of_not_closer {byte : Byte}
    (h : IsAt settings taken (byte :: left) scanner)
    (hcloser : ¬(byte = Byte.star ∧ left.head? = some Byte.slash)) :
    ∃ next, IsAt settings (taken ++ [byte]) left next ∧
      (scanner.step .blockComment).value = .reading .blockComment next := by
  by_cases hstar : byte = Byte.star
  · have hfollowing : scanner.lookFurther.value.cursor.following? ≠ some Byte.slash := by
      rw [h.following?_eq]
      exact fun hslash => hcloser ⟨hstar, hslash⟩
    refine ⟨_, h.lookFurther.take byte, ?_⟩
    simp [step, stepBlockComment, h.current?_eq, hfollowing, hstar]
  · refine ⟨_, h.take byte, ?_⟩
    simp [step, stepBlockComment, h.current?_eq, hstar]

theorem stepBlockComment_of_end (h : IsAt settings taken [] scanner) :
    (scanner.step .blockComment).value = scanner.finish .unknown := by
  simp [step, stepBlockComment, h.current?_eq]

/-- A block comment takes everything up to its closer, and everything if there is none. -/
theorem yields_blockComment (h : IsAt settings taken left scanner) :
    Yields settings
      (match closeComment? left with
        | some (body, rest) => (⟨.blockComment, taken ++ (body ++ commentCloser)⟩, rest)
        | none => (⟨.unknown, taken ++ left⟩, []))
      (scanner.finishing .blockComment) := by
  induction left generalizing taken scanner with
  | nil =>
    rw [closeComment?, List.append_nil]
    have hkind : Kind.unknown ≠ .keyword := by decide
    exact yields_of_finish_of_ne h hkind (stepBlockComment_of_end h)
  | cons byte left ih =>
    by_cases hcloser : byte = Byte.star ∧ left.head? = some Byte.slash
    · rw [closeComment?, if_pos hcloser]
      obtain ⟨rfl, hslash⟩ := hcloser
      rw [← List.cons_head?_tail hslash] at h
      obtain ⟨next, hnext, hstep⟩ := stepBlockComment_of_closer h
      have hkind : Kind.blockComment ≠ .keyword := by decide
      exact yields_of_finish_of_ne hnext hkind hstep
    · obtain ⟨next, hnext, hstep⟩ := stepBlockComment_of_not_closer h hcloser
      rw [finishing_of_reading hstep, closeComment?, if_neg hcloser]
      have hnext := ih hnext
      cases hclose : closeComment? left with
      | none => simpa [hclose] using hnext
      | some found => simpa [hclose] using hnext

/-! ## The first byte of a token -/

theorem yields_slash (h : IsAt settings [] (Byte.slash :: left) scanner) :
    Yields settings (Piece.afterSlash left) (scanner.finishing .blanks) := by
  have hblank : Byte.slash.isBlank = false := by decide
  have hfollowing := h.following?_eq
  have hlooked := h.lookFurther
  unfold Piece.afterSlash
  split
  · next hslash =>
    rw [hslash] at hfollowing
    rw [← List.cons_head?_tail hslash] at hlooked
    have hstep : (scanner.step .blanks).value = .reading (.run .lineComment)
        scanner.lookFurther.value.advance.value.advance.value := by
      simp [step, stepBlanks, stepSlash, h.current?_eq, hblank, hfollowing]
    rw [finishing_of_reading hstep]
    exact yields_run .lineComment hlooked.advance.advance
  · next hslash =>
    split
    · next hstar =>
      rw [hstar] at hfollowing
      rw [← List.cons_head?_tail hstar] at hlooked
      have hopener := (hlooked.advance.advance.keep Byte.slash).keep Byte.star
      have hstep : ∃ next, IsAt settings [Byte.slash, Byte.star] left.tail next ∧
          (scanner.step .blanks).value = .reading .blockComment next := by
        have hne : Byte.star ≠ Byte.slash := by decide
        refine ⟨_, hopener, ?_⟩
        simp [step, stepBlanks, stepSlash, h.current?_eq, hblank, hfollowing, hne]
      obtain ⟨next, hnext, hstep⟩ := hstep
      rw [finishing_of_reading hstep]
      exact yields_blockComment hnext
    · next hstar =>
      rw [← hfollowing] at hslash hstar
      refine yields_of_finish_of_ne (hlooked.take Byte.slash) nofun ?_
      simp [step, stepBlanks, stepSlash, h.current?_eq, hblank, hslash, hstar]

theorem yields_first {byte : Byte} (h : IsAt settings [] (byte :: left) scanner)
    (hblank : byte.isBlank = false) :
    Yields settings (Piece.first byte left) (scanner.finishing .blanks) := by
  obtain ⟨rfl, hfirst⟩ | ⟨quotation, hslash, hquotation, hfirst⟩ |
    ⟨run, hslash, hquotation, hrun, hfirst⟩ | ⟨hslash, hquotation, hrun, hfirst⟩ :=
    Piece.first_cases byte left
  · rw [hfirst]
    exact yields_slash h
  · have hstep : (scanner.step .blanks).value =
        .reading (.quotation quotation) (scanner.take byte).value := by
      simp [step, stepBlanks, h.current?_eq, hblank, hslash, hquotation]
    rw [hfirst, finishing_of_reading hstep]
    obtain rfl := Quotation.eq_mark_of_ofFirst? hquotation
    exact yields_quotation (h.take quotation.mark)
  · have hstep : (scanner.step .blanks).value =
        .reading (.run run) (scanner.take byte).value := by
      simp [step, stepBlanks, h.current?_eq, hblank, hslash, hquotation, hrun]
    rw [hfirst, finishing_of_reading hstep]
    exact yields_run run (h.take byte)
  · have hstep : (scanner.step .blanks).value = (scanner.take byte).value.finish .unknown := by
      simp [step, stepBlanks, h.current?_eq, hblank, hslash, hquotation, hrun]
    rw [hfirst]
    exact yields_of_finish_of_ne (h.take byte) nofun hstep

/-! ## Whole tokens -/

/-- The token that comes next when the given bytes are left. -/
def tokenAhead (settings : Settings) (bytes : List Byte) : Token :=
  match nextPiece? bytes with
  | none => Token.endOfInput
  | some (piece, _) => piece.token settings

theorem finishing_blanks (h : IsAt settings [] left scanner) :
    (scanner.finishing .blanks).1 = tokenAhead settings left ∧
      IsAt settings [] (pastPiece left) (scanner.finishing .blanks).2 := by
  induction left generalizing scanner with
  | nil =>
    have hstep : (scanner.step .blanks).value = .finished Token.endOfInput scanner := by
      simp [step, stepBlanks, h.current?_eq]
    rw [finishing_of_finished hstep]
    exact ⟨rfl, h⟩
  | cons byte left ih =>
    cases hblank : byte.isBlank with
    | true =>
      have hstep : (scanner.step .blanks).value = .reading .blanks scanner.advance.value := by
        simp [step, stepBlanks, h.current?_eq, hblank]
      have hskip : nextPiece? (byte :: left) = nextPiece? left := by
        simp [nextPiece?, hblank]
      rw [finishing_of_reading hstep, tokenAhead, pastPiece, hskip]
      exact ih h.advance
    | false =>
      have hfirst : nextPiece? (byte :: left) = some (Piece.first byte left) := by
        simp [nextPiece?, hblank]
      rw [tokenAhead, pastPiece, hfirst]
      have hyields := yields_first h hblank
      exact ⟨hyields.token_eq, hyields.isAt⟩

/-- The next token shows the next piece. -/
theorem token_next (h : IsAt settings [] left scanner) :
    scanner.next.1.token = tokenAhead settings left :=
  (finishing_blanks h).1

/-- Between tokens a scanner is in front of what is behind the last piece. -/
theorem isAt_next (h : IsAt settings [] left scanner) :
    IsAt settings [] (pastPiece left) scanner.next.2 :=
  (finishing_blanks h).2

theorem next_of_none (h : IsAt settings [] left scanner) (hnone : nextPiece? left = none) :
    scanner.next.1.token = Token.endOfInput ∧ IsAt settings [] [] scanner.next.2 := by
  have hat := isAt_next h
  rw [pastPiece, hnone] at hat
  exact ⟨by rw [token_next h, tokenAhead, hnone], hat⟩

theorem next_of_some {piece : Piece} {rest : List Byte} (h : IsAt settings [] left scanner)
    (hsome : nextPiece? left = some (piece, rest)) :
    scanner.next.1.token = piece.token settings ∧ IsAt settings [] rest scanner.next.2 := by
  have hat := isAt_next h
  rw [pastPiece, hsome] at hat
  exact ⟨by rw [token_next h, tokenAhead, hsome], hat⟩

/-- All tokens that are left show the pieces that are left, and the end is reported after
them. -/
theorem value_collect (h : IsAt settings [] left scanner) :
    scanner.collect.value.1 = (pieces left).map (Piece.token settings) ++ [Token.endOfInput] ∧
      IsAt settings [] [] scanner.collect.value.2 := by
  induction left using pieces.induct generalizing scanner with
  | case1 left hnone =>
    obtain ⟨htoken, hat⟩ := next_of_none h hnone
    have hend : scanner.next.1.token.isEndOfInput = true := by rw [htoken]; rfl
    simp only [collect, drain_eq scanner, if_pos hend, pieces_of_none hnone]
    exact ⟨congrArg (· :: []) htoken, hat⟩
  | case2 left piece rest hsome ih =>
    obtain ⟨htoken, hat⟩ := next_of_some h hsome
    have hend : ¬scanner.next.1.token.isEndOfInput = true := by
      rw [htoken]
      exact piece.not_isEndOfInput_token settings (proper_of_nextPiece? hsome).2
    obtain ⟨htokens, hlast⟩ := ih hat
    simp only [collect, drain_eq scanner, if_neg hend, pieces_of_some hsome]
    exact ⟨congrArg₂ List.cons htoken htokens, hlast⟩

/-- The tokens of a source show the pieces of the bytes that its reader hands out. -/
theorem value_scan (settings : Settings) (reader : Reader) :
    (scan settings reader).value.1 =
      (pieces reader.remaining).map (Piece.token settings) ++ [Token.endOfInput] :=
  (value_collect (isAt_start settings reader)).1

theorem remaining_ofBytes (bytes : List Byte) : (Reader.ofBytes bytes).remaining = bytes := by
  cases bytes with
  | nil => rfl
  | cons byte bytes => simp [Reader.ofBytes, Reader.remaining, ReadResult.bytes]

theorem isAt_start_ofBytes (settings : Settings) (bytes : List Byte) :
    IsAt settings [] bytes (start settings (Reader.ofBytes bytes)).value := by
  have hstart := isAt_start settings (Reader.ofBytes bytes)
  rwa [remaining_ofBytes] at hstart

theorem value_tokensOf (settings : Settings) (bytes : List Byte) :
    (tokensOf settings bytes).value =
      (pieces bytes).map (Piece.token settings) ++ [Token.endOfInput] := by
  have hscan := value_scan settings (Reader.ofBytes bytes)
  rwa [remaining_ofBytes] at hscan

/-! ## After any number of tokens -/

/-- A scanner after it has handed out a number of tokens. -/
def after (scanner : Scanner) (count : Nat) : Scanner :=
  (fun scanner => scanner.next.2)^[count] scanner

theorem isAt_after (h : IsAt settings [] left scanner) (count : Nat) :
    IsAt settings [] (pastPiece^[count] left) (scanner.after count) := by
  induction count generalizing left scanner with
  | zero => exact h
  | succ count ih => exact ih (isAt_next h)

end Scanner

end CcxLexis
