import CcxLexis.Proofs.Limits
import CcxLexis.Proofs.Passage
import CcxLexis.Proofs.Schedule

/-!
# Where the next token begins

A scanner between tokens may still have blanks in front of it.  The bytes behind them are those with
which the next token begins, and nothing else about the scanner matters to it: `Scanner.ahead` reads
these bytes off a scanner, and `Scanner.takes_of_first` says that the next token is the piece that
they begin with, however the scanner came to where it is.
-/

namespace CcxLexis.Scanner

/-- The bytes with which the next token begins: those that are left, without the blanks in front of
them. -/
def ahead (scanner : Scanner) : List Byte :=
  scanner.remaining.dropWhile Byte.isBlank

/-- The next token of a scanner is of the given kind and takes up exactly the given bytes of the
source, with the given rest left behind them.  The token shows as much of the bytes as the settings
keep, which without a limit is all of them. -/
structure Takes (settings : Settings) (kind : Kind) (lexeme rest : List Byte) (scanner : Scanner) :
    Prop where
  token_eq : scanner.next.1.token = Token.ofLexeme kind (Byte.text (settings.kept lexeme))
  text_eq : scanner.passage.text = lexeme
  remaining_eq : scanner.next.2.remaining = rest

variable {settings : Settings} {reader : Reader} {scanner later : Scanner} {left : List Byte}

/-! ## Scanners between tokens -/

/-- Asking for tokens, in whatever way, leaves a scanner between tokens, in front of an end of the
bytes that were left. -/
theorem exists_isAt_of_becomes (h : IsAt settings [] left scanner)
    (hlater : Becomes scanner later) : ∃ rest, rest <:+ left ∧ IsAt settings [] rest later := by
  induction hlater with
  | refl => exact ⟨left, List.suffix_rfl, h⟩
  | next _ ih =>
    obtain ⟨rest, hrest, hat⟩ := ih
    exact ⟨pastPiece rest, (pastPiece_suffix rest).trans hrest, isAt_next hat⟩
  | next? _ ih =>
    obtain ⟨rest, hrest, hat⟩ := ih
    exact ⟨pastPiece rest, (pastPiece_suffix rest).trans hrest, isAt_next hat⟩
  | collect _ ih =>
    obtain ⟨rest, -, hat⟩ := ih
    exact ⟨[], List.nil_suffix, (value_collect hat).2⟩
  | rest _ ih =>
    obtain ⟨rest, -, hat⟩ := ih
    exact ⟨[], List.nil_suffix, (value_collect hat).2⟩

theorem isAt_of_becomes_start (h : Becomes (start settings reader).value scanner) :
    IsAt settings [] scanner.remaining scanner := by
  obtain ⟨rest, -, hat⟩ := exists_isAt_of_becomes (isAt_start settings reader) h
  rw [hat.remaining_eq]
  exact hat

/-- Behind the last byte of the source there are no more tokens, however they are asked for. -/
theorem token_next_of_used_up (h : Becomes (start settings reader).value scanner)
    (hleft : scanner.remaining = []) (hlater : Becomes scanner later) :
    later.next.1.token = Token.endOfInput := by
  obtain ⟨rest, hrest, hat⟩ := exists_isAt_of_becomes (isAt_of_becomes_start h) hlater
  rw [hleft, List.suffix_nil] at hrest
  rw [token_next hat, hrest]
  rfl

/-! ## The next token -/

variable {byte : Byte} {bytes lexeme rest : List Byte} {kind : Kind}

theorem nextPiece?_of_ahead (h : scanner.ahead = byte :: bytes) :
    nextPiece? scanner.remaining = some (Piece.first byte bytes) := by
  rw [nextPiece?, show scanner.remaining.dropWhile Byte.isBlank = byte :: bytes from h]

theorem token_next_of_ahead (h : Becomes (start settings reader).value scanner)
    (hahead : scanner.ahead = byte :: bytes) :
    scanner.next.1.token = (Piece.first byte bytes).1.token settings :=
  (next_of_some (isAt_of_becomes_start h) (nextPiece?_of_ahead hahead)).1

/-- A piece that shows all of its bytes is taken under the kind that the limit leaves it. -/
theorem takes_shownKind_of_first {piece : Piece} (h : Becomes (start settings reader).value scanner)
    (hahead : scanner.ahead = byte :: bytes) (hfirst : Piece.first byte bytes = (piece, rest))
    (hcomment : piece.kind ≠ .lineComment) :
    Takes settings (piece.shownKind settings) piece.shown rest scanner := by
  have hat := isAt_of_becomes_start h
  have hnext := nextPiece?_of_ahead hahead
  rw [hfirst] at hnext
  obtain ⟨htoken, hbehind⟩ := next_of_some hat hnext
  constructor
  · rw [htoken, Piece.token]
  · rw [text_passage hat hnext, Piece.written_eq_shown hcomment]
  · exact hbehind.remaining_eq

/-- A piece that shows all of its bytes, and that a limit makes nothing else of, is taken as it
is. -/
theorem takes_of_first (h : Becomes (start settings reader).value scanner)
    (hahead : scanner.ahead = byte :: bytes)
    (hfirst : Piece.first byte bytes = (⟨kind, lexeme⟩, rest))
    (hkeyword : kind ≠ .keyword) (hcomment : kind ≠ .lineComment) :
    Takes settings kind lexeme rest scanner := by
  have htakes := takes_shownKind_of_first h hahead hfirst hcomment
  rwa [Piece.shownKind_of_ne_keyword settings hkeyword] at htakes

end CcxLexis.Scanner
