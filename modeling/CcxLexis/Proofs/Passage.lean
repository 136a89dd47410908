import CcxLexis.Proofs.Reading

/-!
# What a scanner goes through for each token

Scanning a token takes a stretch of the source: the blanks in front of the token, which are
skipped, and the text of the token.  `Scanner.passage` reads the stretch off a scanner, by what is
left of the source before the token and after it, so it is the same whatever the limit lets the
token show.

The stretches follow each other without a break (`Scanner.consumed_append`).  The text in each is
all that the token stands for (`Scanner.passage_after`).
-/

namespace CcxLexis

/-- The stretch of a source that a scanner goes through for one token: the blanks in front of the
token, and the text of the token. -/
structure Passage where
  gap : List Byte
  text : List Byte
  token : Token
deriving DecidableEq, Repr

namespace Passage

/-- All bytes of a passage, as they stand in the source. -/
def source (passage : Passage) : List Byte :=
  passage.gap ++ passage.text

/-- The passage at the start of the given bytes. -/
def ahead (settings : Settings) (bytes : List Byte) : Passage :=
  match nextPiece? bytes with
  | none => ⟨bytes, [], Token.endOfInput⟩
  | some (piece, _) => ⟨bytes.takeWhile Byte.isBlank, piece.written, piece.token settings⟩

section

variable (settings : Settings) {bytes rest : List Byte} {piece : Piece}

theorem ahead_of_none (h : nextPiece? bytes = none) :
    ahead settings bytes = ⟨bytes, [], Token.endOfInput⟩ := by
  rw [ahead, h]

theorem ahead_of_some (h : nextPiece? bytes = some (piece, rest)) :
    ahead settings bytes =
      ⟨bytes.takeWhile Byte.isBlank, piece.written, piece.token settings⟩ := by
  rw [ahead, h]

theorem source_ahead_append (bytes : List Byte) :
    (ahead settings bytes).source ++ pastPiece bytes = bytes := by
  cases hnext : nextPiece? bytes with
  | none => rw [ahead_of_none settings hnext, source, pastPiece, hnext]; simp
  | some found =>
    obtain ⟨piece, rest⟩ := found
    rw [ahead_of_some settings hnext, source, pastPiece, hnext, List.append_assoc]
    exact (append_of_nextPiece? hnext).symm

end

end Passage

namespace Scanner

/-- What a scanner goes through for its next token. -/
def passage (scanner : Scanner) : Passage :=
  let ahead := scanner.remaining.dropWhile Byte.isBlank
  { gap := scanner.remaining.takeWhile Byte.isBlank
    text := ahead.take (ahead.length - scanner.next.2.remaining.length)
    token := scanner.next.1.token }

/-- What a scanner goes through for a number of tokens. -/
def passages (scanner : Scanner) : Nat → List Passage
  | 0 => []
  | count + 1 => scanner.passage :: scanner.next.2.passages count

/-- The bytes that a scanner consumes for a number of tokens: the texts of the tokens, and the
blanks that it skips in front of them. -/
def consumed (scanner : Scanner) (count : Nat) : List Byte :=
  (scanner.passages count).flatMap Passage.source

/-- Where in the source the text of the token with the given index starts. -/
def textStart (scanner : Scanner) (index : Nat) : Nat :=
  (scanner.consumed index).length + (scanner.after index).passage.gap.length

/-- Where in the source the text of the token with the given index ends. -/
def textStop (scanner : Scanner) (index : Nat) : Nat :=
  scanner.textStart index + (scanner.after index).passage.text.length

variable {settings : Settings} {left : List Byte} {scanner : Scanner}

theorem passage_eq (h : IsAt settings [] left scanner) :
    scanner.passage = Passage.ahead settings left := by
  have hpast : scanner.next.2.remaining = pastPiece left := (isAt_next h).remaining_eq
  have htoken : scanner.next.1.token = tokenAhead settings left := token_next h
  simp only [passage, hpast, htoken, h.remaining_eq, tokenAhead]
  cases hnext : nextPiece? left with
  | none =>
    have hblank := blank_of_nextPiece?_eq_none hnext
    rw [Passage.ahead_of_none settings hnext, List.dropWhile_eq_nil_iff.mpr hblank,
      List.takeWhile_eq_self_iff.mpr hblank, List.take_nil]
  | some found =>
    obtain ⟨piece, rest⟩ := found
    have hbehind : left.dropWhile Byte.isBlank = piece.written ++ rest := by
      have hsplit := append_of_nextPiece? hnext
      nth_rewrite 1 [← List.takeWhile_append_dropWhile (p := Byte.isBlank) (l := left)] at hsplit
      exact List.append_cancel_left hsplit
    have hlength : (piece.written ++ rest).length - rest.length = piece.written.length := by
      rw [List.length_append, Nat.add_sub_cancel]
    rw [Passage.ahead_of_some settings hnext, pastPiece, hnext, hbehind, hlength, List.take_left]

theorem gap_passage (h : IsAt settings [] left scanner) :
    scanner.passage.gap = left.takeWhile Byte.isBlank := by
  rw [passage, h.remaining_eq]

theorem text_passage {piece : Piece} {rest : List Byte} (h : IsAt settings [] left scanner)
    (hnext : nextPiece? left = some (piece, rest)) : scanner.passage.text = piece.written := by
  rw [passage_eq h, Passage.ahead_of_some settings hnext]

theorem consumed_succ (scanner : Scanner) (count : Nat) :
    scanner.consumed (count + 1) = scanner.passage.source ++ scanner.next.2.consumed count :=
  List.flatMap_cons

/-- What is consumed for the first tokens, and what is left behind them, make up the source. -/
theorem consumed_append (h : IsAt settings [] left scanner) (count : Nat) :
    scanner.consumed count ++ pastPiece^[count] left = left := by
  induction count generalizing left scanner with
  | zero => rfl
  | succ count ih =>
    rw [consumed_succ, passage_eq h, Function.iterate_succ_apply, List.append_assoc,
      ih (isAt_next h)]
    exact Passage.source_ahead_append settings left

/-- The source is consumed when nothing of it is left. -/
theorem length_consumed_eq_iff (h : IsAt settings [] left scanner) (count : Nat) :
    (scanner.consumed count).length = left.length ↔ pastPiece^[count] left = [] := by
  have hlength := congrArg List.length (consumed_append h count)
  rw [List.length_append] at hlength
  rw [← List.length_eq_zero_iff]
  omega

/-- The text of a token ends where the source does when nothing is left behind it. -/
theorem textStop_eq_iff (h : IsAt settings [] left scanner) (index : Nat) :
    scanner.textStop index = left.length ↔ pastPiece (pastPiece^[index] left) = [] := by
  have hbefore := congrArg List.length (consumed_append h index)
  have hpassage := Passage.source_ahead_append settings (pastPiece^[index] left)
  rw [← passage_eq (isAt_after h index)] at hpassage
  have hlength := congrArg List.length hpassage
  simp only [Passage.source, List.length_append] at hbefore hlength
  rw [textStop, textStart, ← List.length_eq_zero_iff]
  omega

section

variable {index : Nat} {piece : Piece} {rest : List Byte}

/-- The source from where the text of a token starts. -/
theorem drop_textStart (h : IsAt settings [] left scanner)
    (hnext : nextPiece? (pastPiece^[index] left) = some (piece, rest)) :
    left.drop (scanner.textStart index) = piece.written ++ rest := by
  have hleft := consumed_append h index
  rw [append_of_nextPiece? hnext, ← gap_passage (isAt_after h index), ← List.append_assoc] at hleft
  nth_rewrite 1 [← hleft]
  rw [textStart, ← List.length_append, List.drop_left]

/-- The source from where the text of a token ends. -/
theorem drop_textStop (h : IsAt settings [] left scanner)
    (hnext : nextPiece? (pastPiece^[index] left) = some (piece, rest)) :
    left.drop (scanner.textStop index) = rest := by
  rw [textStop, text_passage (isAt_after h index) hnext, ← List.drop_drop,
    drop_textStart h hnext, List.drop_left]

end

/-- Whatever the limit, a scanner skips blanks and then consumes all that the token of the same
index stands for without a limit. -/
theorem passage_after (settings : Settings) (reader : Reader) (index : Nat) :
    let passage := ((start settings reader).value.after index).passage
    Blank passage.gap ∧
      passage.text = ((start {} reader).value.after index).next.1.token.written := by
  dsimp only
  have hat := isAt_after (isAt_start settings reader) index
  have hfull := isAt_after (isAt_start {} reader) index
  rw [passage_eq hat, token_next hfull, tokenAhead]
  cases hnext : nextPiece? (pastPiece^[index] reader.remaining) with
  | none =>
    rw [Passage.ahead_of_none settings hnext]
    exact ⟨blank_of_nextPiece?_eq_none hnext, rfl⟩
  | some found =>
    rw [Passage.ahead_of_some settings hnext]
    exact ⟨blank_takeWhile _, found.1.written_token.symm⟩

end Scanner

end CcxLexis
