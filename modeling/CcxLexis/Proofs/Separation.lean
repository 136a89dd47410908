import CcxLexis.Proofs.Continuation
import Mathlib

/-!
# What keeps tokens apart

Blanks keep tokens apart and mean nothing else, so anything that acts like a blank can stand in
place of one.  A comment does: replacing each comment of a source by a space takes the comments out
of its tokens and changes nothing else.  A line feed does more, since it ends a line comment too:
the tokens of two sources with a line feed between them are those of the one, and then those of the
other, unless the first source leaves something open.

Both are statements about the byte behind a piece.  A piece ends where it did as long as the first
byte behind it is the one that was there, or a blank (`Piece.endsBefore_of_head?`).
-/

namespace CcxLexis

def Byte.space : Byte := 0x20

/-! ## Pieces and the blanks behind them -/

namespace Piece

variable {piece : Piece} {rest behind : List Byte}

/-- A closed piece that is no line comment still ends where it did when a blank takes the place of
the bytes behind it. -/
theorem endsBefore_of_head? (hends : piece.EndsBefore rest) (hcomment : piece.kind ≠ .lineComment)
    (h : ∀ byte, behind.head? = some byte →
      rest.head? = some byte ∨ (byte.isBlank = true ∧ rest ≠ [])) :
    piece.EndsBefore behind := by
  intro byte hbyte
  rcases h byte hbyte with hhead | ⟨hblank, hrest⟩
  · exact hends byte hhead
  · refine not_goesOn_of_isBlank hblank (fun hkind => absurd hkind hcomment) ?_
    rintro ⟨hunknown, hopen⟩
    exact hrest (eq_nil_of_endsBefore hends hunknown hopen)

/-- Every closed piece ends before a line feed. -/
theorem endsBefore_append_lineFeed (hends : piece.EndsBefore rest)
    (hclosed : rest = [] → ¬(piece.kind = .unknown ∧ IsUnclosed piece.shown))
    (more : List Byte) : piece.EndsBefore (rest ++ Byte.lineFeed :: more) := by
  by_cases hrest : rest = []
  · subst hrest
    intro byte hbyte
    obtain rfl : Byte.lineFeed = byte := Option.some.inj hbyte
    exact not_goesOn_of_isBlank rfl (fun _ => rfl) (hclosed rfl)
  · exact (endsBefore_append_iff hrest _).mpr hends

@[simp] theorem isComment_token (settings : Settings) (piece : Piece) :
    (piece.token settings).isComment = piece.kind.isComment := by
  rw [token, Token.ofLexeme, Token.isComment, shownKind]
  split
  · next hcut =>
    rw [Bool.and_eq_true] at hcut
    rw [eq_of_beq hcut.2]
    rfl
  · rfl

end Piece

/-- Blanks in front of a source change none of its pieces. -/
theorem pieces_blank_append {gap : List Byte} (h : Blank gap) (bytes : List Byte) :
    pieces (gap ++ bytes) = pieces bytes := by
  have hnext : nextPiece? (gap ++ bytes) = nextPiece? bytes := by
    rw [nextPiece?, nextPiece?, List.dropWhile_append_of_pos h]
  cases hfound : nextPiece? bytes with
  | none => rw [pieces_of_none hfound, pieces_of_none (hnext.trans hfound)]
  | some found => rw [pieces_of_some hfound, pieces_of_some (hnext.trans hfound)]

/-! ## Comments -/

/-- A passage of a source in which one space takes the place of the text of a comment. -/
def Passage.uncommented (passage : Passage) : List Byte :=
  passage.gap ++ if passage.token.isComment then [Byte.space] else passage.text

namespace Scanner

/-- What a scanner goes through for a number of tokens, with one space in place of each comment. -/
def uncommentedPassages (scanner : Scanner) (count : Nat) : List Byte :=
  (scanner.passages count).flatMap Passage.uncommented

/-- A source in which one space takes the place of the text of each comment. -/
def uncommented (settings : Settings) (bytes : List Byte) : List Byte :=
  (start settings (Reader.ofBytes bytes)).value.uncommentedPassages
    (tokensOf settings bytes).value.length

variable {settings : Settings} {left rest : List Byte} {scanner : Scanner} {piece : Piece}

theorem uncommentedPassages_of_none (h : IsAt settings [] left scanner)
    (hnext : nextPiece? left = none) :
    scanner.uncommentedPassages ((pieces left).length + 1) = left := by
  have hpassage : scanner.passage.uncommented = left := by
    rw [passage_eq h, Passage.ahead_of_none settings hnext]
    exact List.append_nil left
  rw [pieces_of_none hnext, uncommentedPassages, passages, List.flatMap_cons, hpassage]
  exact List.append_nil left

theorem uncommentedPassages_of_some (h : IsAt settings [] left scanner)
    (hnext : nextPiece? left = some (piece, rest)) :
    scanner.uncommentedPassages ((pieces left).length + 1) =
      left.takeWhile Byte.isBlank ++
        ((if piece.kind.isComment then [Byte.space] else piece.written) ++
          scanner.next.2.uncommentedPassages ((pieces rest).length + 1)) := by
  rw [pieces_of_some hnext, uncommentedPassages, List.length_cons, passages, List.flatMap_cons,
    passage_eq h, Passage.ahead_of_some settings hnext, Passage.uncommented,
    Piece.isComment_token, List.append_assoc]
  rfl

/-- Without its comments a source begins as it did, or with a blank. -/
theorem head?_uncommentedPassages (h : IsAt settings [] left scanner) (byte : Byte)
    (hbyte : (scanner.uncommentedPassages ((pieces left).length + 1)).head? = some byte) :
    left.head? = some byte ∨ (byte.isBlank = true ∧ left ≠ []) := by
  cases hnext : nextPiece? left with
  | none =>
    rw [uncommentedPassages_of_none h hnext] at hbyte
    exact .inl hbyte
  | some found =>
    obtain ⟨piece, rest⟩ := found
    rw [uncommentedPassages_of_some h hnext] at hbyte
    have hleft := append_of_nextPiece? hnext
    by_cases hgap : left.takeWhile Byte.isBlank = []
    · rw [hgap, List.nil_append] at hleft hbyte
      split at hbyte
      · obtain rfl : Byte.space = byte := Option.some.inj hbyte
        exact .inr ⟨rfl, ne_nil_of_nextPiece? hnext⟩
      · have hwritten := (proper_of_nextPiece? hnext).1
        rw [List.head?_append_of_ne_nil _ hwritten] at hbyte
        rw [hleft, List.head?_append_of_ne_nil _ hwritten]
        exact .inl hbyte
    · rw [List.head?_append_of_ne_nil _ hgap] at hbyte
      rw [hleft, List.head?_append_of_ne_nil _ hgap]
      exact .inl hbyte

/-- Without its comments a source has the pieces that are no comments. -/
theorem pieces_uncommentedPassages (h : IsAt settings [] left scanner) :
    pieces (scanner.uncommentedPassages ((pieces left).length + 1)) =
      (pieces left).filter fun piece => !piece.kind.isComment := by
  induction left using pieces.induct generalizing scanner with
  | case1 left hnone =>
    rw [uncommentedPassages_of_none h hnone, pieces_of_none hnone, List.filter_nil]
  | case2 left piece rest hsome ih =>
    have hat : IsAt settings [] rest scanner.next.2 := (next_of_some h hsome).2
    have hgap := blank_takeWhile left
    rw [uncommentedPassages_of_some h hsome]
    cases hcomment : piece.kind.isComment with
    | true =>
      have hspace : Blank [Byte.space] := List.forall_mem_singleton.mpr rfl
      rw [if_pos rfl, pieces_blank_append hgap, pieces_blank_append hspace, ih hat,
        pieces_of_some hsome, List.filter_cons_of_neg (by simp [hcomment])]
    | false =>
      have hline : piece.kind ≠ .lineComment := by
        intro hkind
        rw [hkind] at hcomment
        cases hcomment
      obtain ⟨hwell, hends⟩ := standsBefore_of_nextPiece? hsome
      have hstands := Piece.endsBefore_of_head? hends hline (head?_uncommentedPassages hat)
      rw [if_neg Bool.false_ne_true]
      rw [pieces_of_some (nextPiece?_eq_some_iff.mpr ⟨⟨hwell, hstands⟩, _, hgap, rfl⟩), ih hat,
        pieces_of_some hsome, List.filter_cons_of_pos (by simp [hcomment])]

/-- **Comments act as blanks.**  Replacing each comment of a source, with its two slashes or its
opener and closer, by one space leaves exactly the tokens that are no comments, under every
limit. -/
theorem tokensOf_uncommented (settings : Settings) (bytes : List Byte) :
    (tokensOf settings (uncommented settings bytes)).value =
      (tokensOf settings bytes).value.filter fun token => !token.isComment := by
  have hstart := isAt_start_ofBytes settings bytes
  have hcount : (tokensOf settings bytes).value.length = (pieces bytes).length + 1 := by
    rw [value_tokensOf, List.length_append, List.length_map, List.length_singleton]
  have hpieces := pieces_uncommentedPassages hstart
  rw [← hcount] at hpieces
  rw [value_tokensOf, value_tokensOf, uncommented, hpieces, List.filter_append, List.filter_map]
  congr 2
  exact List.filter_congr fun piece _ => congrArg not (piece.isComment_token settings).symm

/-- With the comment in `1#/**/F` blanked out the letter is still no digit of the numeral. -/
example : (tokensOf {} (uncommented {} [0x31, 0x23, 0x2f, 0x2a, 0x2a, 0x2f, 0x46])).value =
    [⟨.number, "1#", none⟩, ⟨.identifier, "F", none⟩, Token.endOfInput] := by
  cbv

end Scanner

/-! ## Line feeds -/

/-- If a source leaves nothing open, then its pieces and those of a second source are the pieces of
the two with a line feed between them. -/
theorem pieces_append_lineFeed {bytes : List Byte}
    (h : ∀ piece, (pieces bytes).getLast? = some piece →
      ¬(piece.kind = .unknown ∧ IsUnclosed piece.shown)) (more : List Byte) :
    pieces (bytes ++ Byte.lineFeed :: more) = pieces bytes ++ pieces more := by
  induction bytes using pieces.induct with
  | case1 bytes hnone =>
    have hline : Blank [Byte.lineFeed] := List.forall_mem_singleton.mpr rfl
    have hblank := List.forall_mem_append.mpr ⟨blank_of_nextPiece?_eq_none hnone, hline⟩
    rw [List.append_cons, pieces_blank_append hblank, pieces_of_none hnone, List.nil_append]
  | case2 bytes piece rest hsome ih =>
    have hpieces := pieces_of_some hsome
    obtain ⟨hwell, hends⟩ := standsBefore_of_nextPiece? hsome
    have hclosed : rest = [] → ¬(piece.kind = .unknown ∧ IsUnclosed piece.shown) := by
      rintro rfl
      exact h piece (by rw [hpieces, pieces_of_none rfl]; rfl)
    have hstands := Piece.endsBefore_append_lineFeed hends hclosed more
    have hnext : nextPiece? (bytes ++ Byte.lineFeed :: more) =
        some (piece, rest ++ Byte.lineFeed :: more) := by
      refine nextPiece?_eq_some_iff.mpr ⟨⟨hwell, hstands⟩, _, blank_takeWhile bytes, ?_⟩
      nth_rewrite 1 [append_of_nextPiece? hsome]
      rw [List.append_assoc, List.append_assoc]
    rw [pieces_of_some hnext, hpieces, List.cons_append, ih]
    intro last hlast
    refine h last ?_
    rw [hpieces, List.getLast?_cons, hlast]
    rfl

/-- What opens a quotation or a block comment. -/
def openers : List (List Byte) :=
  [[Byte.quotationMark], [Byte.apostrophe], [Byte.slash, Byte.star]]

/-- A token for something that was opened and never closed. -/
def Token.IsLeftOpen (token : Token) : Prop :=
  token.kind = .unknown ∧ ∃ opener ∈ openers, opener <+: token.bytes

theorem exists_opener_of_isUnclosed {bytes : List Byte} (h : IsUnclosed bytes) :
    ∃ opener ∈ openers, opener <+: bytes := by
  rcases h with ⟨quotation, body, rfl, -⟩ | ⟨body, rfl, -⟩
  · refine ⟨[quotation.mark], ?_, List.prefix_append [quotation.mark] body⟩
    cases quotation with
    | string => exact List.mem_cons_self
    | character => exact List.mem_cons_of_mem _ List.mem_cons_self
  · exact ⟨_, List.mem_cons_of_mem _ (List.mem_cons_of_mem _ List.mem_cons_self),
      List.prefix_append [Byte.slash, Byte.star] body⟩

namespace Scanner

/-- **A line feed separates sources.**  If the last token of a source is nothing that was opened
and never closed, then behind a line feed scanning starts over: the tokens of the source, a line
feed and a second source are the tokens of the first and then those of the second, under every
limit. -/
theorem tokensOf_append_lineFeed (settings : Settings) (bytes more : List Byte)
    (h : ∀ token, (tokensOf {} bytes).value.dropLast.getLast? = some token → ¬token.IsLeftOpen) :
    (tokensOf settings (bytes ++ Byte.lineFeed :: more)).value =
      (tokensOf settings bytes).value.dropLast ++ (tokensOf settings more).value := by
  have hpieces : ∀ piece, (pieces bytes).getLast? = some piece →
      ¬(piece.kind = .unknown ∧ IsUnclosed piece.shown) := by
    rintro piece hpiece ⟨hunknown, hopen⟩
    have hlast : (tokensOf {} bytes).value.dropLast.getLast? = some (piece.token {}) := by
      rw [value_tokensOf, List.dropLast_concat, List.getLast?_map, hpiece]
      rfl
    refine h _ hlast ⟨hunknown, ?_⟩
    rw [Piece.bytes_token]
    exact exists_opener_of_isUnclosed hopen
  rw [value_tokensOf, value_tokensOf, value_tokensOf, pieces_append_lineFeed hpieces,
    List.dropLast_concat, List.map_append, List.append_assoc]

/-- A line feed ends a numeral whose hash sign is open, which would have gone on with the letter
behind it. -/
theorem tokensOf_append_lineFeed_openNumeral :
    (∀ token, (tokensOf {} [0x31, 0x23]).value.dropLast.getLast? = some token →
        ¬token.IsLeftOpen) ∧
      (tokensOf {} ([0x31, 0x23] ++ Byte.lineFeed :: [0x41])).value =
        [⟨.number, "1#", none⟩, ⟨.identifier, "A", none⟩, Token.endOfInput] := by
  have hfirst : (tokensOf {} [0x31, 0x23]).value =
      [⟨.number, "1#", none⟩, Token.endOfInput] := by
    cbv
  have hsecond : (tokensOf {} [0x41]).value = [⟨.identifier, "A", none⟩, Token.endOfInput] := by
    cbv
  have hclosed : ∀ token, (tokensOf {} [0x31, 0x23]).value.dropLast.getLast? = some token →
      ¬token.IsLeftOpen := by
    intro token htoken
    rw [hfirst] at htoken
    obtain rfl := Option.some.inj htoken
    rintro ⟨hkind, -⟩
    cases hkind
  refine ⟨hclosed, ?_⟩
  rw [tokensOf_append_lineFeed {} [0x31, 0x23] [0x41] hclosed, hfirst, hsecond]
  rfl

end Scanner

end CcxLexis
