import CcxLexis.Proofs.Reading

/-!
# Nothing of a source is lost

The tokens of a source, written one after the other with the blanks of the source put back between
them, are the source.  So each byte that is no blank between two lexemes belongs to exactly one
token, and the tokens stand in the order of the source.  Malformed text is no exception, and
neither are bytes outside ASCII.
-/

namespace CcxLexis

/-- The pieces of a source with the blanks in front of each, and the blanks behind the last, make
up the source. -/
theorem exists_blanks_between_pieces (bytes : List Byte) :
    ∃ (gaps : List (List Byte)) (last : List Byte),
      gaps.length = (pieces bytes).length ∧ (∀ gap ∈ gaps, Blank gap) ∧ Blank last ∧
        bytes = (List.zipWith (fun gap piece => gap ++ Piece.written piece) gaps
          (pieces bytes)).flatten ++ last := by
  induction bytes using pieces.induct with
  | case1 bytes hnone =>
    refine ⟨[], bytes, ?_, by simp, blank_of_nextPiece?_eq_none hnone, rfl⟩
    rw [pieces_of_none hnone]
    rfl
  | case2 bytes piece rest hsome ih =>
    obtain ⟨gaps, last, hlength, hgaps, hlast, hrest⟩ := ih
    refine ⟨bytes.takeWhile Byte.isBlank :: gaps, last, ?_, ?_, hlast, ?_⟩
    · rw [pieces_of_some hsome, List.length_cons, List.length_cons, hlength]
    · intro gap hgap
      rcases List.mem_cons.mp hgap with rfl | hgap
      · exact blank_takeWhile bytes
      · exact hgaps gap hgap
    · calc
        bytes = bytes.takeWhile Byte.isBlank ++ (piece.written ++ rest) :=
          append_of_nextPiece? hsome
        _ = _ := by
          rw [pieces_of_some hsome, List.zipWith_cons_cons, List.flatten_cons, List.append_assoc,
            List.append_assoc, ← hrest]

theorem kind_ne_endOfInput_of_mem_pieces {bytes : List Byte} {piece : Piece}
    (h : piece ∈ pieces bytes) : piece.kind ≠ .endOfInput := by
  induction bytes using pieces.induct with
  | case1 bytes hnone =>
    rw [pieces_of_none hnone] at h
    cases h
  | case2 bytes first rest hsome ih =>
    rw [pieces_of_some hsome] at h
    rcases List.mem_cons.mp h with rfl | h
    · exact (proper_of_nextPiece? hsome).2
    · exact ih h

/-- The tokens that show the pieces of the given bytes. -/
def tokensIn (settings : Settings) (bytes : List Byte) : List Token :=
  (pieces bytes).map (Piece.token settings)

@[simp]
theorem tokensIn_nil (settings : Settings) : tokensIn settings [] = [] := by
  rw [tokensIn, pieces_of_none rfl, List.map_nil]

theorem tokensIn_eq_nil_iff {settings : Settings} {bytes : List Byte} :
    tokensIn settings bytes = [] ↔ Blank bytes := by
  rw [tokensIn, List.map_eq_nil_iff]
  constructor
  · intro h
    cases hnext : nextPiece? bytes with
    | none => exact blank_of_nextPiece?_eq_none hnext
    | some first =>
      rw [pieces_of_some hnext] at h
      cases h
  · intro hblank
    exact pieces_of_none (nextPiece?_of_blank hblank)

theorem isEndOfInput_of_mem_tokensIn {settings : Settings} {bytes : List Byte} {token : Token}
    (h : token ∈ tokensIn settings bytes) : token.isEndOfInput = false := by
  obtain ⟨piece, hpiece, rfl⟩ := List.mem_map.mp h
  have hkind := kind_ne_endOfInput_of_mem_pieces hpiece
  exact Bool.eq_false_iff.mpr (piece.not_isEndOfInput_token settings hkind)

/-- The report of the end stands apart from the tokens in front of it. -/
theorem filter_tokensIn (settings : Settings) (bytes : List Byte) :
    ((tokensIn settings bytes ++ [Token.endOfInput]).filter fun token => !token.isEndOfInput) =
      tokensIn settings bytes := by
  rw [List.filter_append]
  refine (List.append_nil _).trans (List.filter_eq_self.mpr ?_)
  intro token htoken
  rw [isEndOfInput_of_mem_tokensIn htoken]
  rfl

/-- Without the report of the end, the tokens of a source show its pieces. -/
theorem filter_scan (settings : Settings) (reader : Reader) :
    ((Scanner.scan settings reader).value.1.filter fun token => !token.isEndOfInput) =
      tokensIn settings reader.remaining := by
  rw [Scanner.value_scan]
  exact filter_tokensIn settings reader.remaining

/-- **Scanning loses nothing.**  The tokens of a source, each with blanks in front of it, and
blanks behind the last, make up the source, byte for byte.  Every character of a token stands for
one byte. -/
theorem tokensOf_lossless (bytes : List Byte) :
    ∃ (tokens : List Token) (gaps : List (List Byte)) (last : List Byte),
      (Scanner.tokensOf {} bytes).value = tokens ++ [Token.endOfInput] ∧
      (∀ token ∈ tokens, token.kind ≠ .endOfInput) ∧
      gaps.length = tokens.length ∧ (∀ gap ∈ gaps, Blank gap) ∧ Blank last ∧
      bytes = (List.zipWith (fun gap token => gap ++ Token.written token) gaps tokens).flatten ++
        last ∧
      ∀ token ∈ tokens, ∀ c ∈ token.value.toList, c.toNat ≤ 0xff := by
  obtain ⟨gaps, last, hlength, hgaps, hlast, hbytes⟩ := exists_blanks_between_pieces bytes
  refine ⟨(pieces bytes).map (Piece.token {}), gaps, last, Scanner.value_tokensOf {} bytes, ?_, ?_,
    hgaps, hlast, ?_, ?_⟩
  · intro token htoken
    obtain ⟨piece, hpiece, rfl⟩ := List.mem_map.mp htoken
    exact kind_ne_endOfInput_of_mem_pieces hpiece
  · rw [hlength, List.length_map]
  · rw [List.zipWith_map_right]
    simpa only [Piece.written_token] using hbytes
  · intro token htoken
    obtain ⟨piece, -, rfl⟩ := List.mem_map.mp htoken
    exact Piece.isLatin_token {} piece

/-- A comment, a stray byte and an unterminated string, with the gaps between them. -/
example : (Scanner.tokensOf {} [0x20, 0x2f, 0x2f, 0xe9, 0x0a, 0x00, 0x22, 0x0a]).value =
    [⟨.lineComment, "é", some "é"⟩, ⟨.unknown, "\x00", none⟩, ⟨.unknown, "\"\n", none⟩,
      Token.endOfInput] := by
  cbv

end CcxLexis
