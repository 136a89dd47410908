import CcxLexis.Proofs.Reading

/-!
# What a limit changes

A limit changes what a token shows and nothing else.  The tokens of a source under a limit are the
tokens of the same source without one, each cut to the limit (`Token.cutTo`), and both scanners
consume the same bytes for each of them.  Cutting never makes a reserved word out of a longer
word: a reserved word that is cut becomes an identifier, and no other kind changes.
-/

namespace CcxLexis

/-- The token that is left of a token under a limit: its first characters, under the same kind
unless a reserved word is cut. -/
def Token.cutTo (limit : Limit) (token : Token) : Token :=
  let value := String.ofList (token.value.toList.take limit.bytes)
  { kind :=
      if token.kind = .keyword ∧ limit.bytes < token.value.length then .identifier
      else token.kind
    value
    annotation := if token.kind.isComment then some value else none }

theorem Token.cutTo_endOfInput (limit : Limit) :
    Token.endOfInput.cutTo limit = Token.endOfInput := by
  simp [cutTo, endOfInput, Kind.isComment]

/-- A piece shown under a limit is the piece shown in full, cut to the limit. -/
theorem Piece.token_limited (limit : Limit) (piece : Piece) :
    piece.token (Settings.limitedTo {} limit) = (piece.token {}).cutTo limit := by
  obtain ⟨kind, shown⟩ := piece
  have hvalue : Byte.text (shown.take limit.bytes) =
      String.ofList ((Byte.text shown).toList.take limit.bytes) := by
    rw [Byte.toList_text, ← List.map_take, Byte.text]
  have hcomment : Kind.isComment
      (if kind = .keyword ∧ limit.bytes < shown.length then .identifier else kind) =
        kind.isComment := by
    split
    · next h => rw [h.1]; rfl
    · rfl
  have hkind : shownKind (Settings.limitedTo {} limit) ⟨kind, shown⟩ =
      if kind = .keyword ∧ limit.bytes < shown.length then .identifier else kind := by
    simp [shownKind, Settings.drops, Settings.limitedTo, and_comm]
  have hkept : (Settings.limitedTo {} limit).kept shown = shown.take limit.bytes := rfl
  rw [token, hkind, hkept, hvalue, token_unlimited]
  simp only [Token.cutTo, Token.ofLexeme, hcomment, Byte.length_text]

theorem Scanner.tokenAhead_limited (limit : Limit) (bytes : List Byte) :
    tokenAhead (Settings.limitedTo {} limit) bytes = (tokenAhead {} bytes).cutTo limit := by
  unfold tokenAhead
  split
  · exact (Token.cutTo_endOfInput limit).symm
  · next piece _ _ => exact piece.token_limited limit

/-! ## Consumption -/

theorem pastPiece_suffix (bytes : List Byte) : pastPiece bytes <:+ bytes := by
  unfold pastPiece
  split
  · exact List.nil_suffix
  · next piece rest hsome =>
    have hbytes := append_of_nextPiece? hsome
    rw [← List.append_assoc] at hbytes
    exact ⟨_, hbytes.symm⟩

theorem iterate_pastPiece_suffix (count : Nat) (bytes : List Byte) :
    pastPiece^[count] bytes <:+ bytes := by
  induction count generalizing bytes with
  | zero => exact List.suffix_rfl
  | succ count ih => exact (ih (pastPiece bytes)).trans (pastPiece_suffix bytes)

namespace Scanner

/-- A scanner over a text in memory that has handed out a number of tokens. -/
def afterTokens (settings : Settings) (bytes : List Byte) (count : Nat) : Scanner :=
  (start settings (Reader.ofBytes bytes)).value.after count

theorem isAt_afterTokens (settings : Settings) (bytes : List Byte) (count : Nat) :
    IsAt settings [] (pastPiece^[count] bytes) (afterTokens settings bytes count) :=
  isAt_after (isAt_start_ofBytes settings bytes) count

/-- **A limit only shortens what tokens show.**  The tokens of a source under a limit are its
tokens without a limit, one for one, each cut to the limit.  After any number of tokens the two
scanners have consumed the same bytes of the source, and the next token of the one is the next
token of the other, cut to the limit. -/
theorem tokensOf_limited (limit : Limit) (bytes : List Byte) :
    (tokensOf (Settings.limitedTo {} limit) bytes).value =
        (tokensOf {} bytes).value.map (Token.cutTo limit) ∧
      ∀ count,
        (∃ consumed,
          bytes = consumed ++ (afterTokens (Settings.limitedTo {} limit) bytes count).remaining ∧
            bytes = consumed ++ (afterTokens {} bytes count).remaining) ∧
        (afterTokens (Settings.limitedTo {} limit) bytes count).next.1.token =
          (afterTokens {} bytes count).next.1.token.cutTo limit := by
  constructor
  · rw [value_tokensOf, value_tokensOf, List.map_append, List.map_map, List.map_singleton,
      Token.cutTo_endOfInput]
    congr 1
    exact List.map_congr_left fun piece _ => piece.token_limited limit
  · intro count
    have hlimited := isAt_afterTokens (Settings.limitedTo {} limit) bytes count
    have hfull := isAt_afterTokens {} bytes count
    constructor
    · obtain ⟨consumed, hconsumed⟩ := iterate_pastPiece_suffix count bytes
      refine ⟨consumed, ?_, ?_⟩
      · rw [hlimited.remaining_eq, hconsumed]
      · rw [hfull.remaining_eq, hconsumed]
    · rw [token_next hlimited, token_next hfull, tokenAhead_limited]

/-- A limit of two cuts `end` to an identifier and a comment to its opener. -/
example : (tokensOf (Settings.limitedTo {} ⟨2, by decide⟩)
      [0x65, 0x6e, 0x64, 0x2f, 0x2a, 0x2a, 0x2f, 0x69, 0x66]).value =
    [⟨.identifier, "en", none⟩, ⟨.blockComment, "/*", some "/*"⟩, ⟨.keyword, "if", none⟩,
      Token.endOfInput] := by
  cbv

end Scanner

end CcxLexis
