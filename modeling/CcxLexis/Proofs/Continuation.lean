import CcxLexis.Proofs.Passage
import CcxLexis.Proofs.RoundTrip
import CcxLexis.Proofs.Schedule

/-!
# What more bytes can change

A token is decided by its own bytes and the one byte behind them.  So when a source goes on, the
tokens that end before its old end stay as they are, and only a token that reaches the old end can
go on as well.  A read failure or an early end in the middle of a source therefore spoils at most
the last token before it.

`nextPiece?_append` and `exists_nextPiece?_append` say this of the next piece, for bytes that go on
behind it and for bytes that end with it.
-/

namespace CcxLexis

/-! ## The next piece when the bytes go on -/

namespace Piece

variable {piece : Piece} {rest : List Byte}

/-- Only the first byte behind a piece matters to it. -/
theorem endsBefore_append_iff (h : rest ≠ []) (more : List Byte) :
    piece.EndsBefore (rest ++ more) ↔ piece.EndsBefore rest := by
  rw [EndsBefore, EndsBefore, List.head?_append_of_ne_nil rest h]

theorem standsBefore_append_iff (h : rest ≠ []) (more : List Byte) :
    piece.StandsBefore (rest ++ more) ↔ piece.StandsBefore rest :=
  and_congr_right fun _ => endsBefore_append_iff h more

end Piece

variable {bytes rest : List Byte} {piece : Piece}

/-- A piece with bytes behind it stays what it is. -/
theorem nextPiece?_append (h : nextPiece? bytes = some (piece, rest)) (hrest : rest ≠ [])
    (more : List Byte) : nextPiece? (bytes ++ more) = some (piece, rest ++ more) := by
  obtain ⟨hstands, gap, hgap, rfl⟩ := nextPiece?_eq_some_iff.mp h
  refine nextPiece?_eq_some_iff.mpr
    ⟨(Piece.standsBefore_append_iff hrest more).mpr hstands, gap, hgap, ?_⟩
  rw [List.append_assoc, List.append_assoc]

/-- The blanks in front of a piece are the same however the bytes go on. -/
theorem takeWhile_isBlank_append (h : nextPiece? bytes = some (piece, rest)) (more : List Byte) :
    (bytes ++ more).takeWhile Byte.isBlank = bytes.takeWhile Byte.isBlank := by
  have hblank : ¬Blank bytes := by
    intro hblank
    rw [nextPiece?_of_blank hblank] at h
    cases h
  rw [List.takeWhile_append, if_neg]
  intro hlength
  have hall : bytes.takeWhile Byte.isBlank = bytes :=
    (List.takeWhile_prefix Byte.isBlank).eq_of_length hlength
  exact hblank (List.takeWhile_eq_self_iff.mp hall)

/-- A piece with nothing behind it is the start of the piece that the longer bytes have there. -/
theorem exists_nextPiece?_append (h : nextPiece? bytes = some (piece, [])) (more : List Byte) :
    ∃ longer rest, nextPiece? (bytes ++ more) = some (longer, rest) ∧
      piece.written <+: longer.written := by
  have hbytes := append_of_nextPiece? h
  rw [List.append_nil] at hbytes
  cases hnext : nextPiece? (bytes ++ more) with
  | none =>
    have hblank : Blank bytes :=
      (List.forall_mem_append.mp (blank_of_nextPiece?_eq_none hnext)).1
    rw [nextPiece?_of_blank hblank] at h
    cases h
  | some found =>
    obtain ⟨longer, rest⟩ := found
    refine ⟨longer, rest, rfl, ?_⟩
    have hlonger := append_of_nextPiece? hnext
    rw [takeWhile_isBlank_append h] at hlonger
    nth_rewrite 1 [hbytes] at hlonger
    rw [List.append_assoc, List.append_cancel_left_eq] at hlonger
    rcases List.append_eq_append_iff.mp hlonger with ⟨between, hbetween, -⟩ | ⟨cut, hcut, hrest⟩
    · exact ⟨between, hbetween.symm⟩
    · -- A shorter piece would have been cut off from the bytes as they were.
      by_cases hnil : cut = []
      · rw [hcut, hnil, List.append_nil]
      · have hstands := (nextPiece?_eq_some_iff.mp hnext).1
        rw [hrest] at hstands
        have hshort : nextPiece? bytes = some (longer, cut) :=
          nextPiece?_eq_some_iff.mpr ⟨(Piece.standsBefore_append_iff hnil more).mp hstands,
            _, blank_takeWhile bytes, hcut ▸ hbytes⟩
        rw [h] at hshort
        cases hshort
        exact absurd rfl hnil

/-! ## The pieces by their index -/

theorem pastPiece_nil : pastPiece [] = [] := rfl

theorem iterate_pastPiece_nil (count : Nat) : pastPiece^[count] [] = [] :=
  Function.iterate_fixed pastPiece_nil count

theorem ne_nil_of_nextPiece? (h : nextPiece? bytes = some (piece, rest)) : bytes ≠ [] := by
  rintro rfl
  cases h

theorem pastPiece_of_some (h : nextPiece? bytes = some (piece, rest)) : pastPiece bytes = rest := by
  rw [pastPiece, h]

theorem nextPiece?_of_pastPiece_ne_nil (h : pastPiece bytes ≠ []) :
    ∃ piece, nextPiece? bytes = some (piece, pastPiece bytes) := by
  unfold pastPiece at h ⊢
  cases hnext : nextPiece? bytes with
  | none =>
    rw [hnext] at h
    exact absurd rfl h
  | some found => exact ⟨found.1, rfl⟩

/-- Dropping the first pieces leaves those of the bytes behind them. -/
theorem drop_pieces (bytes : List Byte) (index : Nat) :
    (pieces bytes).drop index = pieces (pastPiece^[index] bytes) := by
  induction index generalizing bytes with
  | zero => rfl
  | succ index ih =>
    rw [Function.iterate_succ_apply, ← ih]
    cases hnext : nextPiece? bytes with
    | none => rw [pieces_of_none hnext, pastPiece, hnext, pieces_of_none rfl]; simp
    | some found => rw [pieces_of_some hnext, pastPiece_of_some hnext, List.drop_succ_cons]

theorem getElem?_pieces (bytes : List Byte) (index : Nat) :
    (pieces bytes)[index]? = (nextPiece? (pastPiece^[index] bytes)).map Prod.fst := by
  rw [← List.head?_drop, drop_pieces]
  cases hnext : nextPiece? (pastPiece^[index] bytes) with
  | none => rw [pieces_of_none hnext]; rfl
  | some found => rw [pieces_of_some hnext]; rfl

/-- As long as bytes are left, going on with the source only adds to them. -/
theorem iterate_pastPiece_append {count : Nat} (h : pastPiece^[count] bytes ≠ [])
    (more : List Byte) :
    pastPiece^[count] (bytes ++ more) = pastPiece^[count] bytes ++ more := by
  induction count generalizing bytes with
  | zero => rfl
  | succ count ih =>
    rw [Function.iterate_succ_apply] at h
    have hpast : pastPiece bytes ≠ [] := by
      intro hnil
      rw [hnil, iterate_pastPiece_nil] at h
      exact h rfl
    obtain ⟨piece, hnext⟩ := nextPiece?_of_pastPiece_ne_nil hpast
    rw [Function.iterate_succ_apply, Function.iterate_succ_apply,
      pastPiece_of_some (nextPiece?_append hnext hpast more), ih h]

section

variable {index : Nat}

theorem nextPiece?_iterate_append (h : nextPiece? (pastPiece^[index] bytes) = some (piece, rest))
    (hrest : rest ≠ []) (more : List Byte) :
    nextPiece? (pastPiece^[index] (bytes ++ more)) = some (piece, rest ++ more) := by
  rw [iterate_pastPiece_append (ne_nil_of_nextPiece? h) more]
  exact nextPiece?_append h hrest more

theorem exists_nextPiece?_iterate_append
    (h : nextPiece? (pastPiece^[index] bytes) = some (piece, [])) (more : List Byte) :
    ∃ longer rest, nextPiece? (pastPiece^[index] (bytes ++ more)) = some (longer, rest) ∧
      piece.written <+: longer.written := by
  rw [iterate_pastPiece_append (ne_nil_of_nextPiece? h) more]
  exact exists_nextPiece?_append h more

end

/-- All pieces but the last are pieces of the longer bytes. -/
theorem prefix_pieces_append (bytes more : List Byte) :
    (pieces bytes).dropLast <+: pieces (bytes ++ more) := by
  induction bytes using pieces.induct with
  | case1 bytes hnone =>
    rw [pieces_of_none hnone]
    exact List.nil_prefix
  | case2 bytes piece rest hsome ih =>
    by_cases hpieces : pieces rest = []
    · rw [pieces_of_some hsome, hpieces]
      exact List.nil_prefix
    · have hrest : rest ≠ [] := by
        rintro rfl
        exact hpieces (pieces_of_none rfl)
      rw [pieces_of_some hsome, pieces_of_some (nextPiece?_append hsome hrest more),
        List.dropLast_cons_of_ne_nil hpieces]
      exact List.cons_prefix_cons.mpr ⟨rfl, ih⟩

/-! ## Tokens by their index -/

namespace Scanner

variable {settings : Settings} {bytes : List Byte} {index : Nat}

theorem getElem?_tokensOf {piece : Piece} {rest : List Byte}
    (h : nextPiece? (pastPiece^[index] bytes) = some (piece, rest)) :
    (tokensOf settings bytes).value[index]? = some (piece.token settings) := by
  have hpiece : (pieces bytes)[index]? = some piece := by rw [getElem?_pieces, h]; rfl
  have hindex : index < ((pieces bytes).map (Piece.token settings)).length := by
    rw [List.length_map]
    exact (List.getElem?_eq_some_iff.mp hpiece).1
  rw [value_tokensOf, List.getElem?_append_left hindex, List.getElem?_map, hpiece]
  rfl

/-- Every token but the report of the end shows a piece. -/
theorem exists_piece_of_getElem?_tokensOf {token : Token}
    (h : (tokensOf settings bytes).value[index]? = some token) (htoken : token ≠ .endOfInput) :
    ∃ piece rest, nextPiece? (pastPiece^[index] bytes) = some (piece, rest) := by
  rw [value_tokensOf] at h
  have hindex : index < ((pieces bytes).map (Piece.token settings)).length := by
    by_contra hbehind
    rw [List.getElem?_append_right (Nat.le_of_not_lt hbehind)] at h
    exact htoken (List.mem_singleton.mp (List.mem_of_getElem? h))
  rw [List.getElem?_append_left hindex, List.getElem?_map, getElem?_pieces, Option.map_map,
    Option.map_eq_some_iff] at h
  obtain ⟨found, hfound, -⟩ := h
  exact ⟨found.1, found.2, hfound⟩

/-- Without a limit, a token shows a lexeme of its kind, which ends before the bytes behind it. -/
theorem exists_shown_of_getElem?_tokensOf {token : Token}
    (h : (tokensOf {} bytes).value[index]? = some token) (hkind : token.kind ≠ .endOfInput) :
    ∃ shown rest, token = Piece.token {} ⟨token.kind, shown⟩ ∧
      Piece.StandsBefore ⟨token.kind, shown⟩ rest ∧
      nextPiece? (pastPiece^[index] bytes) = some (⟨token.kind, shown⟩, rest) := by
  have hne : token ≠ .endOfInput := by
    rintro rfl
    exact hkind rfl
  obtain ⟨⟨kind, shown⟩, rest, hnext⟩ := exists_piece_of_getElem?_tokensOf h hne
  rw [getElem?_tokensOf hnext] at h
  obtain rfl := Option.some.inj h
  exact ⟨shown, rest, rfl, standsBefore_of_nextPiece? hnext, hnext⟩

end Scanner

/-! ## A source that goes on -/

namespace Scanner

variable {settings : Settings} {bytes more rest : List Byte} {short long : Scanner}
  {piece : Piece} {index : Nat}

/-- Where the source of one scanner goes on behind the end of the other, both skip the same blanks
to come to the next text. -/
theorem gap_append (hshort : IsAt settings [] bytes short)
    (hlong : IsAt settings [] (bytes ++ more) long)
    (h : nextPiece? (pastPiece^[index] bytes) = some (piece, rest)) :
    (long.after index).passage.gap = (short.after index).passage.gap := by
  have hleft := ne_nil_of_nextPiece? h
  rw [gap_passage (isAt_after hlong index), gap_passage (isAt_after hshort index),
    iterate_pastPiece_append hleft more, takeWhile_isBlank_append h]

theorem textStart_append (hshort : IsAt settings [] bytes short)
    (hlong : IsAt settings [] (bytes ++ more) long)
    (h : nextPiece? (pastPiece^[index] bytes) = some (piece, rest)) :
    long.textStart index = short.textStart index := by
  have hconsumed : long.consumed index = short.consumed index := by
    have hshortAppend := consumed_append hshort index
    have hlongAppend := consumed_append hlong index
    rw [iterate_pastPiece_append (ne_nil_of_nextPiece? h) more, ← List.append_assoc,
      List.append_cancel_right_eq] at hlongAppend
    exact List.append_cancel_right (hlongAppend.trans hshortAppend.symm)
  rw [textStart, textStart, hconsumed, gap_append hshort hlong h]

/-- A text with bytes behind it is gone through in the same way when the source goes on. -/
theorem passage_append (hshort : IsAt settings [] bytes short)
    (hlong : IsAt settings [] (bytes ++ more) long)
    (h : nextPiece? (pastPiece^[index] bytes) = some (piece, rest)) (hrest : rest ≠ []) :
    (long.after index).passage = (short.after index).passage := by
  have hgap := takeWhile_isBlank_append h more
  rw [passage_eq (isAt_after hlong index), passage_eq (isAt_after hshort index),
    Passage.ahead_of_some settings (nextPiece?_iterate_append h hrest more),
    Passage.ahead_of_some settings h, iterate_pastPiece_append (ne_nil_of_nextPiece? h) more, hgap]

/-- **More bytes change only the last token.**  Let a source go on with more bytes.  A token of it
whose text ends before its end is the token at the same index of the longer source, with the same
text at the same place.  A token whose text ends at its end has in the longer source, at the same
index and the same place, a token whose text begins with the old one.  So if reading a source stops
early, at its end or by a failure, then all tokens but the last are tokens of the source that was
meant. -/
theorem tokensOf_append (settings : Settings) (bytes more : List Byte) :
    let short := (start settings (Reader.ofBytes bytes)).value
    let long := (start settings (Reader.ofBytes (bytes ++ more))).value
    (∀ index token, (tokensOf settings bytes).value[index]? = some token →
      (short.textStop index < bytes.length →
        (tokensOf settings (bytes ++ more)).value[index]? = some token ∧
          (long.after index).passage = (short.after index).passage ∧
          long.textStart index = short.textStart index) ∧
      (token ≠ .endOfInput → short.textStop index = bytes.length →
        ∃ longer, (tokensOf settings (bytes ++ more)).value[index]? = some longer ∧
          longer ≠ .endOfInput ∧
          (short.after index).passage.text <+: (long.after index).passage.text ∧
          long.textStart index = short.textStart index)) ∧
    ∀ results, ReadResult.delivered results = bytes →
      (scan settings { results }).value.1.dropLast.dropLast <+:
        (tokensOf settings (bytes ++ more)).value := by
  dsimp only
  have hshort := isAt_start_ofBytes settings bytes
  have hlong := isAt_start_ofBytes settings (bytes ++ more)
  refine ⟨?_, ?_⟩
  · intro index token htoken
    constructor
    · intro hstop
      have hrest : pastPiece (pastPiece^[index] bytes) ≠ [] :=
        fun hnil => Nat.ne_of_lt hstop ((textStop_eq_iff hshort index).mpr hnil)
      obtain ⟨piece, hnext⟩ := nextPiece?_of_pastPiece_ne_nil hrest
      have hlongNext := nextPiece?_iterate_append hnext hrest more
      rw [getElem?_tokensOf hnext] at htoken
      rw [getElem?_tokensOf hlongNext, htoken]
      exact ⟨rfl, passage_append hshort hlong hnext hrest, textStart_append hshort hlong hnext⟩
    · intro htokenNe hstop
      obtain ⟨piece, rest, hnext⟩ := exists_piece_of_getElem?_tokensOf htoken htokenNe
      obtain rfl : rest = [] :=
        (pastPiece_of_some hnext).symm.trans ((textStop_eq_iff hshort index).mp hstop)
      obtain ⟨longer, behind, hlongNext, hwritten⟩ := exists_nextPiece?_iterate_append hnext more
      refine ⟨longer.token settings, getElem?_tokensOf hlongNext, ?_, ?_,
        textStart_append hshort hlong hnext⟩
      · have hproper := proper_of_nextPiece? hlongNext
        exact ne_endOfInput_of_not (longer.not_isEndOfInput_token settings hproper.2)
      · rw [text_passage (isAt_after hlong index) hlongNext,
          text_passage (isAt_after hshort index) hnext]
        exact hwritten
  · intro results hresults
    rw [value_scan, value_tokensOf, ReadResult.remaining_eq_delivered, hresults,
      List.dropLast_concat, ← List.map_dropLast]
    exact ((prefix_pieces_append bytes more).map _).trans (List.prefix_append _ _)

/-- A slash at the end of a source becomes a comment, and the word in front of it stays. -/
example :
    (tokensOf {} [0x61, 0x20, 0x2f]).value =
        [⟨.identifier, "a", none⟩, ⟨.operator, "/", none⟩, Token.endOfInput] ∧
      (tokensOf {} [0x61, 0x20, 0x2f, 0x2f, 0x62]).value =
        [⟨.identifier, "a", none⟩, ⟨.lineComment, "b", some "b"⟩, Token.endOfInput] := by
  constructor <;> cbv

end Scanner

end CcxLexis
