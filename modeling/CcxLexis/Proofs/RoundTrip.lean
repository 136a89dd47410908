import CcxLexis.Proofs.Reading
import CcxLexis.Proofs.Spelling

/-!
# Which tokens a source can have

The tokens of a source are well-formed: each is spelled as its kind demands, and only the last can
be unclosed.  The converse holds as well.  Well-formed tokens that are written one after the other,
with blanks between them, are read back as they were written.

Both are consequences of one equivalence.  `Spelled tokens bytes` says how the tokens stand in the
bytes, and `tokensOf_eq_iff` says that those are the tokens that a scanner finds there.
-/

namespace CcxLexis

/-! ## Well-formed tokens -/

namespace Token

/-- A token whose text has one character for each byte, is spelled as the kind demands, and is
repeated in the annotation if the token is a comment. -/
def WellFormed (token : Token) : Prop :=
  token.IsLatin ∧ token.kind.Spells token.bytes ∧ token.IsAnnotated

/-- A token for a quotation or a block comment that is never closed. -/
def IsUnclosed (token : Token) : Prop :=
  token.kind = .unknown ∧ CcxLexis.IsUnclosed token.bytes

theorem token_piece_of_wellFormed {token : Token} (h : token.WellFormed) :
    token.piece.token {} = token :=
  token_piece h.1 h.2.2

end Token

theorem Piece.wellFormed_token {piece : Piece} (h : piece.WellFormed) :
    (piece.token {}).WellFormed := by
  refine ⟨piece.isLatin_token {}, ?_, piece.isAnnotated_token {}⟩
  rw [bytes_token]
  exact h

/-- Well-formed tokens, of which only the last can be unclosed. -/
structure WellFormed (tokens : List Token) : Prop where
  each : ∀ token ∈ tokens, token.WellFormed
  closed : ∀ token ∈ tokens.dropLast, ¬token.IsUnclosed

/-! ## Spelled tokens -/

/-- The tokens stand in the bytes in their order, with blanks before, between and behind them, and
no token goes on with the byte behind it. -/
inductive Spelled : List Token → List Byte → Prop
  | nil {bytes : List Byte} : Blank bytes → Spelled [] bytes
  | cons {token : Token} {tokens : List Token} {gap rest : List Byte} :
      Blank gap → token.WellFormed → token.piece.EndsBefore rest → Spelled tokens rest →
        Spelled (token :: tokens) (gap ++ (token.written ++ rest))

theorem nextPiece?_of_isFirst {piece : Piece} {gap rest : List Byte} (hgap : Blank gap)
    (h : piece.IsFirst rest) :
    nextPiece? (gap ++ (piece.written ++ rest)) = some (piece, rest) := by
  obtain ⟨byte, bytes, happend, hblank, hfirst⟩ := h
  have hbehind : (gap ++ byte :: bytes).dropWhile Byte.isBlank = byte :: bytes := by
    rw [List.dropWhile_append_of_pos hgap, List.dropWhile_cons_of_neg (by simp [hblank])]
  rw [happend, nextPiece?, hbehind]
  exact congrArg some hfirst

theorem standsBefore_of_nextPiece? {bytes rest : List Byte} {piece : Piece}
    (h : nextPiece? bytes = some (piece, rest)) : piece.StandsBefore rest := by
  unfold nextPiece? at h
  split at h
  · cases h
  · next byte behind hbehind =>
    have hblank := List.head?_dropWhile_not Byte.isBlank bytes
    rw [hbehind] at hblank
    have hstands := Piece.standsBefore_first hblank behind
    rwa [Option.some.inj h] at hstands

/-- The next piece is the one that stands, behind blanks, before all that is left. -/
theorem nextPiece?_eq_some_iff {bytes rest : List Byte} {piece : Piece} :
    nextPiece? bytes = some (piece, rest) ↔
      piece.StandsBefore rest ∧ ∃ gap, Blank gap ∧ bytes = gap ++ (piece.written ++ rest) := by
  constructor
  · intro h
    exact ⟨standsBefore_of_nextPiece? h, _, blank_takeWhile bytes, append_of_nextPiece? h⟩
  · rintro ⟨hstands, gap, hgap, rfl⟩
    exact nextPiece?_of_isFirst hgap (Piece.isFirst_iff.mpr hstands)

/-- The pieces of the bytes, shown as tokens, are spelled by them. -/
theorem spelled_pieces (bytes : List Byte) :
    Spelled ((pieces bytes).map (Piece.token {})) bytes := by
  induction bytes using pieces.induct with
  | case1 bytes hnone =>
    rw [pieces_of_none hnone]
    exact .nil (blank_of_nextPiece?_eq_none hnone)
  | case2 bytes piece rest hsome ih =>
    obtain ⟨hwell, hends⟩ := standsBefore_of_nextPiece? hsome
    have hbytes := append_of_nextPiece? hsome
    rw [pieces_of_some hsome, List.map_cons, hbytes, ← Piece.written_token]
    refine .cons (blank_takeWhile bytes) (Piece.wellFormed_token hwell) ?_ ih
    rwa [Piece.piece_token]

/-- Spelled tokens are the pieces of the bytes. -/
theorem pieces_of_spelled {tokens : List Token} {bytes : List Byte} (h : Spelled tokens bytes) :
    pieces bytes = tokens.map Token.piece := by
  induction h with
  | nil hblank => exact pieces_of_none (nextPiece?_of_blank hblank)
  | @cons token tokens gap rest hgap hwell hends _ ih =>
    have hstands : token.piece.StandsBefore rest := ⟨hwell.2.1, hends⟩
    rw [← Token.written_piece]
    rw [pieces_of_some (nextPiece?_eq_some_iff.mpr ⟨hstands, gap, hgap, rfl⟩), ih, List.map_cons]

theorem Spelled.wellFormed_of_mem {tokens : List Token} {bytes : List Byte}
    (h : Spelled tokens bytes) : ∀ token ∈ tokens, token.WellFormed := by
  induction h with
  | nil _ => exact nofun
  | cons _ hwell _ _ ih => exact List.forall_mem_cons.mpr ⟨hwell, ih⟩

/-- The tokens of the bytes are those that they spell. -/
theorem tokensOf_eq_iff {tokens : List Token} {bytes : List Byte} :
    (Scanner.tokensOf {} bytes).value = tokens ++ [Token.endOfInput] ↔ Spelled tokens bytes := by
  rw [Scanner.value_tokensOf, List.append_left_inj]
  constructor
  · rintro rfl
    exact spelled_pieces bytes
  · intro h
    rw [pieces_of_spelled h, List.map_map]
    calc
      tokens.map (Piece.token {} ∘ Token.piece) = tokens.map id :=
        List.map_congr_left fun token htoken =>
          Token.token_piece_of_wellFormed (h.wellFormed_of_mem token htoken)
      _ = tokens := List.map_id _

/-! ## Positions -/

theorem Spelled.eq_nil {tokens : List Token} (h : Spelled tokens []) : tokens = [] := by
  have hpieces := pieces_of_spelled h
  rw [pieces_of_none (nextPiece?_of_blank (List.forall_mem_nil _))] at hpieces
  exact List.map_eq_nil_iff.mp hpieces.symm

/-- Nothing is behind an unclosed token, so it is the last. -/
theorem Spelled.wellFormed {tokens : List Token} {bytes : List Byte} (h : Spelled tokens bytes) :
    WellFormed tokens := by
  refine ⟨h.wellFormed_of_mem, ?_⟩
  induction h with
  | nil _ => exact nofun
  | @cons token tokens gap rest _ _ hends htokens ih =>
    cases tokens with
    | nil => exact nofun
    | cons second tokens =>
      rw [List.dropLast_cons_cons]
      refine List.forall_mem_cons.mpr ⟨?_, ih⟩
      intro hunclosed
      obtain rfl := Piece.eq_nil_of_endsBefore hends hunclosed.1 hunclosed.2
      cases htokens.eq_nil

/-! ## Separators -/

/-- Tokens, each with the bytes behind it. -/
def layout (items : List (Token × List Byte)) : List Byte :=
  items.flatMap fun item => item.1.written ++ item.2

/-- Separators that keep the tokens apart: blanks, at least one of them between two tokens, of
which the first ends the line if the token is a line comment, and none behind an unclosed
token. -/
structure Separated (items : List (Token × List Byte)) : Prop where
  blank : ∀ item ∈ items, Blank item.2
  nonempty : ∀ item ∈ items.dropLast, item.2 ≠ []
  endsLine : ∀ item ∈ items, item.1.kind = .lineComment →
    ∀ byte, item.2.head? = some byte → byte = Byte.lineFeed
  unclosed : ∀ item ∈ items, item.1.IsUnclosed → item.2 = []

theorem Separated.tail {item : Token × List Byte} {items : List (Token × List Byte)}
    (h : Separated (item :: items)) : Separated items where
  blank := (List.forall_mem_cons.mp h.blank).2
  nonempty := by
    cases items with
    | nil => exact nofun
    | cons second items => exact (List.forall_mem_cons.mp h.nonempty).2
  endsLine := (List.forall_mem_cons.mp h.endsLine).2
  unclosed := (List.forall_mem_cons.mp h.unclosed).2

theorem Separated.endsBefore {item : Token × List Byte} {items : List (Token × List Byte)}
    (h : Separated (item :: items)) : item.1.piece.EndsBefore (item.2 ++ layout items) := by
  obtain ⟨token, gap⟩ := item
  have hblank := h.blank _ List.mem_cons_self
  have hendsLine := h.endsLine _ List.mem_cons_self
  have hunclosed := h.unclosed _ List.mem_cons_self
  cases gap with
  | nil =>
    cases items with
    | nil => exact nofun
    | cons second items => exact absurd rfl (h.nonempty (token, []) List.mem_cons_self)
  | cons byte gap =>
    intro first hfirst
    obtain rfl : byte = first := Option.some.inj hfirst
    refine Piece.not_goesOn_of_isBlank (hblank byte List.mem_cons_self) ?_ ?_
    · exact fun hcomment => hendsLine hcomment byte rfl
    · exact fun hopen => List.cons_ne_nil _ _ (hunclosed hopen)

theorem spelled_layout {items : List (Token × List Byte)}
    (hwell : ∀ token ∈ items.map Prod.fst, token.WellFormed) (hsep : Separated items)
    {lead : List Byte} (hlead : Blank lead) :
    Spelled (items.map Prod.fst) (lead ++ layout items) := by
  induction items generalizing lead with
  | nil => exact .nil (by simpa [layout] using hlead)
  | cons item items ih =>
    rw [List.map_cons, List.forall_mem_cons] at hwell
    have hgap : Blank item.2 := hsep.blank item List.mem_cons_self
    have hlayout : layout (item :: items) = item.1.written ++ (item.2 ++ layout items) := by
      rw [layout, List.flatMap_cons, List.append_assoc]
      rfl
    rw [List.map_cons, hlayout]
    exact .cons hlead hwell.1 hsep.endsBefore (ih hwell.2 hsep.tail hgap)

theorem Spelled.blank_append {tokens : List Token} {bytes gap : List Byte}
    (h : Spelled tokens bytes) (hgap : Blank gap) : Spelled tokens (gap ++ bytes) := by
  cases h with
  | nil hblank => exact .nil (List.forall_mem_append.mpr ⟨hgap, hblank⟩)
  | cons hblank hwell hends htokens =>
    rw [← List.append_assoc]
    exact .cons (List.forall_mem_append.mpr ⟨hgap, hblank⟩) hwell hends htokens

/-- Well-formed tokens stand in some bytes: it is enough to end the line behind each of them. -/
theorem exists_spelled {tokens : List Token} (h : WellFormed tokens) :
    ∃ bytes, Spelled tokens bytes := by
  induction tokens with
  | nil => exact ⟨[], .nil (List.forall_mem_nil _)⟩
  | cons token tokens ih =>
    have hwell : token.WellFormed := h.each token List.mem_cons_self
    have hnone : Blank [] := List.forall_mem_nil _
    by_cases hlast : tokens = []
    · subst hlast
      have hends : token.piece.EndsBefore [] := nofun
      exact ⟨_, .cons hnone hwell hends (.nil hnone)⟩
    · have hclosed := h.closed
      rw [List.dropLast_cons_of_ne_nil hlast, List.forall_mem_cons] at hclosed
      obtain ⟨bytes, hbytes⟩ := ih ⟨(List.forall_mem_cons.mp h.each).2, hclosed.2⟩
      have hline : Blank [Byte.lineFeed] := by
        intro byte hbyte
        rw [List.mem_singleton.mp hbyte]
        rfl
      refine ⟨_, .cons hnone hwell ?_ (hbytes.blank_append hline)⟩
      intro byte hbyte
      obtain rfl : Byte.lineFeed = byte := Option.some.inj hbyte
      exact Piece.not_goesOn_of_isBlank rfl (fun _ => rfl) hclosed.1

/-- Some source has the tokens exactly if they are well-formed. -/
theorem exists_tokensOf_iff_wellFormed (tokens : List Token) :
    (∃ bytes, (Scanner.tokensOf {} bytes).value = tokens ++ [Token.endOfInput]) ↔
      WellFormed tokens := by
  constructor
  · rintro ⟨bytes, hbytes⟩
    exact (tokensOf_eq_iff.mp hbytes).wellFormed
  · intro h
    obtain ⟨bytes, hspelled⟩ := exists_spelled h
    exact ⟨bytes, tokensOf_eq_iff.mpr hspelled⟩

/-- **The tokens of a source are exactly the well-formed ones.**  Every token that a scanner
produces is well-formed in its position.  Well-formed tokens that are written down with separators
between them are read back.  The last part allows for fewer separators: whatever the bytes between
the tokens are, the tokens are read back exactly if they stand in the bytes one after the other,
with nothing but blanks between them, and none goes on with the byte behind it. -/
theorem tokensOf_wellFormed_and_readBack :
    (∀ bytes, ∃ tokens,
      (Scanner.tokensOf {} bytes).value = tokens ++ [Token.endOfInput] ∧ WellFormed tokens) ∧
    (∀ (lead : List Byte) (items : List (Token × List Byte)),
      Blank lead → WellFormed (items.map Prod.fst) → Separated items →
        (Scanner.tokensOf {} (lead ++ layout items)).value =
          items.map Prod.fst ++ [Token.endOfInput]) ∧
    ∀ tokens bytes,
      (Scanner.tokensOf {} bytes).value = tokens ++ [Token.endOfInput] ↔ Spelled tokens bytes := by
  refine ⟨?_, ?_, fun _ _ => tokensOf_eq_iff⟩
  · intro bytes
    exact ⟨(pieces bytes).map (Piece.token {}), Scanner.value_tokensOf {} bytes,
      (spelled_pieces bytes).wellFormed⟩
  · intro lead items hlead hwell hsep
    exact tokensOf_eq_iff.mpr (spelled_layout hwell.each hsep hlead)

/-- A slash in front of another operator stands alone, and hash signs hold letters in a numeral. -/
example : (Scanner.tokensOf {} [0x2f, 0x2b, 0x31, 0x23, 0x46, 0x23, 0x46]).value =
    [⟨.operator, "/", none⟩, ⟨.operator, "+", none⟩, ⟨.number, "1#F#", none⟩,
      ⟨.identifier, "F", none⟩, Token.endOfInput] := by
  cbv

end CcxLexis
