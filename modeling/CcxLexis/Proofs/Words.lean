import CcxLexis.Proofs.LongestRun

/-!
# Words and reserved words

A word takes all letters, digits and underscores from its first byte on.  It is a keyword if the word
as a whole is reserved, and never because a part of it is: neither the bytes in front of one that does
not belong to it any more, nor those that a limit leaves to be seen.  A reserved word longer than the
limit is shown as an identifier, since a lexeme that was cut is not compared with the table.
-/

namespace CcxLexis

theorem Settings.drops_eq_false_iff {settings : Settings} {bytes : List Byte} :
    settings.drops bytes = false ↔ ∀ limit ∈ settings.maxLexeme, bytes.length ≤ limit.bytes := by
  obtain ⟨_ | limit⟩ := settings
  · simp [drops]
  · simp [drops]

/-- A piece is shown as a keyword if it is one and none of its bytes are dropped. -/
theorem Piece.shownKind_eq_keyword_iff {settings : Settings} {piece : Piece} :
    piece.shownKind settings = .keyword ↔
      piece.kind = .keyword ∧ settings.drops piece.shown = false := by
  unfold shownKind
  by_cases hkind : piece.kind = .keyword
  · cases hdrops : settings.drops piece.shown <;> simp [hkind]
  · simp [hkind]

/-! ## The bytes of a word -/

/-- Letters, digits and underscores. -/
def IsWordText (bytes : List Byte) : Prop :=
  ∀ byte ∈ bytes, byte.isWordPart = true

theorem Byte.isWordPart_of_isWordStart {byte : Byte} (h : byte.isWordStart = true) :
    byte.isWordPart = true := by
  simp only [isWordStart, isWordPart, Bool.or_eq_true] at h ⊢
  exact h.imp_left .inl

theorem longestPrefix_isWordText {first : Byte} (h : first.isWordStart = true)
    (bytes : List Byte) :
    LongestPrefix IsWordText (first :: bytes) (first :: (Run.word.split bytes).1) := by
  refine (Run.word.longestPrefix_split bytes).cons fun more => ?_
  rw [Run.spans_iff_forall_mem fun _ => rfl]
  exact List.forall_mem_cons.trans (and_iff_right (Byte.isWordPart_of_isWordStart h))

theorem Run.kindOf_word_eq (bytes : List Byte) :
    word.kindOf bytes = .keyword ∨ word.kindOf bytes = .identifier := by
  rw [kindOf]
  split
  · exact .inl rfl
  · exact .inr rfl

theorem Run.kindOf_word_eq_keyword_iff {bytes : List Byte} :
    word.kindOf bytes = .keyword ↔ Byte.text bytes ∈ reservedWords := by
  rw [kindOf, ← isReserved_iff]
  split
  · next h => exact iff_of_true rfl h
  · next h => exact iff_of_false (by decide) h

namespace Scanner

variable {settings : Settings} {reader : Reader} {now : Scanner} {bytes : List Byte}

/-! ## Where a word begins -/

theorem takes_word (h : Becomes (start settings reader).value now) {first : Byte}
    (hahead : now.ahead = first :: bytes) (hword : first.isWordStart = true) :
    ∃ kind, Takes settings kind (first :: (Run.word.split bytes).1) (Run.word.split bytes).2 now ∧
      (kind = .keyword ∨ kind = .identifier) ∧
      (kind = .keyword ↔
        Byte.text (first :: (Run.word.split bytes).1) ∈ reservedWords ∧
          ∀ limit ∈ settings.maxLexeme,
            (first :: (Run.word.split bytes).1).length ≤ limit.bytes) := by
  have hrun : Run.ofFirst? first = some .word := (Run.ofFirst?_eq_some_iff _ _).mpr hword
  have hkind := Run.kindOf_word_eq (first :: (Run.word.split bytes).1)
  have hcomment : Run.word.kindOf (first :: (Run.word.split bytes).1) ≠ .lineComment := by
    rcases hkind with hkind | hkind <;> simp [hkind]
  refine ⟨_, takes_shownKind_of_first h hahead (Piece.first_of_run hrun bytes) hcomment, ?_, ?_⟩
  · rw [Piece.shownKind]
    split
    · exact .inr rfl
    · exact hkind
  · rw [Piece.shownKind_eq_keyword_iff, Run.kindOf_word_eq_keyword_iff,
      Settings.drops_eq_false_iff]

/-! ## Keywords and identifiers of a source -/

theorem scan_eq_tokensOf (settings : Settings) (reader : Reader) :
    (scan settings reader).value.1 = (tokensOf settings reader.remaining).value := by
  rw [value_scan, value_tokensOf]

/-- A keyword stands in the source as it is shown, and does not go on there. -/
theorem exists_word_of_keyword {scanner : Scanner} {index : Nat} {token : Token}
    (h : IsAt settings [] bytes scanner)
    (htoken : (tokensOf settings bytes).value[index]? = some token)
    (hkind : token.kind = .keyword) :
    ∃ word behind, bytes.drop (scanner.textStart index) = word ++ behind ∧
      token = Token.ofLexeme .keyword (Byte.text word) ∧ Byte.text word ∈ reservedWords ∧
      (scanner.after index).passage.text = word ∧
      ∀ byte, behind.head? = some byte → byte.isWordPart = false := by
  have hne : token ≠ .endOfInput := by
    rintro rfl
    cases hkind
  obtain ⟨⟨kind, word⟩, behind, hnext⟩ := exists_piece_of_getElem?_tokensOf htoken hne
  rw [getElem?_tokensOf hnext] at htoken
  obtain rfl := Option.some.inj htoken
  obtain ⟨rfl, hdrops⟩ : kind = .keyword ∧ settings.drops word = false :=
    Piece.shownKind_eq_keyword_iff.mp hkind
  obtain ⟨hreserved, hends⟩ := standsBefore_of_nextPiece? hnext
  refine ⟨word, behind, drop_textStart h hnext, ?_, hreserved, ?_, ?_⟩
  · rw [Piece.token, show Piece.shownKind settings ⟨.keyword, word⟩ = .keyword from hkind,
      settings.kept_eq_of_not_drops hdrops]
  · exact text_passage (isAt_after h index) hnext
  · intro byte hbyte
    exact Bool.eq_false_iff.mpr (hends byte hbyte)

theorem value_not_mem_reservedWords {token : Token} (htoken : token ∈ (tokensOf {} bytes).value)
    (hkind : token.kind = .identifier) : token.value ∉ reservedWords := by
  obtain ⟨index, hindex⟩ := List.mem_iff_getElem?.mp htoken
  obtain ⟨shown, rest, htext, hstands, -⟩ :=
    exists_shown_of_getElem?_tokensOf hindex (by simp [hkind])
  rw [hkind] at htext hstands
  rw [htext]
  exact hstands.1.2

/-- **A word is a keyword only as a whole.**  Wherever the next token begins with a letter or an
underscore, under every limit, it takes up exactly the longest prefix of letters, digits and
underscores.  It is a keyword if that whole word is reserved and no longer than the limit, and an
identifier in every other case; what it shows is the word, cut to the limit.

So in every source and under every limit, a keyword shows a reserved word that stands in the source
as it is and that the byte behind it, if there is one, does not go on with.  Without a limit no
identifier shows a reserved word. -/
theorem keyword_is_whole_reserved_word :
    (∀ settings reader now, Becomes (start settings reader).value now →
      ∀ first, now.ahead.head? = some first → first.isWordStart = true →
        ∃ kind word rest, now.ahead = word ++ rest ∧
          LongestPrefix IsWordText now.ahead word ∧ Takes settings kind word rest now ∧
          (kind = .keyword ∨ kind = .identifier) ∧
          (kind = .keyword ↔
            Byte.text word ∈ reservedWords ∧
              ∀ limit ∈ settings.maxLexeme, word.length ≤ limit.bytes)) ∧
    (∀ settings reader index token, (scan settings reader).value.1[index]? = some token →
      token.kind = .keyword →
        let scanner := (start settings reader).value
        ∃ word behind, reader.remaining.drop (scanner.textStart index) = word ++ behind ∧
          token = Token.ofLexeme .keyword (Byte.text word) ∧ Byte.text word ∈ reservedWords ∧
          (scanner.after index).passage.text = word ∧
          ∀ byte, behind.head? = some byte → byte.isWordPart = false) ∧
    ∀ reader, ∀ token ∈ (scan {} reader).value.1, token.kind = .identifier →
      token.value ∉ reservedWords := by
  refine ⟨?_, ?_, ?_⟩
  · intro settings reader now hnow first hfirst hword
    obtain ⟨bytes, hahead⟩ := List.head?_eq_some_iff.mp hfirst
    obtain ⟨kind, htakes, hkind, hkeyword⟩ := takes_word hnow hahead hword
    refine ⟨kind, _, _, ?_, ?_, htakes, hkind, hkeyword⟩
    · rw [hahead, List.cons_append, Run.split_append]
    · rw [hahead]
      exact longestPrefix_isWordText hword bytes
  · intro settings reader index token htoken hkind
    rw [scan_eq_tokensOf] at htoken
    exact exists_word_of_keyword (isAt_start settings reader) htoken hkind
  · intro reader token htoken hkind
    rw [scan_eq_tokensOf] at htoken
    exact value_not_mem_reservedWords htoken hkind

/-- A limit of two shows `in` of `inner`, of `int` and of `in` itself, of which only the last is a
keyword. -/
example : (tokensOf (Settings.limitedTo {} ⟨2, by decide⟩)
      [0x69, 0x6e, 0x6e, 0x65, 0x72, 0x20, 0x69, 0x6e, 0x74, 0x20, 0x69, 0x6e, 0x2b]).value =
    [⟨.identifier, "in", none⟩, ⟨.identifier, "in", none⟩, ⟨.keyword, "in", none⟩,
      ⟨.operator, "+", none⟩, Token.endOfInput] := by
  cbv

end Scanner

end CcxLexis
