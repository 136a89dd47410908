import CcxLexis.Proofs.Piece

/-!
# How tokens show pieces

A token shows a piece as text, one character per byte.  Without a limit it shows all of it, so the
piece can be read off the token again: `Piece.piece_token` and `Token.token_piece` say that the two
determine each other.  Under a limit the token shows the first bytes, and a reserved word that is
cut is taken for an identifier.
-/

namespace CcxLexis

/-! ## Bytes and their characters -/

namespace Byte

@[simp] theorem toUInt8_toChar (byte : Byte) : byte.toChar.toUInt8 = byte :=
  UInt8.toUInt8_toUInt32 byte

theorem toChar_toUInt8 {c : Char} (h : c.toNat ≤ 0xff) : toChar c.toUInt8 = c := by
  apply Char.ext
  apply UInt32.toNat_inj.mp
  change c.val.toNat % 256 = c.val.toNat
  exact Nat.mod_eq_of_lt (Nat.lt_succ_of_le h)

theorem toNat_toChar_le (byte : Byte) : byte.toChar.toNat ≤ 0xff :=
  Nat.le_of_lt_succ byte.toNat_lt

@[simp] theorem length_text (bytes : List Byte) : (text bytes).length = bytes.length := by
  rw [text, String.length_ofList, List.length_map]

end Byte

/-! ## Tokens of pieces -/

namespace Piece

/-- The kind under which a token shows a piece.  A reserved word that is cut is not recognised. -/
def shownKind (settings : Settings) (piece : Piece) : Kind :=
  if settings.drops piece.shown && piece.kind == .keyword then .identifier else piece.kind

/-- The token that shows a piece. -/
def token (settings : Settings) (piece : Piece) : Token :=
  Token.ofLexeme (piece.shownKind settings) (Byte.text (settings.kept piece.shown))

theorem shownKind_of_ne_keyword (settings : Settings) {kind : Kind} (h : kind ≠ .keyword)
    (shown : List Byte) : shownKind settings ⟨kind, shown⟩ = kind := by
  simp [shownKind, h]

theorem kind_token_of_ne_keyword (settings : Settings) {piece : Piece} (h : piece.kind ≠ .keyword) :
    (piece.token settings).kind = piece.kind :=
  shownKind_of_ne_keyword settings h piece.shown

theorem token_unlimited (piece : Piece) :
    piece.token {} = Token.ofLexeme piece.kind (Byte.text piece.shown) := rfl

theorem not_isEndOfInput_token (settings : Settings) {piece : Piece}
    (h : piece.kind ≠ .endOfInput) : ¬(piece.token settings).isEndOfInput = true := by
  have hkind : piece.shownKind settings ≠ .endOfInput := by
    unfold shownKind
    split
    · exact nofun
    · exact h
  simpa [token, Token.ofLexeme, Token.isEndOfInput] using hkind

end Piece

/-! ## Pieces of tokens -/

namespace Token

/-- The bytes of the text of a token, one per character. -/
def bytes (token : Token) : List Byte :=
  token.value.toList.map Char.toUInt8

/-- All bytes that a token stands for: those of its text, and the two slashes in front of it if
the token is a line comment. -/
def written (token : Token) : List Byte :=
  (if token.kind = .lineComment then [Byte.slash, Byte.slash] else []) ++ token.bytes

/-- A token whose text has one character for each byte. -/
def IsLatin (token : Token) : Prop :=
  ∀ c ∈ token.value.toList, c.toNat ≤ 0xff

/-- A token with the annotation that its kind demands. -/
def IsAnnotated (token : Token) : Prop :=
  token.annotation = if token.kind.isComment then some token.value else none

/-- The piece that a token shows in full. -/
def piece (token : Token) : Piece :=
  ⟨token.kind, token.bytes⟩

theorem text_bytes {token : Token} (h : token.IsLatin) : Byte.text token.bytes = token.value := by
  apply String.toList_inj.mp
  rw [Byte.toList_text, bytes, List.map_map]
  calc
    token.value.toList.map (Byte.toChar ∘ Char.toUInt8) = token.value.toList.map id :=
      List.map_congr_left fun c hc => Byte.toChar_toUInt8 (h c hc)
    _ = token.value.toList := List.map_id _

theorem written_piece (token : Token) : token.piece.written = token.written := by
  obtain ⟨kind, value, annotation⟩ := token
  cases kind <;> rfl

theorem token_piece {token : Token} (hlatin : token.IsLatin) (hannotated : token.IsAnnotated) :
    token.piece.token {} = token := by
  rw [Piece.token_unlimited, piece, text_bytes hlatin, ofLexeme, ← hannotated]

end Token

namespace Piece

@[simp] theorem bytes_token (piece : Piece) : (piece.token {}).bytes = piece.shown := by
  rw [token_unlimited, Token.bytes, Token.ofLexeme, Byte.toList_text, List.map_map]
  calc
    piece.shown.map (Char.toUInt8 ∘ Byte.toChar) = piece.shown.map id :=
      List.map_congr_left fun byte _ => Byte.toUInt8_toChar byte
    _ = piece.shown := List.map_id _

@[simp] theorem piece_token (piece : Piece) : (piece.token {}).piece = piece := by
  rw [Token.piece, bytes_token]
  rfl

theorem written_token (piece : Piece) : (piece.token {}).written = piece.written := by
  rw [← Token.written_piece, piece_token]

theorem isLatin_token (settings : Settings) (piece : Piece) : (piece.token settings).IsLatin := by
  intro c hc
  rw [token, Token.ofLexeme, Byte.toList_text, List.mem_map] at hc
  obtain ⟨byte, -, rfl⟩ := hc
  exact Byte.toNat_toChar_le byte

theorem isAnnotated_token (settings : Settings) (piece : Piece) :
    (piece.token settings).IsAnnotated := rfl

end Piece

end CcxLexis
