import CcxLexis.Proofs.Closer
import CcxLexis.Proofs.Continuation
import CcxLexis.Proofs.Failure

/-!
# How scanning recovers from malformed text

Malformed text ends no scan and is no error.  A byte with which nothing can begin is a token of its
own, and scanning goes on with the byte behind it.  What is opened and never closed is a token as
well: it takes up all that is left, so it is the last.

Strings, character literals and block comments follow one rule.  Each is a `Construct` with an
opener and a closer, and it ends with the first closer behind its opener.  Nothing in between is
looked at, so only a missing closer makes it malformed.
-/

namespace CcxLexis

/-! ## Constructs that have to be closed -/

/-- What has to be closed once it is opened. -/
inductive Construct where
  | quotation (quotation : Quotation)
  | blockComment
deriving DecidableEq, Repr

namespace Construct

def opener : Construct → List Byte
  | quotation quoted => [quoted.mark]
  | blockComment => commentOpener

def closer : Construct → List Byte
  | quotation quoted => [quoted.mark]
  | blockComment => commentCloser

/-- What a construct is once it is closed. -/
def kind : Construct → Kind
  | quotation quoted => quoted.kind
  | blockComment => .blockComment

/-- The bytes before the first closer, and those behind it. -/
def close? : Construct → List Byte → Option (List Byte × List Byte)
  | quotation quoted => quoted.close?
  | blockComment => closeComment?

variable {construct : Construct} {bytes inside rest : List Byte}

theorem kind_ne (construct : Construct) :
    construct.kind ≠ .keyword ∧ construct.kind ≠ .lineComment ∧ construct.kind ≠ .unknown := by
  cases construct with
  | quotation quoted => cases quoted <;> decide
  | blockComment => decide

theorem close?_eq_some_iff :
    construct.close? bytes = some (inside, rest) ↔
      bytes = inside ++ construct.closer ++ rest ∧ ¬construct.closer <:+: inside := by
  cases construct with
  | quotation quoted =>
    rw [close?, closer, Quotation.close?_eq_some_iff, List.singleton_infix_iff, List.append_assoc]
    rfl
  | blockComment => exact closeComment?_eq_some_iff

theorem close?_eq_none_iff : construct.close? bytes = none ↔ ¬construct.closer <:+: bytes := by
  cases construct with
  | quotation quoted =>
    rw [close?, closer, Quotation.close?_eq_none_iff, List.singleton_infix_iff]
  | blockComment => exact closeComment?_eq_none_iff

/-- A construct is cut off behind its first closer, and it takes up everything if it has none. -/
theorem exists_first (construct : Construct) (bytes : List Byte) :
    ∃ byte behind, construct.opener ++ bytes = byte :: behind ∧
      Piece.first byte behind =
        match construct.close? bytes with
        | some (inside, rest) =>
          (⟨construct.kind, construct.opener ++ inside ++ construct.closer⟩, rest)
        | none => (⟨.unknown, construct.opener ++ bytes⟩, []) := by
  cases construct with
  | quotation quoted =>
    refine ⟨quoted.mark, bytes, rfl, ?_⟩
    rw [Piece.first_mark, Piece.afterMark, close?]
    cases quoted.close? bytes <;> rfl
  | blockComment =>
    refine ⟨Byte.slash, Byte.star :: bytes, rfl, ?_⟩
    rw [Piece.first_opener, Piece.afterOpener, close?]
    cases closeComment? bytes <;> rfl

end Construct

theorem isUnclosed_iff {bytes : List Byte} :
    IsUnclosed bytes ↔ ∃ (construct : Construct) (body : List Byte),
      bytes = construct.opener ++ body ∧ ¬construct.closer <:+: body := by
  constructor
  · rintro (⟨quotation, body, rfl, hbody⟩ | ⟨body, rfl, hbody⟩)
    · refine ⟨.quotation quotation, body, rfl, ?_⟩
      rwa [Construct.closer, List.singleton_infix_iff]
    · exact ⟨.blockComment, body, rfl, hbody⟩
  · rintro ⟨construct, body, rfl, hbody⟩
    cases construct with
    | quotation quotation =>
      rw [Construct.closer, List.singleton_infix_iff] at hbody
      exact .inl ⟨quotation, body, rfl, hbody⟩
    | blockComment => exact .inr ⟨body, rfl, hbody⟩

namespace Scanner

/-! ## Where a construct is opened -/

section

variable {settings : Settings} {reader : Reader} {now : Scanner} {construct : Construct}
  {body : List Byte}

theorem takes_closed (h : Becomes (start settings reader).value now)
    (hahead : now.ahead = construct.opener ++ body) {inside rest : List Byte}
    (hclose : construct.close? body = some (inside, rest)) :
    Takes settings construct.kind (construct.opener ++ inside ++ construct.closer) rest now := by
  obtain ⟨byte, behind, hbehind, hfirst⟩ := construct.exists_first body
  obtain ⟨hkeyword, hcomment, -⟩ := construct.kind_ne
  rw [hclose] at hfirst
  rw [hbehind] at hahead
  exact takes_of_first h hahead hfirst hkeyword hcomment

theorem takes_unclosed (h : Becomes (start settings reader).value now)
    (hahead : now.ahead = construct.opener ++ body) (hopen : construct.close? body = none) :
    Takes settings .unknown now.ahead [] now := by
  obtain ⟨byte, behind, hbehind, hfirst⟩ := construct.exists_first body
  rw [hopen, ← hahead] at hfirst
  rw [← hahead] at hbehind
  exact takes_of_first h hbehind hfirst (by decide) (by decide)

/-- The token of a construct is malformed exactly if no closer is behind the opener. -/
theorem kind_next_eq_unknown_iff (h : Becomes (start settings reader).value now)
    (hahead : now.ahead = construct.opener ++ body) :
    now.next.1.token.kind = .unknown ↔ ¬construct.closer <:+: body := by
  rw [← Construct.close?_eq_none_iff]
  cases hclose : construct.close? body with
  | none => exact iff_of_true (by rw [(takes_unclosed h hahead hclose).token_eq]; rfl) rfl
  | some found =>
    refine iff_of_false ?_ (Option.some_ne_none found)
    rw [(takes_closed h hahead hclose).token_eq]
    exact construct.kind_ne.2.2

end

/-! ## Malformed tokens of a source -/

section

variable {settings : Settings} {bytes : List Byte} {index : Nat} {scanner : Scanner}

/-- A token with nothing of the source behind it is the last one. -/
theorem drop_tokensOf_of_last {piece : Piece}
    (h : nextPiece? (pastPiece^[index] bytes) = some (piece, [])) :
    (tokensOf settings bytes).value.drop index = [piece.token settings, Token.endOfInput] := by
  have hdrop : (pieces bytes).drop index = [piece] := by
    rw [drop_pieces, pieces_of_some h, pieces_of_none rfl]
  have hindex : index < (pieces bytes).length := by
    by_contra hbehind
    rw [List.drop_eq_nil_of_le (Nat.le_of_not_lt hbehind)] at hdrop
    cases hdrop
  have hle : index ≤ ((pieces bytes).map (Piece.token settings)).length := by
    rw [List.length_map]
    exact Nat.le_of_lt hindex
  rw [value_tokensOf, List.drop_append_of_le_length hle, ← List.map_drop, hdrop]
  rfl

/-- What a malformed token of a source can be, where no limit cuts it: a stray byte, with the scan
going on right behind it, or a construct that is never closed, which is all that is left of the
source from its opener on. -/
inductive Malformed (bytes : List Byte) (scanner : Scanner) (index : Nat) : Token → Prop
  | stray {byte : Byte} (hstray : byte.IsStray)
      (hplace : bytes[scanner.textStart index]? = some byte)
      (hresumes : (scanner.after (index + 1)).remaining =
        bytes.drop (scanner.textStart index + 1)) :
      Malformed bytes scanner index (Token.ofLexeme .unknown (Byte.text [byte]))
  | unclosed {construct : Construct} {body : List Byte} (hopen : ¬construct.closer <:+: body)
      (hplace : bytes.drop (scanner.textStart index) = construct.opener ++ body)
      (hlast : (tokensOf {} bytes).value.drop index =
        [Token.ofLexeme .unknown (Byte.text (construct.opener ++ body)), Token.endOfInput]) :
      Malformed bytes scanner index
        (Token.ofLexeme .unknown (Byte.text (construct.opener ++ body)))

theorem malformed_of_getElem?_tokensOf {token : Token} (h : IsAt {} [] bytes scanner)
    (htoken : (tokensOf {} bytes).value[index]? = some token) (hkind : token.kind = .unknown) :
    Malformed bytes scanner index token := by
  obtain ⟨shown, rest, htext, hstands, hnext⟩ :=
    exists_shown_of_getElem?_tokensOf htoken (by simp [hkind])
  rw [hkind] at htext hstands hnext
  have hplace : bytes.drop (scanner.textStart index) = shown ++ rest := drop_textStart h hnext
  have hbehind : (scanner.after (index + 1)).remaining = rest := by
    rw [(isAt_after h (index + 1)).remaining_eq, Function.iterate_succ_apply',
      pastPiece_of_some hnext]
  subst htext
  rcases hstands.1 with ⟨byte, rfl, hstray⟩ | hunclosed
  · refine .stray hstray ?_ ?_
    · rw [← List.head?_drop, hplace]
      rfl
    · rw [hbehind, ← List.drop_drop, hplace]
      rfl
  · obtain rfl : rest = [] := Piece.eq_nil_of_endsBefore hstands.2 rfl hunclosed
    rw [List.append_nil] at hplace
    obtain ⟨construct, body, rfl, hopen⟩ := isUnclosed_iff.mp hunclosed
    exact .unclosed hopen hplace (drop_tokensOf_of_last hnext)

/-! ## No source ends a scan early -/

/-- A source that stops without a failure shows none at any time. -/
theorem failure?_eq_none_of_becomes {reader : Reader} {now : Scanner}
    (hstop : ReadResult.stopFault? reader.results = none)
    (h : Becomes (start settings reader).value now) : now.failure? = none := by
  cases hfailure : now.failure? with
  | none => rfl
  | some fault =>
    -- A failure would still be there once everything is consumed.
    have hcollected : Becomes (start settings reader).value now.collect.value.2 := .collect h
    have hlast := failure?_of_used_up (value_collect (isAt_of_becomes_start h)).2
    rw [outcome_of_becomes_start hcollected, hstop] at hlast
    have hstays := Cursor.failure?_of_moves hfailure (moves_of_becomes (.collect .refl))
    cases hlast.symm.trans hstays

theorem blank_of_token_next {left : List Byte} (h : IsAt settings [] left scanner)
    (hend : scanner.next.1.token = .endOfInput) : Blank left := by
  cases hnext : nextPiece? left with
  | none => exact blank_of_nextPiece?_eq_none hnext
  | some found =>
    have hkind := (proper_of_nextPiece? hnext).2
    rw [(next_of_some h hnext).1] at hend
    exact absurd (hend ▸ rfl) (found.1.not_isEndOfInput_token settings hkind)

/-- All tokens together, the report of the end included, consume the whole source. -/
theorem consumed_tokensOf (h : IsAt settings [] bytes scanner) :
    scanner.consumed (tokensOf settings bytes).value.length = bytes := by
  have hlast : pieces (pastPiece^[(pieces bytes).length] bytes) = [] := by
    rw [← drop_pieces, List.drop_length]
  have hnone : nextPiece? (pastPiece^[(pieces bytes).length] bytes) = none := by
    cases hnext : nextPiece? (pastPiece^[(pieces bytes).length] bytes) with
    | none => rfl
    | some found =>
      rw [pieces_of_some hnext] at hlast
      cases hlast
  have hconsumed := consumed_append h ((pieces bytes).length + 1)
  rw [Function.iterate_succ_apply', pastPiece, hnone, List.append_nil] at hconsumed
  rw [value_tokensOf, List.length_append, List.length_map]
  exact hconsumed

end

/-- **Scanning recovers from malformed text.**  Without a limit, a malformed token of a source is a
stray byte, with the scan going on at the very next byte, or it is the last token and shows all of
the source from the opener of something unclosed on.

Conversely, wherever the next token begins with an opener, under every limit, the bytes behind the
opener decide.  If there is a closer among them, the token is of the kind that was opened and ends
right behind the first one, whatever lies in between.  If there is none, the token is malformed,
takes up everything, and no token is behind it.  It is malformed in no other case.

No text makes a scan fail, and the end is reported only where nothing but blanks is left, so the
tokens consume the source to its last byte. -/
theorem malformed_is_stray_or_unclosed (bytes : List Byte) :
    let scanner := (start {} (Reader.ofBytes bytes)).value
    (∀ index token, (tokensOf {} bytes).value[index]? = some token → token.kind = .unknown →
      Malformed bytes scanner index token) ∧
    (∀ settings reader now, Becomes (start settings reader).value now →
      ∀ (construct : Construct) (body : List Byte), now.ahead = construct.opener ++ body →
        (construct.closer <:+: body →
          ∃ inside rest, body = inside ++ construct.closer ++ rest ∧
            ¬construct.closer <:+: inside ∧
            Takes settings construct.kind (construct.opener ++ inside ++ construct.closer) rest
              now) ∧
        (¬construct.closer <:+: body →
          Takes settings .unknown now.ahead [] now ∧
            ∀ later, Becomes now.next.2 later → later.next.1.token = Token.endOfInput) ∧
        (now.next.1.token.kind = .unknown ↔ ¬construct.closer <:+: body)) ∧
    (∀ now, Becomes scanner now →
      now.failure? = none ∧ now.finishScan = .ok () ∧
        (now.next.1.token = .endOfInput → Blank now.remaining)) ∧
    scanner.consumed (tokensOf {} bytes).value.length = bytes := by
  intro scanner
  have hstart : IsAt {} [] bytes scanner := isAt_start_ofBytes {} bytes
  refine ⟨?_, ?_, ?_, consumed_tokensOf hstart⟩
  · intro index token htoken hkind
    exact malformed_of_getElem?_tokensOf hstart htoken hkind
  · intro settings reader now hnow construct body hahead
    refine ⟨?_, ?_, kind_next_eq_unknown_iff hnow hahead⟩
    · intro hcloser
      have hclose : construct.close? body ≠ none :=
        fun hnone => Construct.close?_eq_none_iff.mp hnone hcloser
      obtain ⟨⟨inside, rest⟩, hclose⟩ := Option.ne_none_iff_exists'.mp hclose
      obtain ⟨hbody, hinside⟩ := Construct.close?_eq_some_iff.mp hclose
      exact ⟨inside, rest, hbody, hinside, takes_closed hnow hahead hclose⟩
    · intro hcloser
      have htakes := takes_unclosed hnow hahead (Construct.close?_eq_none_iff.mpr hcloser)
      exact ⟨htakes, fun later => token_next_of_used_up (.next hnow) htakes.remaining_eq⟩
  · intro now hnow
    have hstop : ReadResult.stopFault? (Reader.ofBytes bytes).results = none := by
      cases bytes <;> rfl
    have hfailure := failure?_eq_none_of_becomes hstop hnow
    refine ⟨hfailure, by rw [finishScan, hfailure], ?_⟩
    exact blank_of_token_next (isAt_of_becomes_start hnow)

/-- The apostrophe inside the string opens nothing, and the one behind it is never closed. -/
example : (tokensOf {} [0x22, 0x0a, 0x27, 0x22, 0x40, 0x27, 0x2f, 0x2a]).value =
    [⟨.string, "\"\n'\"", none⟩, ⟨.unknown, "@", none⟩, ⟨.unknown, "'/*", none⟩,
      Token.endOfInput] := by
  cbv

end Scanner

end CcxLexis
