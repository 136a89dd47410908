import CcxLexis.Proofs.Ahead
import CcxLexis.Proofs.Continuation

/-!
# How far a run goes

A run takes the longest prefix of what is left that is still one run (`Run.longestPrefix_split`).
For a numeral that is the longest prefix in which each byte can stand behind those before it, where
the hash signs before a letter are counted.  For an operator it is the longest prefix of operator
bytes.

A slash begins no run, but it can be part of one, so slashes and stars inside a run of operator
bytes open no comment.  Where a slash comes first, the byte behind it decides between a comment and
a lone slash.
-/

namespace CcxLexis

/-- The longest of the prefixes of the bytes that have a property. -/
structure LongestPrefix (p : List Byte → Prop) (bytes found : List Byte) : Prop where
  isPrefix : found <+: bytes
  holds : p found
  longest : ∀ other, other <+: bytes → p other → other <+: found

/-- Behind a first byte that does not matter, the longest prefix of the rest decides. -/
theorem LongestPrefix.cons {p q : List Byte → Prop} {bytes found : List Byte} {first : Byte}
    (h : LongestPrefix q bytes found) (hfirst : ∀ more, p (first :: more) ↔ q more) :
    LongestPrefix p (first :: bytes) (first :: found) := by
  refine ⟨List.cons_prefix_cons.mpr ⟨rfl, h.isPrefix⟩, (hfirst found).mpr h.holds, ?_⟩
  intro other hother hp
  cases other with
  | nil => exact List.nil_prefix
  | cons byte other =>
    obtain ⟨rfl, hmore⟩ := List.cons_prefix_cons.mp hother
    exact List.cons_prefix_cons.mpr ⟨rfl, h.longest other hmore ((hfirst other).mp hp)⟩

namespace Run

/-- A longer prefix would go on with a byte that does not fit. -/
theorem longestPrefix_split (run : Run) (bytes : List Byte) :
    LongestPrefix run.Spans bytes (run.split bytes).1 := by
  obtain ⟨happend, hspans, hstop⟩ := split_eq_iff_spans.mp (rfl : run.split bytes = _)
  have hbegins : (run.split bytes).1 <+: bytes := ⟨_, happend.symm⟩
  refine ⟨hbegins, hspans, ?_⟩
  intro other hother hfits
  rcases List.prefix_or_prefix_of_prefix hother hbegins with hshort | ⟨more, hlong⟩
  · exact hshort
  · cases more with
    | nil => rw [← hlong, List.append_nil]
    | cons byte more =>
      obtain ⟨behind, hbehind⟩ := hother
      rw [← hlong, List.append_assoc] at hbehind
      have hrest : (run.split bytes).2 = byte :: more ++ behind :=
        List.append_cancel_left (happend.symm.trans hbehind.symm)
      have hbyte : other[(run.split bytes).1.length]? = some byte := by
        rw [← hlong, List.getElem?_append_right (Nat.le_refl _), Nat.sub_self]
        rfl
      have hgoes := hfits _ _ hbyte
      rw [← hlong, List.take_left] at hgoes
      exact absurd hgoes (hstop byte (by rw [hrest]; rfl))

/-- A run in which the bytes before a byte do not matter takes the bytes up to the first that does
not fit. -/
theorem split_eq_span {run : Run} {p : Byte → Bool}
    (h : ∀ byte, run.extend? byte = if p byte then some run else none) (bytes : List Byte) :
    run.split bytes = (bytes.takeWhile p, bytes.dropWhile p) := by
  induction bytes with
  | nil => rfl
  | cons byte bytes ih =>
    have hextend := h byte
    cases hp : p byte with
    | false =>
      rw [hp, if_neg Bool.false_ne_true] at hextend
      rw [split_cons_of_none hextend, List.takeWhile_cons_of_neg (by simp [hp]),
        List.dropWhile_cons_of_neg (by simp [hp])]
    | true =>
      rw [hp, if_pos rfl] at hextend
      rw [split_cons_of_some hextend, ih, List.takeWhile_cons_of_pos hp,
        List.dropWhile_cons_of_pos hp]

end Run

namespace Scanner

variable {settings : Settings} {reader : Reader} {scanner : Scanner} {byte : Byte}
  {bytes : List Byte}

theorem takes_run {run : Run} (h : Becomes (start settings reader).value scanner)
    (hahead : scanner.ahead = byte :: bytes) (hrun : Run.ofFirst? byte = some run)
    (hword : run ≠ .word) :
    Takes settings (run.kindOf (byte :: (run.split bytes).1)) (byte :: (run.split bytes).1)
      (run.split bytes).2 scanner := by
  refine takes_of_first h hahead (Piece.first_of_run hrun bytes) ?_ ?_
  · cases run with
    | word => exact absurd rfl hword
    | number | operators | lineComment => simp [Run.kindOf]
  · cases run with
    | lineComment => exact absurd hrun (Run.ofFirst?_ne_lineComment byte)
    | word => exact absurd rfl hword
    | number | operators => simp [Run.kindOf]

end Scanner

/-! ## Numerals -/

/-- Bytes that each can stand in a numeral behind those before them. -/
def FormsNumeral (bytes : List Byte) : Prop :=
  ∀ i byte, bytes[i]? = some byte → NumeralGoesOn (bytes.take i) byte

theorem formsNumeral_cons_iff {first : Byte} (h : first.isDigit = true) (more : List Byte) :
    FormsNumeral (first :: more) ↔ (Run.number false).Spans more := by
  constructor
  · intro hforms i byte hbyte
    exact (Run.fits_past_number_iff h _ byte).mpr (hforms (i + 1) byte hbyte)
  · intro hspans i byte hbyte
    cases i with
    | zero =>
      obtain rfl : first = byte := Option.some.inj hbyte
      exact .inl h
    | succ i => exact (Run.fits_past_number_iff h _ byte).mp (hspans i byte hbyte)

theorem longestPrefix_formsNumeral {first : Byte} (h : first.isDigit = true) (bytes : List Byte) :
    LongestPrefix FormsNumeral (first :: bytes)
      (first :: ((Run.number false).split bytes).1) :=
  ((Run.number false).longestPrefix_split bytes).cons (formsNumeral_cons_iff h)

namespace Scanner

/-- **A numeral is as long as it can be.**  Wherever the next token begins with a digit, under every
limit, it is a numeral.  It takes up exactly the longest prefix of what is left in which each byte
is a digit, a dot or a hash sign, or is a letter or an underscore with an odd number of hash signs
before it, and the scanner goes on with the first byte behind it. -/
theorem number_is_longest_numeral (settings : Settings) (reader : Reader) (scanner : Scanner)
    (h : Becomes (start settings reader).value scanner) (first : Byte)
    (hfirst : scanner.ahead.head? = some first) (hdigit : first.isDigit = true) :
    ∃ lexeme rest, scanner.ahead = lexeme ++ rest ∧
      LongestPrefix FormsNumeral scanner.ahead lexeme ∧
      Takes settings .number lexeme rest scanner := by
  obtain ⟨bytes, hahead⟩ := List.head?_eq_some_iff.mp hfirst
  have hrun : Run.ofFirst? first = some (.number false) :=
    (Run.ofFirst?_eq_some_iff _ _).mpr ⟨rfl, hdigit⟩
  refine ⟨_, _, ?_, ?_, takes_run h hahead hrun (by simp)⟩
  · rw [hahead, List.cons_append, Run.split_append]
  · rw [hahead]
    exact longestPrefix_formsNumeral hdigit bytes

/-- The second hash section of `1#a#2#b$` is left open at the end of the literal, and a limit of two
shows only the first two bytes of it. -/
theorem number_is_longest_numeral_openSection :
    let scanner := (start (Settings.limitedTo {} ⟨2, by decide⟩)
      (Reader.ofBytes [0x31, 0x23, 0x61, 0x23, 0x32, 0x23, 0x62, 0x24])).value
    scanner.ahead.head? = some 0x31 ∧ Byte.isDigit 0x31 = true ∧
      LongestPrefix FormsNumeral scanner.ahead [0x31, 0x23, 0x61, 0x23, 0x32, 0x23, 0x62] ∧
      scanner.next.1.token = ⟨.number, "1#", none⟩ ∧ scanner.next.2.remaining = [0x24] := by
  intro scanner
  have hat : IsAt _ [] ([0x31, 0x23, 0x61, 0x23, 0x32, 0x23, 0x62] ++ [0x24]) scanner :=
    isAt_start_ofBytes _ _
  have hahead : scanner.ahead = [0x31, 0x23, 0x61, 0x23, 0x32, 0x23, 0x62] ++ [0x24] := by
    rw [ahead, hat.remaining_eq]
    decide
  have hfirst : scanner.ahead.head? = some 0x31 := by rw [hahead]; rfl
  have hremaining : scanner.next.2.remaining = [0x24] := (isAt_next hat).remaining_eq
  obtain ⟨lexeme, rest, happend, hlongest, htakes⟩ :=
    number_is_longest_numeral _ _ scanner .refl 0x31 hfirst (by decide)
  rw [← htakes.remaining_eq, hremaining, hahead, List.append_cancel_right_eq] at happend
  subst happend
  refine ⟨hfirst, by decide, hlongest, ?_, hremaining⟩
  rw [htakes.token_eq]
  rfl

end Scanner

/-! ## Slashes and operators -/

theorem Run.split_operators (bytes : List Byte) :
    Run.operators.split bytes =
      (bytes.takeWhile Byte.isOperator, bytes.dropWhile Byte.isOperator) :=
  split_eq_span (fun _ => rfl) bytes

/-- An operator begins with an operator byte, whether it is a lone slash or a run. -/
theorem exists_isOperator_of_spells {bytes : List Byte} (h : Kind.operator.Spells bytes) :
    ∃ byte more, bytes = byte :: more ∧ byte.isOperator = true := by
  rcases h with rfl | hrun
  · exact ⟨_, _, rfl, by decide⟩
  · cases bytes with
    | nil => exact hrun.elim
    | cons byte more => exact ⟨byte, more, rfl, hrun.1.1⟩

/-- An operator with the byte behind it, if there is one: a lone slash that opens no comment, or a
run of operator bytes that does not go on. -/
def IsWholeOperator (operator : List Byte) (behind : Option Byte) : Prop :=
  (operator = [Byte.slash] ∧ behind ≠ some Byte.slash ∧ behind ≠ some Byte.star) ∨
    (IsOperatorRun operator ∧ ∀ byte, behind = some byte → byte.isOperator = false)

theorem isWholeOperator_of_standsBefore {shown rest : List Byte}
    (h : Piece.StandsBefore ⟨.operator, shown⟩ rest) : IsWholeOperator shown rest.head? := by
  obtain ⟨hspells, hends⟩ := h
  rcases hspells with rfl | hrun
  · exact .inl ⟨rfl, fun hslash => hends _ hslash (.inl rfl), fun hstar => hends _ hstar (.inr rfl)⟩
  · refine .inr ⟨hrun, fun byte hbyte => ?_⟩
    have hne : shown ≠ [Byte.slash] := by
      rintro rfl
      exact hrun.1.2 rfl
    have hgoes := hends byte hbyte
    simp only [Piece.GoesOn, if_neg hne] at hgoes
    exact Bool.eq_false_iff.mpr hgoes

namespace Scanner

variable {settings : Settings} {reader : Reader} {now : Scanner} {byte : Byte}
  {bytes rest : List Byte}

/-! ### Where a slash or an operator byte comes first -/

theorem kind_next_of_slashes (h : Becomes (start settings reader).value now)
    (hahead : now.ahead = Byte.slash :: rest) (hslash : rest.head? = some Byte.slash) :
    now.next.1.token.kind = .lineComment := by
  have hfirst : (Piece.first Byte.slash rest).1.kind = .lineComment := by
    rw [Piece.first_slash, Piece.afterSlash, if_pos hslash]
  rw [token_next_of_ahead h hahead, Piece.kind_token_of_ne_keyword settings (by simp [hfirst]),
    hfirst]

theorem kind_next_of_opener (h : Becomes (start settings reader).value now)
    (hahead : now.ahead = Byte.slash :: rest) (hstar : rest.head? = some Byte.star) :
    now.next.1.token.kind = .blockComment ∨ now.next.1.token.kind = .unknown := by
  obtain ⟨body, rfl⟩ := List.head?_eq_some_iff.mp hstar
  rw [token_next_of_ahead h hahead, Piece.first_opener, Piece.afterOpener]
  cases closeComment? body with
  | none => exact .inr (Piece.kind_token_of_ne_keyword settings (by simp))
  | some found => exact .inl (Piece.kind_token_of_ne_keyword settings (by simp))

theorem takes_lone_slash (h : Becomes (start settings reader).value now)
    (hahead : now.ahead = Byte.slash :: rest) (hslash : rest.head? ≠ some Byte.slash)
    (hstar : rest.head? ≠ some Byte.star) : Takes settings .operator [Byte.slash] rest now := by
  have hfirst : Piece.first Byte.slash rest = (⟨.operator, [Byte.slash]⟩, rest) := by
    rw [Piece.first_slash, Piece.afterSlash, if_neg hslash, if_neg hstar]
  exact takes_of_first h hahead hfirst (by decide) (by decide)

theorem takes_operators (h : Becomes (start settings reader).value now)
    (hahead : now.ahead = byte :: rest) (hbyte : byte.isOperator = true)
    (hslash : byte ≠ Byte.slash) :
    Takes settings .operator (now.ahead.takeWhile Byte.isOperator)
      (now.ahead.dropWhile Byte.isOperator) now := by
  have hrun : Run.ofFirst? byte = some .operators :=
    (Run.ofFirst?_eq_some_iff _ _).mpr ⟨hbyte, hslash⟩
  have htakes := takes_run h hahead hrun (by simp)
  rw [Run.split_operators] at htakes
  rw [hahead, List.takeWhile_cons_of_pos hbyte, List.dropWhile_cons_of_pos hbyte]
  exact htakes

/-! ### Operator tokens of a source -/

variable {index : Nat} {token : Token}

/-- The scanner goes on with the byte behind an operator token. -/
theorem isAt_behind_operator {scanner : Scanner} (h : IsAt {} [] bytes scanner)
    (htoken : (tokensOf {} bytes).value[index]? = some token) (hkind : token.kind = .operator) :
    IsAt {} [] (bytes.drop (scanner.textStop index)) (scanner.after (index + 1)) ∧
      IsWholeOperator token.bytes bytes[scanner.textStop index]? := by
  obtain ⟨shown, rest, htext, hstands, hnext⟩ :=
    exists_shown_of_getElem?_tokensOf htoken (by simp [hkind])
  rw [hkind] at htext hstands
  subst htext
  have hbehind := drop_textStop h hnext
  have hat := isAt_after h (index + 1)
  rw [Function.iterate_succ_apply', pastPiece_of_some hnext] at hat
  rw [← List.head?_drop, hbehind, Piece.bytes_token]
  exact ⟨hat, isWholeOperator_of_standsBefore hstands⟩

/-- An operator byte directly behind an operator token makes the token a slash. -/
theorem value_eq_slash_of_adjacent {scanner : Scanner} {first second : Token}
    (h : IsAt {} [] bytes scanner)
    (hfirst : (tokensOf {} bytes).value[index]? = some first)
    (hsecond : (tokensOf {} bytes).value[index + 1]? = some second)
    (hfirstKind : first.kind = .operator) (hsecondKind : second.kind = .operator)
    (hadjacent : scanner.textStart (index + 1) = scanner.textStop index) : first.value = "/" := by
  obtain ⟨shown, rest, htext, hstands, hnext⟩ :=
    exists_shown_of_getElem?_tokensOf hfirst (by simp [hfirstKind])
  obtain ⟨shown', rest', -, hstands', hnext'⟩ :=
    exists_shown_of_getElem?_tokensOf hsecond (by simp [hsecondKind])
  rw [hfirstKind] at htext hstands
  rw [hsecondKind] at hstands' hnext'
  subst htext
  obtain ⟨byte, more, rfl, hbyte⟩ := exists_isOperator_of_spells hstands'.1
  have hrest : rest = byte :: more ++ rest' := by
    rw [← drop_textStop h hnext, ← hadjacent]
    exact drop_textStart h hnext'
  rcases isWholeOperator_of_standsBefore hstands with ⟨rfl, -, -⟩ | ⟨-, hstop⟩
  · rfl
  · have hnot := hstop byte (by rw [hrest]; rfl)
    rw [hbyte] at hnot
    cases hnot

/-- **A slash stands alone, and every other operator is a whole run.**  Without a limit, an operator
token is either a lone slash, with neither a slash nor a star behind it, or a run of operator bytes
that begins with no slash and has no operator byte behind it.  The byte behind it is the one that
the scanner looks at next.  So if nothing is between two operator tokens, then the first is a slash.

Conversely, wherever the next token begins with a slash, the byte behind the slash decides: a second
slash opens a line comment, a star opens a block comment, which may be left open, and with anything
else, or nothing, the slash is a token of its own.  Where it begins with any other operator byte, it
takes up all operator bytes from there on, slashes and stars too. -/
theorem operator_is_slash_or_whole_run (bytes : List Byte) :
    let scanner := (start {} (Reader.ofBytes bytes)).value
    (∀ index token, (tokensOf {} bytes).value[index]? = some token → token.kind = .operator →
      IsWholeOperator token.bytes bytes[scanner.textStop index]? ∧
        (scanner.after (index + 1)).remaining = bytes.drop (scanner.textStop index) ∧
        (scanner.after (index + 1)).cursor.current? = bytes[scanner.textStop index]?) ∧
    (∀ index first second, (tokensOf {} bytes).value[index]? = some first →
      (tokensOf {} bytes).value[index + 1]? = some second →
      first.kind = .operator → second.kind = .operator →
      scanner.textStart (index + 1) = scanner.textStop index → first.value = "/") ∧
    ∀ settings reader now, Becomes (start settings reader).value now →
      (∀ rest, now.ahead = Byte.slash :: rest →
        (rest.head? = some Byte.slash → now.next.1.token.kind = .lineComment) ∧
        (rest.head? = some Byte.star →
          now.next.1.token.kind = .blockComment ∨ now.next.1.token.kind = .unknown) ∧
        (rest.head? ≠ some Byte.slash → rest.head? ≠ some Byte.star →
          Takes settings .operator [Byte.slash] rest now)) ∧
      ∀ byte rest, now.ahead = byte :: rest → byte.isOperator = true → byte ≠ Byte.slash →
        Takes settings .operator (now.ahead.takeWhile Byte.isOperator)
          (now.ahead.dropWhile Byte.isOperator) now := by
  intro scanner
  have hstart : IsAt {} [] bytes scanner := isAt_start_ofBytes {} bytes
  refine ⟨?_, ?_, ?_⟩
  · intro index token htoken hkind
    obtain ⟨hat, hwhole⟩ := isAt_behind_operator hstart htoken hkind
    refine ⟨hwhole, hat.remaining_eq, ?_⟩
    rw [hat.current?_eq, List.head?_drop]
  · intro index first second hfirst hsecond hfirstKind hsecondKind hadjacent
    exact value_eq_slash_of_adjacent hstart hfirst hsecond hfirstKind hsecondKind hadjacent
  · intro settings reader now h
    refine ⟨?_, fun byte rest hahead => takes_operators h hahead⟩
    intro rest hahead
    exact ⟨kind_next_of_slashes h hahead, kind_next_of_opener h hahead,
      takes_lone_slash h hahead⟩

/-- In `/+//` the first slash stands alone and the two at the end are part of a run. -/
example : (tokensOf {} [0x2f, 0x2b, 0x2f, 0x2f]).value =
    [⟨.operator, "/", none⟩, ⟨.operator, "+//", none⟩, Token.endOfInput] := by
  cbv

end Scanner

end CcxLexis
