import CcxLexis.Proofs.Piece
import Mathlib.Data.List.Infix

/-!
# How lexemes are spelled

Every kind of lexeme has a spelling that can be stated without a scanner: `Kind.Spells` says which
bytes a lexeme of the kind can consist of, and `Piece.GoesOn` says which byte, standing directly
behind a lexeme, would be read as part of it.

The two together describe `Piece.first` completely: a piece is the first of its own bytes and those
behind it exactly if it is spelled as its kind demands and does not go on with the byte behind it
(`Piece.isFirst_iff`).
-/

namespace CcxLexis

/-! ## Facts about all bytes -/

namespace Byte

/-- A byte that begins no lexeme and separates none. -/
def IsStray (byte : Byte) : Prop :=
  byte.isBlank = false ∧ byte.isWordPart = false ∧ byte ≠ quotationMark ∧ byte ≠ apostrophe ∧
    byte.isOperator = false

instance : DecidablePred IsStray := fun byte => by
  unfold IsStray
  infer_instance

/-- There are only 256 bytes to look at. -/
theorem forall_of_fin {p : Byte → Prop} (h : ∀ n : Fin 256, p (UInt8.ofFin n)) (byte : Byte) :
    p byte :=
  h byte.toFin

theorem isStray_iff (byte : Byte) :
    byte.IsStray ↔ byte.isBlank = false ∧ byte ≠ slash ∧ Quotation.ofFirst? byte = none ∧
      Run.ofFirst? byte = none := by
  revert byte
  apply forall_of_fin
  decide +kernel

/-- A blank is part of no word, no numeral and no operator. -/
theorem not_part_of_isBlank (byte : Byte) :
    byte.isBlank = true → byte.isWordPart = false ∧ byte.isWordStart = false ∧
      byte.isDigit = false ∧ byte.isOperator = false ∧ byte ≠ dot ∧ byte ≠ hash ∧
        byte ≠ slash ∧ byte ≠ star := by
  revert byte
  apply forall_of_fin
  decide +kernel

end Byte

theorem Run.ofFirst?_isSome (byte : Byte) :
    (Run.ofFirst? byte).isSome = true →
      byte.isBlank = false ∧ byte ≠ Byte.slash ∧ Quotation.ofFirst? byte = none := by
  revert byte
  apply Byte.forall_of_fin
  decide +kernel

/-- A byte with which a run can begin. -/
def Run.StartsWith (run : Run) (byte : Byte) : Prop :=
  match run with
  | .word => byte.isWordStart = true
  | .number based => based = false ∧ byte.isDigit = true
  | .operators => byte.isOperator = true ∧ byte ≠ Byte.slash
  | .lineComment => False

theorem Run.ofFirst?_eq_some_iff (run : Run) (byte : Byte) :
    Run.ofFirst? byte = some run ↔ run.StartsWith byte := by
  revert byte
  apply Byte.forall_of_fin
  cases run with
  | number based => cases based <;> (simp only [StartsWith]; decide +kernel)
  | word | operators | lineComment =>
    simp only [StartsWith]
    decide +kernel

theorem Quotation.ofFirst?_mark (quotation : Quotation) :
    Quotation.ofFirst? quotation.mark = some quotation := by
  cases quotation <;> rfl

theorem Quotation.mark_ne_slash (quotation : Quotation) : quotation.mark ≠ Byte.slash := by
  cases quotation <;> decide

theorem Quotation.isBlank_mark (quotation : Quotation) : quotation.mark.isBlank = false := by
  cases quotation <;> rfl

/-! ## Spellings -/

/-- A letter or an underscore, and letters, digits and underscores behind it. -/
def IsWord : List Byte → Prop
  | [] => False
  | byte :: more => byte.isWordStart = true ∧ ∀ part ∈ more, part.isWordPart = true

/-- What can stand in a numeral behind the given bytes of it.  Letters and underscores can where
an odd number of hash signs stands before them. -/
def NumeralGoesOn (before : List Byte) (byte : Byte) : Prop :=
  byte.isDigit = true ∨ byte = Byte.dot ∨ byte = Byte.hash ∨
    (byte.isWordStart = true ∧ before.count Byte.hash % 2 = 1)

/-- A digit at the start, and bytes that each can stand behind those before it. -/
def IsNumeral : List Byte → Prop
  | [] => False
  | byte :: more => byte.isDigit = true ∧
      ∀ i part, more[i]? = some part → NumeralGoesOn (byte :: more.take i) part

/-- Operator bytes, of which the first is no slash. -/
def IsOperatorRun : List Byte → Prop
  | [] => False
  | byte :: more => (byte.isOperator = true ∧ byte ≠ Byte.slash) ∧
      ∀ part ∈ more, part.isOperator = true

/-- A quotation from mark to mark. -/
def IsQuoted (quotation : Quotation) (bytes : List Byte) : Prop :=
  ∃ body, bytes = quotation.mark :: (body ++ [quotation.mark]) ∧ quotation.mark ∉ body

/-- A block comment from opener to closer. -/
def IsBlockComment (bytes : List Byte) : Prop :=
  ∃ body, bytes = Byte.slash :: Byte.star :: (body ++ commentCloser) ∧ ¬commentCloser <:+: body

/-- A quotation or a block comment that is opened and never closed. -/
def IsUnclosed (bytes : List Byte) : Prop :=
  (∃ (quotation : Quotation) (body : List Byte),
      bytes = quotation.mark :: body ∧ quotation.mark ∉ body) ∨
    ∃ body, bytes = Byte.slash :: Byte.star :: body ∧ ¬commentCloser <:+: body

/-- The spellings of each kind of lexeme. -/
def Kind.Spells (kind : Kind) (bytes : List Byte) : Prop :=
  match kind with
  | .keyword => Byte.text bytes ∈ reservedWords
  | .identifier => IsWord bytes ∧ Byte.text bytes ∉ reservedWords
  | .number => IsNumeral bytes
  | .string => IsQuoted .string bytes
  | .character => IsQuoted .character bytes
  | .operator => bytes = [Byte.slash] ∨ IsOperatorRun bytes
  | .lineComment => Byte.lineFeed ∉ bytes
  | .blockComment => IsBlockComment bytes
  | .unknown => (∃ byte, bytes = [byte] ∧ byte.IsStray) ∨ IsUnclosed bytes
  | .endOfInput => False

namespace Piece

/-- A piece that is spelled as its kind demands. -/
def WellFormed (piece : Piece) : Prop :=
  piece.kind.Spells piece.shown

/-- The byte, standing directly behind the piece, would be read as part of it.  A lone slash is no
operator run: it goes on only to open a comment. -/
def GoesOn (piece : Piece) (byte : Byte) : Prop :=
  match piece.kind with
  | .keyword | .identifier => byte.isWordPart = true
  | .number => NumeralGoesOn piece.shown byte
  | .operator =>
    if piece.shown = [Byte.slash] then byte = Byte.slash ∨ byte = Byte.star
    else byte.isOperator = true
  | .lineComment => byte ≠ Byte.lineFeed
  | .unknown => IsUnclosed piece.shown
  | .string | .character | .blockComment | .endOfInput => False

/-- The bytes behind the piece do not go on with it. -/
def EndsBefore (piece : Piece) (rest : List Byte) : Prop :=
  ∀ byte, rest.head? = some byte → ¬piece.GoesOn byte

end Piece

/-! ## Runs and their spellings -/

theorem isReserved_iff (word : String) : isReserved word = true ↔ word ∈ reservedWords :=
  List.contains_iff_mem

theorem isWord_of_mem_reservedWords {bytes : List Byte} (h : Byte.text bytes ∈ reservedWords) :
    IsWord bytes := by
  have hall : reservedWords.all (fun word => match word.toList.map Char.toUInt8 with
      | [] => false
      | byte :: more => Byte.isWordStart byte && more.all Byte.isWordPart) = true := by
    decide +kernel
  have hbytes : (Byte.text bytes).toList.map Char.toUInt8 = bytes := by
    rw [Byte.toList_text, List.map_map]
    exact (List.map_congr_left fun byte _ => UInt8.toUInt8_toUInt32 byte).trans (List.map_id _)
  have hword := List.all_eq_true.mp hall _ h
  rw [hbytes] at hword
  cases bytes with
  | nil => cases hword
  | cons byte more =>
    rw [Bool.and_eq_true, List.all_eq_true] at hword
    exact hword

namespace Run

/-- The byte fits a run in the given state. -/
def Fits (run : Run) (byte : Byte) : Prop :=
  match run with
  | word => byte.isWordPart = true
  | number based => byte.isDigit = true ∨ byte = Byte.dot ∨ byte = Byte.hash ∨
      (byte.isWordStart = true ∧ based = true)
  | operators => byte.isOperator = true
  | lineComment => byte ≠ Byte.lineFeed

/-- The state of a run behind more of its bytes.  Each hash sign opens or closes the digits of a
based number. -/
def past (run : Run) (bytes : List Byte) : Run :=
  match run with
  | number based => number (based ^^ decide (bytes.count Byte.hash % 2 = 1))
  | other => other

@[simp] theorem past_nil (run : Run) : run.past [] = run := by
  cases run <;> simp [past]

theorem past_cons (run : Run) (byte : Byte) (bytes : List Byte) :
    run.past (byte :: bytes) = (run.past [byte]).past bytes := by
  cases run with
  | number based =>
    simp only [past, number.injEq, List.count_cons, List.count_nil, Nat.zero_add]
    by_cases hbyte : byte = Byte.hash
    · rcases Nat.mod_two_eq_zero_or_one (bytes.count Byte.hash) with heven | hodd
      · simp [hbyte, heven, Nat.add_mod]
      · simp [hbyte, hodd, Nat.add_mod]
    · simp [hbyte]
  | word | operators | lineComment => rfl

theorem extend?_eq_some_iff {run next : Run} {byte : Byte} :
    run.extend? byte = some next ↔ run.Fits byte ∧ run.past [byte] = next := by
  cases run with
  | number based =>
    by_cases hhash : byte = Byte.hash
    · simp [extend?, Fits, past, hhash]
    · simp [extend?, Fits, past, hhash, and_comm, or_assoc]
  | word | operators | lineComment => simp [extend?, Fits, past]

theorem extend?_eq_none_iff {run : Run} {byte : Byte} :
    run.extend? byte = none ↔ ¬run.Fits byte := by
  rw [Option.eq_none_iff_forall_ne_some]
  constructor
  · intro h hfits
    exact h _ (extend?_eq_some_iff.mpr ⟨hfits, rfl⟩)
  · intro h next hnext
    exact h (extend?_eq_some_iff.mp hnext).1

/-- All bytes fit, each in the state behind those before it. -/
def Spans (run : Run) (more : List Byte) : Prop :=
  ∀ i byte, more[i]? = some byte → (run.past (more.take i)).Fits byte

theorem spans_cons {run : Run} {byte : Byte} {more : List Byte} :
    run.Spans (byte :: more) ↔ run.Fits byte ∧ (run.past [byte]).Spans more := by
  constructor
  · intro h
    refine ⟨?_, ?_⟩
    · simpa using h 0 byte rfl
    · intro i part hpart
      have hfits := h (i + 1) part hpart
      rwa [List.take_succ_cons, past_cons] at hfits
  · rintro ⟨hbyte, hmore⟩ i part hpart
    cases i with
    | zero =>
      obtain rfl : byte = part := Option.some.inj hpart
      simpa using hbyte
    | succ i =>
      rw [List.take_succ_cons, past_cons]
      exact hmore i part hpart

theorem foldlM_extend?_eq_some_iff {run last : Run} {more : List Byte} :
    more.foldlM extend? run = some last ↔ run.Spans more ∧ run.past more = last := by
  induction more generalizing run with
  | nil => simp [Spans]
  | cons byte more ih =>
    rw [List.foldlM_cons, spans_cons, past_cons run byte more, Option.bind_eq_bind,
      Option.bind_eq_some_iff]
    constructor
    · rintro ⟨next, hnext, hmore⟩
      obtain ⟨hbyte, rfl⟩ := extend?_eq_some_iff.mp hnext
      obtain ⟨hspans, hlast⟩ := ih.mp hmore
      exact ⟨⟨hbyte, hspans⟩, hlast⟩
    · rintro ⟨⟨hbyte, hspans⟩, hlast⟩
      exact ⟨_, extend?_eq_some_iff.mpr ⟨hbyte, rfl⟩, ih.mpr ⟨hspans, hlast⟩⟩

/-- A run is cut off where it no longer fits. -/
theorem split_eq_iff_spans {run : Run} {bytes more rest : List Byte} :
    run.split bytes = (more, rest) ↔
      bytes = more ++ rest ∧ run.Spans more ∧
        ∀ byte, rest.head? = some byte → ¬(run.past more).Fits byte := by
  rw [split_eq_iff]
  refine and_congr_right fun _ => ?_
  constructor
  · rintro ⟨last, hlast, hstop⟩
    obtain ⟨hspans, rfl⟩ := foldlM_extend?_eq_some_iff.mp hlast
    exact ⟨hspans, fun byte hbyte => extend?_eq_none_iff.mp (hstop byte hbyte)⟩
  · rintro ⟨hspans, hstop⟩
    exact ⟨_, foldlM_extend?_eq_some_iff.mpr ⟨hspans, rfl⟩,
      fun byte hbyte => extend?_eq_none_iff.mpr (hstop byte hbyte)⟩

theorem spans_iff_forall_mem {run : Run} (h : ∀ bytes, run.past bytes = run) (more : List Byte) :
    run.Spans more ↔ ∀ byte ∈ more, run.Fits byte := by
  constructor
  · intro hspans byte hbyte
    obtain ⟨i, hi⟩ := List.mem_iff_getElem?.mp hbyte
    rw [← h (more.take i)]
    exact hspans i byte hi
  · intro hfits i byte hi
    rw [h]
    exact hfits byte (List.mem_iff_getElem?.mpr ⟨i, hi⟩)

/-- A digit is no hash sign, so only the bytes behind it decide whether the hash signs of a
numeral that begins with it are open. -/
theorem fits_past_number_iff {first : Byte} (hfirst : first.isDigit = true) (before : List Byte)
    (byte : Byte) : ((number false).past before).Fits byte ↔
      NumeralGoesOn (first :: before) byte := by
  have hhash : first ≠ Byte.hash := by
    rintro rfl
    cases hfirst
  simp [past, Fits, NumeralGoesOn, hhash]

/-- The bytes of a run that begins with a byte are the spellings of its kind. -/
theorem spells_kindOf_iff {run : Run} {byte : Byte} (h : ofFirst? byte = some run)
    (more : List Byte) : (run.kindOf (byte :: more)).Spells (byte :: more) ↔ run.Spans more := by
  rw [ofFirst?_eq_some_iff] at h
  cases run with
  | word =>
    rw [spans_iff_forall_mem fun _ => rfl]
    have hword : IsWord (byte :: more) ↔ ∀ part ∈ more, Fits word part := and_iff_right h
    rw [← hword, kindOf]
    split
    · next hreserved =>
      rw [isReserved_iff] at hreserved
      exact iff_of_true hreserved (isWord_of_mem_reservedWords hreserved)
    · next hreserved =>
      rw [isReserved_iff] at hreserved
      exact and_iff_left hreserved
  | number based =>
    obtain ⟨rfl, hdigit⟩ := h
    simp only [kindOf, Kind.Spells, IsNumeral, Spans, fits_past_number_iff hdigit]
    exact and_iff_right hdigit
  | operators =>
    rw [spans_iff_forall_mem fun _ => rfl]
    have hslash : byte :: more ≠ [Byte.slash] := by
      intro hlone
      exact h.2 (List.cons.inj hlone).1
    exact (or_iff_right hslash).trans (and_iff_right h)
  | lineComment => exact h.elim

/-- A piece that is a run goes on with what fits the run. -/
theorem goesOn_kindOf_iff {run : Run} {first : Byte} (h : ofFirst? first = some run)
    (more : List Byte) (byte : Byte) :
    Piece.GoesOn ⟨run.kindOf (first :: more), first :: more⟩ byte ↔ (run.past more).Fits byte := by
  rw [ofFirst?_eq_some_iff] at h
  cases run with
  | word =>
    rw [kindOf]
    split <;> exact Iff.rfl
  | number based =>
    obtain ⟨rfl, hdigit⟩ := h
    exact (fits_past_number_iff hdigit more byte).symm
  | operators =>
    have hslash : first :: more ≠ [Byte.slash] := by
      intro hlone
      exact h.2 (List.cons.inj hlone).1
    simp only [Piece.GoesOn, kindOf, if_neg hslash]
    exact Iff.rfl
  | lineComment => exact h.elim

/-- Words, numerals and operators are runs, apart from the lone slash. -/
theorem exists_of_spells {kind : Kind} {bytes : List Byte} (h : kind.Spells bytes)
    (hkind : kind = .keyword ∨ kind = .identifier ∨ kind = .number ∨
      kind = .operator ∧ bytes ≠ [Byte.slash]) :
    ∃ first more run, bytes = first :: more ∧ ofFirst? first = some run ∧
      run.kindOf bytes = kind := by
  have hword : ∀ {bytes : List Byte}, IsWord bytes →
      ∃ first more, bytes = first :: more ∧ ofFirst? first = some word := by
    intro bytes hword
    cases bytes with
    | nil => exact hword.elim
    | cons first more => exact ⟨first, more, rfl, (ofFirst?_eq_some_iff _ _).mpr hword.1⟩
  rcases hkind with rfl | rfl | rfl | ⟨rfl, hslash⟩
  · obtain ⟨first, more, rfl, hfirst⟩ := hword (isWord_of_mem_reservedWords h)
    exact ⟨first, more, word, rfl, hfirst, if_pos ((isReserved_iff _).mpr h)⟩
  · obtain ⟨first, more, rfl, hfirst⟩ := hword h.1
    exact ⟨first, more, word, rfl, hfirst, if_neg fun hword => h.2 ((isReserved_iff _).mp hword)⟩
  · cases bytes with
    | nil => exact h.elim
    | cons first more =>
      exact ⟨first, more, number false, rfl, (ofFirst?_eq_some_iff _ _).mpr ⟨rfl, h.1⟩, rfl⟩
  · have hrun : IsOperatorRun bytes := h.resolve_left hslash
    cases bytes with
    | nil => exact hrun.elim
    | cons first more =>
      exact ⟨first, more, operators, rfl, (ofFirst?_eq_some_iff _ _).mpr hrun.1, rfl⟩

end Run

/-! ## The first piece is well-formed -/

namespace Piece

/-- A well-formed piece that ends before the given bytes. -/
def StandsBefore (piece : Piece) (rest : List Byte) : Prop :=
  piece.WellFormed ∧ piece.EndsBefore rest

/-- An unclosed piece goes on with everything, so nothing is behind it. -/
theorem eq_nil_of_endsBefore {piece : Piece} {rest : List Byte} (h : piece.EndsBefore rest)
    (hkind : piece.kind = .unknown) (hopen : IsUnclosed piece.shown) : rest = [] := by
  cases rest with
  | nil => rfl
  | cons byte rest =>
    refine absurd ?_ (h byte rfl)
    rw [GoesOn, hkind]
    exact hopen

theorem standsBefore_afterOpener (bytes : List Byte) :
    (afterOpener bytes).1.StandsBefore (afterOpener bytes).2 := by
  unfold afterOpener
  split
  · next body rest hclose =>
    obtain ⟨-, hbody⟩ := closeComment?_eq_some_iff.mp hclose
    exact ⟨⟨body, rfl, hbody⟩, fun _ _ => id⟩
  · next hclose =>
    exact ⟨.inr (.inr ⟨bytes, rfl, closeComment?_eq_none_iff.mp hclose⟩), nofun⟩

theorem standsBefore_lineComment (bytes : List Byte) :
    StandsBefore ⟨.lineComment, (Run.lineComment.split bytes).1⟩
      (Run.lineComment.split bytes).2 := by
  obtain ⟨-, hspans, hstop⟩ := Run.split_eq_iff_spans.mp (rfl : Run.lineComment.split bytes = _)
  refine ⟨?_, hstop⟩
  intro hmem
  exact (Run.spans_iff_forall_mem (fun _ => rfl) _).mp hspans _ hmem rfl

theorem standsBefore_afterSlash (bytes : List Byte) :
    (afterSlash bytes).1.StandsBefore (afterSlash bytes).2 := by
  unfold afterSlash
  split
  · exact standsBefore_lineComment bytes.tail
  · next hslash =>
    split
    · exact standsBefore_afterOpener bytes.tail
    · next hstar =>
      refine ⟨.inl rfl, ?_⟩
      intro byte hbyte hgoes
      rcases hgoes with rfl | rfl
      · exact hslash hbyte
      · exact hstar hbyte

theorem standsBefore_afterMark (quotation : Quotation) (bytes : List Byte) :
    (afterMark quotation bytes).1.StandsBefore (afterMark quotation bytes).2 := by
  unfold afterMark
  split
  · next body rest hclose =>
    obtain ⟨-, hbody⟩ := Quotation.close?_eq_some_iff.mp hclose
    cases quotation with
    | string | character => exact ⟨⟨body, rfl, hbody⟩, fun _ _ => id⟩
  · next hclose =>
    exact ⟨.inr (.inl ⟨quotation, bytes, rfl, Quotation.close?_eq_none_iff.mp hclose⟩), nofun⟩

theorem standsBefore_ofRun {run : Run} {byte : Byte} (h : Run.ofFirst? byte = some run)
    (bytes : List Byte) : (ofRun run byte bytes).1.StandsBefore (ofRun run byte bytes).2 := by
  obtain ⟨-, hspans, hstop⟩ := Run.split_eq_iff_spans.mp (rfl : run.split bytes = _)
  refine ⟨(Run.spells_kindOf_iff h _).mpr hspans, ?_⟩
  intro next hnext hgoes
  exact hstop next hnext ((Run.goesOn_kindOf_iff h _ next).mp hgoes)

/-- A stray byte is closed by itself. -/
theorem not_isUnclosed_of_isStray {byte : Byte} (h : byte.IsStray) : ¬IsUnclosed [byte] := by
  rintro (⟨quotation, body, hbytes, -⟩ | ⟨body, hbytes, -⟩)
  · obtain rfl := (List.cons.inj hbytes).1
    cases quotation with
    | string => exact h.2.2.1 rfl
    | character => exact h.2.2.2.1 rfl
  · cases (List.cons.inj hbytes).2

/-- The first piece is spelled as its kind demands and does not go on with what is behind it. -/
theorem standsBefore_first {byte : Byte} (h : byte.isBlank = false) (bytes : List Byte) :
    (first byte bytes).1.StandsBefore (first byte bytes).2 := by
  obtain ⟨-, hfirst⟩ | ⟨quotation, -, -, hfirst⟩ | ⟨run, -, -, hrun, hfirst⟩ |
    ⟨hslash, hquotation, hrun, hfirst⟩ := first_cases byte bytes
  · rw [hfirst]
    exact standsBefore_afterSlash bytes
  · rw [hfirst]
    exact standsBefore_afterMark quotation bytes
  · rw [hfirst]
    exact standsBefore_ofRun hrun bytes
  · have hstray : byte.IsStray := (Byte.isStray_iff byte).mpr ⟨h, hslash, hquotation, hrun⟩
    rw [hfirst]
    exact ⟨.inl ⟨byte, rfl, hstray⟩, fun _ _ => not_isUnclosed_of_isStray hstray⟩

/-! ## Every well-formed piece is the first of its bytes -/

theorem first_slash (bytes : List Byte) : first Byte.slash bytes = afterSlash bytes :=
  if_pos rfl

theorem first_opener (bytes : List Byte) :
    first Byte.slash (Byte.star :: bytes) = afterOpener bytes := by
  have hslash : some Byte.star ≠ some Byte.slash := by decide
  rw [first_slash, afterSlash, List.head?_cons, if_neg hslash, if_pos rfl, List.tail_cons]

theorem first_mark (quotation : Quotation) (bytes : List Byte) :
    first quotation.mark bytes = afterMark quotation bytes := by
  rw [first, if_neg quotation.mark_ne_slash, quotation.ofFirst?_mark]

theorem first_of_run {run : Run} {byte : Byte} (h : Run.ofFirst? byte = some run)
    (bytes : List Byte) : first byte bytes = ofRun run byte bytes := by
  obtain ⟨-, hslash, hquotation⟩ := Run.ofFirst?_isSome byte (h ▸ rfl)
  rw [first, if_neg hslash, hquotation, h]

theorem first_of_isStray {byte : Byte} (h : byte.IsStray) (bytes : List Byte) :
    first byte bytes = (⟨.unknown, [byte]⟩, bytes) := by
  obtain ⟨-, hslash, hquotation, hrun⟩ := (Byte.isStray_iff byte).mp h
  rw [first, if_neg hslash, hquotation, hrun]

/-- The piece is the one that is cut off from its own bytes and those behind it. -/
def IsFirst (piece : Piece) (rest : List Byte) : Prop :=
  ∃ byte bytes, piece.written ++ rest = byte :: bytes ∧ byte.isBlank = false ∧
    first byte bytes = (piece, rest)

theorem isFirst_of_run {kind : Kind} {shown rest : List Byte}
    (h : StandsBefore ⟨kind, shown⟩ rest)
    (hkind : kind = .keyword ∨ kind = .identifier ∨ kind = .number ∨
      kind = .operator ∧ shown ≠ [Byte.slash]) : IsFirst ⟨kind, shown⟩ rest := by
  have hspells : kind.Spells shown := h.1
  obtain ⟨byte, more, run, rfl, hfirst, rfl⟩ := Run.exists_of_spells hspells hkind
  have hspans : run.Spans more := (Run.spells_kindOf_iff hfirst more).mp hspells
  have hsplit : run.split (more ++ rest) = (more, rest) := by
    refine Run.split_eq_iff_spans.mpr ⟨rfl, hspans, ?_⟩
    intro next hnext hfits
    exact h.2 next hnext ((Run.goesOn_kindOf_iff hfirst more next).mpr hfits)
  refine ⟨byte, more ++ rest, ?_, (Run.ofFirst?_isSome byte (hfirst ▸ rfl)).1, ?_⟩
  · rcases hkind with hkind | hkind | hkind | ⟨hkind, -⟩ <;> simp [written, hkind, Kind.unshown]
  · rw [first_of_run hfirst, ofRun, hsplit]

theorem isFirst_slash {rest : List Byte} (h : EndsBefore ⟨.operator, [Byte.slash]⟩ rest) :
    IsFirst ⟨.operator, [Byte.slash]⟩ rest := by
  refine ⟨Byte.slash, rest, rfl, rfl, ?_⟩
  have hslash : rest.head? ≠ some Byte.slash := fun hhead => h _ hhead (.inl rfl)
  have hstar : rest.head? ≠ some Byte.star := fun hhead => h _ hhead (.inr rfl)
  rw [first_slash, afterSlash, if_neg hslash, if_neg hstar]

theorem isFirst_lineComment {shown rest : List Byte}
    (h : StandsBefore ⟨.lineComment, shown⟩ rest) : IsFirst ⟨.lineComment, shown⟩ rest := by
  obtain ⟨hwell, hends⟩ := h
  have hspans : Run.lineComment.Spans shown := by
    refine (Run.spans_iff_forall_mem (fun _ => rfl) _).mpr ?_
    rintro byte hbyte rfl
    exact hwell hbyte
  have hsplit : Run.lineComment.split (shown ++ rest) = (shown, rest) :=
    Run.split_eq_iff_spans.mpr ⟨rfl, hspans, hends⟩
  refine ⟨Byte.slash, Byte.slash :: (shown ++ rest), rfl, rfl, ?_⟩
  rw [first_slash, afterSlash, List.head?_cons, if_pos rfl, List.tail_cons, hsplit]

theorem isFirst_blockComment {shown : List Byte} (h : IsBlockComment shown) (rest : List Byte) :
    IsFirst ⟨.blockComment, shown⟩ rest := by
  obtain ⟨body, rfl, hbody⟩ := h
  refine ⟨Byte.slash, Byte.star :: (body ++ commentCloser ++ rest), rfl, rfl, ?_⟩
  rw [first_opener, afterOpener, closeComment?_eq_some_iff.mpr ⟨rfl, hbody⟩]

theorem isFirst_quoted {quotation : Quotation} {shown : List Byte} (h : IsQuoted quotation shown)
    (rest : List Byte) : IsFirst ⟨quotation.kind, shown⟩ rest := by
  obtain ⟨body, rfl, hbody⟩ := h
  refine ⟨quotation.mark, body ++ quotation.mark :: rest, ?_, quotation.isBlank_mark, ?_⟩
  · cases quotation <;> simp [written, Kind.unshown, Quotation.kind]
  · rw [first_mark, afterMark, Quotation.close?_eq_some_iff.mpr ⟨rfl, hbody⟩]

theorem isFirst_of_isStray {byte : Byte} (h : byte.IsStray) (rest : List Byte) :
    IsFirst ⟨.unknown, [byte]⟩ rest :=
  ⟨byte, rest, rfl, h.1, first_of_isStray h rest⟩

theorem isFirst_unclosed {shown : List Byte} (h : IsUnclosed shown) :
    IsFirst ⟨.unknown, shown⟩ [] := by
  rcases h with ⟨quotation, body, rfl, hbody⟩ | ⟨body, rfl, hbody⟩
  · refine ⟨quotation.mark, body, List.append_nil _, quotation.isBlank_mark, ?_⟩
    rw [first_mark, afterMark, Quotation.close?_eq_none_iff.mpr hbody]
  · refine ⟨Byte.slash, Byte.star :: body, List.append_nil _, rfl, ?_⟩
    rw [first_opener, afterOpener, closeComment?_eq_none_iff.mpr hbody]

/-- Spelling, and the byte behind a piece, decide which piece is cut off. -/
theorem isFirst_iff {piece : Piece} {rest : List Byte} :
    piece.IsFirst rest ↔ piece.StandsBefore rest := by
  constructor
  · rintro ⟨byte, bytes, -, hblank, hfirst⟩
    have hstands := standsBefore_first hblank bytes
    rwa [hfirst] at hstands
  · intro h
    obtain ⟨kind, shown⟩ := piece
    cases kind with
    | keyword => exact isFirst_of_run h (.inl rfl)
    | identifier => exact isFirst_of_run h (.inr (.inl rfl))
    | number => exact isFirst_of_run h (.inr (.inr (.inl rfl)))
    | operator =>
      by_cases hslash : shown = [Byte.slash]
      · subst hslash
        exact isFirst_slash h.2
      · exact isFirst_of_run h (.inr (.inr (.inr ⟨rfl, hslash⟩)))
    | lineComment => exact isFirst_lineComment h
    | blockComment => exact isFirst_blockComment h.1 rest
    | string => exact @isFirst_quoted .string shown h.1 rest
    | character => exact @isFirst_quoted .character shown h.1 rest
    | unknown =>
      rcases h.1 with ⟨byte, rfl, hstray⟩ | hopen
      · exact isFirst_of_isStray hstray rest
      · obtain rfl := eq_nil_of_endsBefore h.2 rfl hopen
        exact isFirst_unclosed hopen
    | endOfInput => exact h.1.elim

/-- A line comment goes on with every blank but a line feed, and an unclosed piece with all of
them.  No other piece goes on with a blank. -/
theorem not_goesOn_of_isBlank {piece : Piece} {byte : Byte} (hblank : byte.isBlank = true)
    (hcomment : piece.kind = .lineComment → byte = Byte.lineFeed)
    (hclosed : ¬(piece.kind = .unknown ∧ IsUnclosed piece.shown)) : ¬piece.GoesOn byte := by
  obtain ⟨hpart, hstart, hdigit, hoperator, hdot, hhash, hslash, hstar⟩ :=
    Byte.not_part_of_isBlank byte hblank
  obtain ⟨kind, shown⟩ := piece
  cases kind with
  | keyword | identifier => simp [GoesOn, hpart]
  | number => simp [GoesOn, NumeralGoesOn, hstart, hdigit, hdot, hhash]
  | operator =>
    simp only [GoesOn]
    split
    · exact not_or.mpr ⟨hslash, hstar⟩
    · simp [hoperator]
  | lineComment => exact not_not_intro (hcomment rfl)
  | unknown => exact fun hopen => hclosed ⟨rfl, hopen⟩
  | string | character | blockComment | endOfInput => exact id

end Piece

end CcxLexis
