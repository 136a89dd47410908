import CcxLexis.Proofs.Kept
import CcxLexis.ReservedWords
import CcxLexis.Scanner.Mode
import Mathlib.Data.List.Infix
import Mathlib.Data.List.TakeWhile

/-!
# Pieces of a source

A source taken as a whole is a sequence of pieces, with blanks before, between and behind them.
This file reads such a sequence off the bytes of a source.  It knows of no reader, no cursor and
no limit: `Piece.first` cuts off the first piece, and `pieces` cuts until nothing but blanks is
left.

Three readers do the cutting, one for each way in which a lexeme can end: `Run.split`,
`Quotation.close?` and `closeComment?`.  Each is characterised by an equivalence that says which
bytes it cuts off and what cannot follow them, without saying how it goes through them.
-/

namespace CcxLexis

/-! ## Runs -/

namespace Run

/-- The bytes with which a run goes on, and the bytes behind it. -/
def split (run : Run) : List Byte → List Byte × List Byte
  | [] => ([], [])
  | byte :: bytes =>
    match run.extend? byte with
    | some next => (byte :: (next.split bytes).1, (next.split bytes).2)
    | none => ([], byte :: bytes)

/-- What a run is, given all of its bytes. -/
def kindOf : Run → List Byte → Kind
  | word, bytes => if isReserved (Byte.text bytes) then .keyword else .identifier
  | number _, _ => .number
  | operators, _ => .operator
  | lineComment, _ => .lineComment

theorem ofFirst?_ne_lineComment (byte : Byte) : ofFirst? byte ≠ some lineComment := by
  unfold ofFirst?
  split
  · exact nofun
  · split
    · exact nofun
    · split <;> exact nofun

theorem split_cons_of_some {run next : Run} {byte : Byte} (h : run.extend? byte = some next)
    (bytes : List Byte) :
    run.split (byte :: bytes) = (byte :: (next.split bytes).1, (next.split bytes).2) := by
  simp [split, h]

theorem split_cons_of_none {run : Run} {byte : Byte} (h : run.extend? byte = none)
    (bytes : List Byte) : run.split (byte :: bytes) = ([], byte :: bytes) := by
  simp [split, h]

theorem split_append (run : Run) (bytes : List Byte) :
    (run.split bytes).1 ++ (run.split bytes).2 = bytes := by
  induction bytes generalizing run with
  | nil => rfl
  | cons byte bytes ih =>
    cases h : run.extend? byte with
    | none => rw [split_cons_of_none h, List.nil_append]
    | some next => rw [split_cons_of_some h, List.cons_append, ih]

/-- The bytes cut off carry the run to a state in which it cannot go on. -/
theorem split_stops (run : Run) (bytes : List Byte) :
    ∃ last, (run.split bytes).1.foldlM extend? run = some last ∧
      ∀ byte, (run.split bytes).2.head? = some byte → last.extend? byte = none := by
  induction bytes generalizing run with
  | nil => exact ⟨run, rfl, by simp [split]⟩
  | cons byte bytes ih =>
    cases h : run.extend? byte with
    | none =>
      rw [split_cons_of_none h]
      exact ⟨run, rfl, by simpa using h⟩
    | some next =>
      rw [split_cons_of_some h]
      obtain ⟨last, hlast, hstop⟩ := ih next
      exact ⟨last, by simpa [h] using hlast, hstop⟩

theorem split_eq_of_stops {run last : Run} {more rest : List Byte}
    (hlast : more.foldlM extend? run = some last)
    (hstop : ∀ byte, rest.head? = some byte → last.extend? byte = none) :
    run.split (more ++ rest) = (more, rest) := by
  induction more generalizing run with
  | nil =>
    obtain rfl : run = last := Option.some.inj hlast
    cases rest with
    | nil => rfl
    | cons byte rest => exact split_cons_of_none (hstop byte rfl) rest
  | cons byte more ih =>
    rw [List.foldlM_cons] at hlast
    obtain ⟨next, hnext, hlast⟩ := Option.bind_eq_some_iff.mp hlast
    rw [List.cons_append, split_cons_of_some hnext, ih hlast]

theorem kindOf_ne_endOfInput (run : Run) (bytes : List Byte) : run.kindOf bytes ≠ .endOfInput := by
  unfold kindOf
  split
  · split <;> exact nofun
  · exact nofun
  · exact nofun
  · exact nofun

/-- Going on does not change what a run is. -/
theorem kindOf_of_extend? {run next : Run} {byte : Byte} (h : run.extend? byte = some next)
    (bytes : List Byte) : next.kindOf bytes = run.kindOf bytes := by
  cases run with
  | number based =>
    simp only [extend?] at h
    split at h
    · cases h
      rfl
    · split at h
      · cases h
        rfl
      · cases h
  | word | operators | lineComment =>
    simp only [extend?] at h
    split at h <;> cases h
    rfl

/-- A run goes on with all bytes of the first part, one after the other, and not with the first
byte of the second part. -/
theorem split_eq_iff {run : Run} {bytes more rest : List Byte} :
    run.split bytes = (more, rest) ↔
      bytes = more ++ rest ∧
        ∃ last, more.foldlM extend? run = some last ∧
          ∀ byte, rest.head? = some byte → last.extend? byte = none := by
  constructor
  · intro h
    have happend := run.split_append bytes
    have hstops := run.split_stops bytes
    rw [h] at happend hstops
    exact ⟨happend.symm, hstops⟩
  · rintro ⟨rfl, last, hlast, hstop⟩
    exact split_eq_of_stops hlast hstop

end Run

/-! ## Quotations -/

/-- The bytes before the closing mark of a quotation, and those behind the mark. -/
def Quotation.close? (quotation : Quotation) : List Byte → Option (List Byte × List Byte)
  | [] => none
  | byte :: bytes =>
    if byte = quotation.mark then some ([], bytes)
    else (quotation.close? bytes).map fun found => (byte :: found.1, found.2)

namespace Quotation

theorem eq_mark_of_ofFirst? {quotation : Quotation} {byte : Byte}
    (h : ofFirst? byte = some quotation) : byte = quotation.mark := by
  unfold ofFirst? at h
  split at h
  · next hbyte =>
    cases h
    exact eq_of_beq hbyte
  · split at h
    · next hbyte =>
      cases h
      exact eq_of_beq hbyte
    · cases h

theorem close?_sound {quotation : Quotation} {bytes body rest : List Byte}
    (h : quotation.close? bytes = some (body, rest)) :
    bytes = body ++ quotation.mark :: rest ∧ quotation.mark ∉ body := by
  induction bytes generalizing body with
  | nil => cases h
  | cons byte bytes ih =>
    by_cases hmark : byte = quotation.mark
    · simp only [close?, if_pos hmark, Option.some.injEq, Prod.mk.injEq] at h
      obtain ⟨rfl, rfl⟩ := h
      exact ⟨congrArg (· :: bytes) hmark, List.not_mem_nil⟩
    · simp only [close?, if_neg hmark, Option.map_eq_some_iff, Prod.mk.injEq] at h
      obtain ⟨found, hfound, rfl, rfl⟩ := h
      obtain ⟨happend, hbody⟩ := ih hfound
      exact ⟨congrArg (byte :: ·) happend, by simp [hbody, Ne.symm hmark]⟩

theorem close?_complete {quotation : Quotation} {body : List Byte} (rest : List Byte)
    (h : quotation.mark ∉ body) :
    quotation.close? (body ++ quotation.mark :: rest) = some (body, rest) := by
  induction body with
  | nil => simp [close?]
  | cons byte body ih =>
    rw [List.mem_cons, not_or] at h
    obtain ⟨hmark, hbody⟩ := h
    simp [close?, Ne.symm hmark, ih hbody]

/-- A quotation is closed by the first mark. -/
theorem close?_eq_some_iff {quotation : Quotation} {bytes body rest : List Byte} :
    quotation.close? bytes = some (body, rest) ↔
      bytes = body ++ quotation.mark :: rest ∧ quotation.mark ∉ body := by
  constructor
  · exact close?_sound
  · rintro ⟨rfl, hbody⟩
    exact close?_complete rest hbody

theorem close?_eq_none_iff {quotation : Quotation} {bytes : List Byte} :
    quotation.close? bytes = none ↔ quotation.mark ∉ bytes := by
  induction bytes with
  | nil => simp [close?]
  | cons byte bytes ih =>
    by_cases hmark : byte = quotation.mark
    · simp [close?, hmark]
    · simp [close?, hmark, ih, Ne.symm hmark]

end Quotation

/-! ## Block comments -/

/-- The two bytes that open a block comment. -/
def commentOpener : List Byte := [Byte.slash, Byte.star]

/-- The two bytes that close a block comment. -/
def commentCloser : List Byte := [Byte.star, Byte.slash]

/-- The bytes before the closer of a block comment, and those behind it. -/
def closeComment? : List Byte → Option (List Byte × List Byte)
  | [] => none
  | byte :: bytes =>
    if byte = Byte.star ∧ bytes.head? = some Byte.slash then some ([], bytes.tail)
    else (closeComment? bytes).map fun found => (byte :: found.1, found.2)

theorem commentCloser_infix_cons {byte : Byte} {bytes : List Byte} :
    commentCloser <:+: byte :: bytes ↔
      (byte = Byte.star ∧ bytes.head? = some Byte.slash) ∨ commentCloser <:+: bytes := by
  rw [List.infix_cons_iff]
  refine or_congr_left ?_
  cases bytes with
  | nil => simp [commentCloser]
  | cons second bytes => simp [commentCloser, List.cons_prefix_cons, eq_comm]

theorem closeComment?_sound {bytes body rest : List Byte}
    (h : closeComment? bytes = some (body, rest)) :
    bytes = body ++ commentCloser ++ rest ∧ ¬commentCloser <:+: body := by
  induction bytes generalizing body with
  | nil => cases h
  | cons byte bytes ih =>
    by_cases hcloser : byte = Byte.star ∧ bytes.head? = some Byte.slash
    · simp only [closeComment?, if_pos hcloser, Option.some.injEq, Prod.mk.injEq] at h
      obtain ⟨rfl, rfl⟩ := h
      obtain ⟨rfl, hslash⟩ := hcloser
      refine ⟨?_, by simp [commentCloser]⟩
      simp [commentCloser, List.cons_head?_tail hslash]
    · simp only [closeComment?, if_neg hcloser, Option.map_eq_some_iff, Prod.mk.injEq] at h
      obtain ⟨found, hfound, rfl, rfl⟩ := h
      obtain ⟨happend, hbody⟩ := ih hfound
      refine ⟨congrArg (byte :: ·) happend, ?_⟩
      rw [commentCloser_infix_cons]
      rintro (⟨hstar, hslash⟩ | hinfix)
      · refine hcloser ⟨hstar, ?_⟩
        rw [happend, List.append_assoc, List.head?_append, hslash, Option.some_or]
      · exact hbody hinfix

theorem closeComment?_complete {body : List Byte} (rest : List Byte)
    (h : ¬commentCloser <:+: body) :
    closeComment? (body ++ commentCloser ++ rest) = some (body, rest) := by
  induction body with
  | nil => simp [closeComment?, commentCloser]
  | cons byte body ih =>
    rw [commentCloser_infix_cons, not_or] at h
    -- A star at the end of the body stands before the star of the closer, not before its slash.
    have hcloser :
        ¬(byte = Byte.star ∧ (body ++ commentCloser ++ rest).head? = some Byte.slash) := by
      rintro ⟨hstar, hslash⟩
      cases body with
      | nil => simp [commentCloser, Byte.star, Byte.slash] at hslash
      | cons second body => exact h.1 ⟨hstar, hslash⟩
    rw [List.cons_append, List.cons_append, closeComment?, if_neg hcloser, ih h.2]
    rfl

/-- A block comment is closed by the first closer that begins behind its opener. -/
theorem closeComment?_eq_some_iff {bytes body rest : List Byte} :
    closeComment? bytes = some (body, rest) ↔
      bytes = body ++ commentCloser ++ rest ∧ ¬commentCloser <:+: body := by
  constructor
  · exact closeComment?_sound
  · rintro ⟨rfl, hbody⟩
    exact closeComment?_complete rest hbody

theorem closeComment?_eq_none_iff {bytes : List Byte} :
    closeComment? bytes = none ↔ ¬commentCloser <:+: bytes := by
  induction bytes with
  | nil => simp [closeComment?, commentCloser]
  | cons byte bytes ih =>
    rw [commentCloser_infix_cons]
    by_cases hcloser : byte = Byte.star ∧ bytes.head? = some Byte.slash
    · simp [closeComment?, hcloser]
    · simp [closeComment?, hcloser, ih]

/-! ## Pieces -/

/-- The part of a source that one token stands for: what it is, and the bytes that the token
shows. -/
structure Piece where
  kind : Kind
  shown : List Byte
deriving DecidableEq, Repr

/-- The bytes of a token that it does not show. -/
def Kind.unshown : Kind → List Byte
  | .lineComment => [Byte.slash, Byte.slash]
  | _ => []

namespace Piece

/-- All bytes of a piece, as they stand in the source. -/
def written (piece : Piece) : List Byte :=
  piece.kind.unshown ++ piece.shown

theorem written_eq_shown {piece : Piece} (h : piece.kind ≠ .lineComment) :
    piece.written = piece.shown := by
  obtain ⟨kind, shown⟩ := piece
  cases kind with
  | lineComment => exact absurd rfl h
  | _ => rfl

/-- The piece that begins with the opener of a block comment in front of the given bytes, and
what is behind it. -/
def afterOpener (bytes : List Byte) : Piece × List Byte :=
  match closeComment? bytes with
  | some (body, rest) =>
    (⟨.blockComment, Byte.slash :: Byte.star :: (body ++ commentCloser)⟩, rest)
  | none => (⟨.unknown, Byte.slash :: Byte.star :: bytes⟩, [])

/-- The piece that begins with a slash in front of the given bytes, and what is behind it. -/
def afterSlash (bytes : List Byte) : Piece × List Byte :=
  if bytes.head? = some Byte.slash then
    let found := Run.lineComment.split bytes.tail
    (⟨.lineComment, found.1⟩, found.2)
  else if bytes.head? = some Byte.star then afterOpener bytes.tail
  else (⟨.operator, [Byte.slash]⟩, bytes)

/-- The piece that begins with a mark in front of the given bytes, and what is behind it. -/
def afterMark (quotation : Quotation) (bytes : List Byte) : Piece × List Byte :=
  match quotation.close? bytes with
  | some (body, rest) => (⟨quotation.kind, quotation.mark :: (body ++ [quotation.mark])⟩, rest)
  | none => (⟨.unknown, quotation.mark :: bytes⟩, [])

/-- The piece that begins a run with the given byte, and what is behind it. -/
def ofRun (run : Run) (byte : Byte) (bytes : List Byte) : Piece × List Byte :=
  let found := run.split bytes
  (⟨run.kindOf (byte :: found.1), byte :: found.1⟩, found.2)

/-- The piece that begins with the given byte, which is no blank, and what is behind it. -/
def first (byte : Byte) (bytes : List Byte) : Piece × List Byte :=
  if byte = Byte.slash then afterSlash bytes
  else
    match Quotation.ofFirst? byte with
    | some quotation => afterMark quotation bytes
    | none =>
      match Run.ofFirst? byte with
      | some run => ofRun run byte bytes
      | none => (⟨.unknown, [byte]⟩, bytes)

/-- The four ways in which a piece can begin. -/
theorem first_cases (byte : Byte) (bytes : List Byte) :
    (byte = Byte.slash ∧ first byte bytes = afterSlash bytes) ∨
    (∃ quotation, byte ≠ Byte.slash ∧ Quotation.ofFirst? byte = some quotation ∧
      first byte bytes = afterMark quotation bytes) ∨
    (∃ run, byte ≠ Byte.slash ∧ Quotation.ofFirst? byte = none ∧ Run.ofFirst? byte = some run ∧
      first byte bytes = ofRun run byte bytes) ∨
    (byte ≠ Byte.slash ∧ Quotation.ofFirst? byte = none ∧ Run.ofFirst? byte = none ∧
      first byte bytes = (⟨.unknown, [byte]⟩, bytes)) := by
  by_cases hslash : byte = Byte.slash
  · exact .inl ⟨hslash, if_pos hslash⟩
  · refine .inr ?_
    rw [first, if_neg hslash]
    cases hquotation : Quotation.ofFirst? byte with
    | some quotation => exact .inl ⟨quotation, hslash, rfl, rfl⟩
    | none =>
      refine .inr ?_
      cases hrun : Run.ofFirst? byte with
      | some run => exact .inl ⟨run, hslash, rfl, rfl, rfl⟩
      | none => exact .inr ⟨hslash, rfl, rfl, rfl⟩

/-! ### The piece cut off and what is behind it make up the bytes -/

theorem written_afterOpener_append (bytes : List Byte) :
    (afterOpener bytes).1.written ++ (afterOpener bytes).2 =
      Byte.slash :: Byte.star :: bytes := by
  unfold afterOpener
  split
  · next body rest hclose =>
    obtain ⟨rfl, -⟩ := closeComment?_sound hclose
    simp [written, Kind.unshown]
  · simp [written, Kind.unshown]

theorem written_afterSlash_append (bytes : List Byte) :
    (afterSlash bytes).1.written ++ (afterSlash bytes).2 = Byte.slash :: bytes := by
  unfold afterSlash
  split
  · next hslash =>
    simp [written, Kind.unshown, Run.split_append, List.cons_head?_tail hslash]
  · split
    · next hstar =>
      rw [written_afterOpener_append, List.cons_head?_tail hstar]
    · rfl

theorem written_afterMark_append (quotation : Quotation) (bytes : List Byte) :
    (afterMark quotation bytes).1.written ++ (afterMark quotation bytes).2 =
      quotation.mark :: bytes := by
  unfold afterMark
  split
  · next body rest hclose =>
    obtain ⟨rfl, -⟩ := Quotation.close?_sound hclose
    cases quotation <;> simp [written, Kind.unshown, Quotation.kind]
  · simp [written, Kind.unshown]

theorem written_ofRun_append {run : Run} {byte : Byte} (h : Run.ofFirst? byte = some run)
    (bytes : List Byte) :
    (ofRun run byte bytes).1.written ++ (ofRun run byte bytes).2 = byte :: bytes := by
  have hshown : (run.kindOf (byte :: (run.split bytes).1)).unshown = [] := by
    cases run with
    | word =>
      simp only [Run.kindOf]
      split <;> rfl
    | number based => rfl
    | operators => rfl
    | lineComment => exact absurd h (Run.ofFirst?_ne_lineComment byte)
  simp only [ofRun, written, hshown, List.nil_append, List.cons_append, Run.split_append]

theorem written_first_append (byte : Byte) (bytes : List Byte) :
    (first byte bytes).1.written ++ (first byte bytes).2 = byte :: bytes := by
  obtain ⟨rfl, hfirst⟩ | ⟨quotation, -, hquotation, hfirst⟩ | ⟨run, -, -, hrun, hfirst⟩ |
    ⟨-, -, -, hfirst⟩ := first_cases byte bytes
  · rw [hfirst]
    exact written_afterSlash_append bytes
  · rw [hfirst, Quotation.eq_mark_of_ofFirst? hquotation]
    exact written_afterMark_append quotation bytes
  · rw [hfirst]
    exact written_ofRun_append hrun bytes
  · rw [hfirst]
    rfl

/-! ### A piece is never empty and never stands for the end of the input -/

/-- A piece that a token other than the report of the end can stand for. -/
def Proper (piece : Piece) : Prop :=
  piece.written ≠ [] ∧ piece.kind ≠ .endOfInput

theorem proper_of_shown {piece : Piece} (hshown : piece.shown ≠ [])
    (hkind : piece.kind ≠ .endOfInput) : piece.Proper := by
  refine ⟨?_, hkind⟩
  intro hwritten
  exact hshown (List.append_eq_nil_iff.mp hwritten).2

theorem proper_afterSlash (bytes : List Byte) : (afterSlash bytes).1.Proper := by
  unfold afterSlash
  split
  · exact ⟨List.cons_ne_nil _ _, nofun⟩
  · split
    · unfold afterOpener
      split <;> exact proper_of_shown (List.cons_ne_nil _ _) nofun
    · exact proper_of_shown (List.cons_ne_nil _ _) nofun

theorem proper_afterMark (quotation : Quotation) (bytes : List Byte) :
    (afterMark quotation bytes).1.Proper := by
  have hkind : quotation.kind ≠ .endOfInput := by cases quotation <;> exact nofun
  unfold afterMark
  split
  · exact proper_of_shown (List.cons_ne_nil _ _) hkind
  · exact proper_of_shown (List.cons_ne_nil _ _) nofun

theorem proper_first (byte : Byte) (bytes : List Byte) : (first byte bytes).1.Proper := by
  obtain ⟨-, hfirst⟩ | ⟨quotation, -, -, hfirst⟩ | ⟨run, -, -, -, hfirst⟩ | ⟨-, -, -, hfirst⟩ :=
    first_cases byte bytes
  · rw [hfirst]
    exact proper_afterSlash bytes
  · rw [hfirst]
    exact proper_afterMark quotation bytes
  · rw [hfirst]
    exact proper_of_shown (List.cons_ne_nil _ _) (Run.kindOf_ne_endOfInput _ _)
  · rw [hfirst]
    exact proper_of_shown (List.cons_ne_nil _ _) nofun

end Piece

/-! ## The pieces of a source -/

/-- A stretch of bytes that separates lexemes and belongs to none. -/
def Blank (bytes : List Byte) : Prop :=
  ∀ byte ∈ bytes, byte.isBlank = true

theorem blank_takeWhile (bytes : List Byte) : Blank (bytes.takeWhile Byte.isBlank) :=
  fun _ h => List.mem_takeWhile_imp h

/-- The piece behind the blanks at the start, if there is one, and what is behind it. -/
def nextPiece? (bytes : List Byte) : Option (Piece × List Byte) :=
  match bytes.dropWhile Byte.isBlank with
  | [] => none
  | byte :: rest => some (Piece.first byte rest)

theorem append_of_nextPiece? {bytes rest : List Byte} {piece : Piece}
    (h : nextPiece? bytes = some (piece, rest)) :
    bytes = bytes.takeWhile Byte.isBlank ++ (piece.written ++ rest) := by
  have hblanks := List.takeWhile_append_dropWhile (p := Byte.isBlank) (l := bytes)
  unfold nextPiece? at h
  split at h
  · cases h
  · next byte behind hbehind =>
    have hfirst := Piece.written_first_append byte behind
    rw [Option.some.inj h] at hfirst
    rw [hfirst, ← hbehind, hblanks]

theorem blank_of_nextPiece?_eq_none {bytes : List Byte} (h : nextPiece? bytes = none) :
    Blank bytes := by
  unfold nextPiece? at h
  split at h
  · next hbehind => exact List.dropWhile_eq_nil_iff.mp hbehind
  · cases h

theorem nextPiece?_of_blank {bytes : List Byte} (h : Blank bytes) : nextPiece? bytes = none := by
  rw [nextPiece?, List.dropWhile_eq_nil_iff.mpr h]

theorem proper_of_nextPiece? {bytes rest : List Byte} {piece : Piece}
    (h : nextPiece? bytes = some (piece, rest)) : piece.Proper := by
  unfold nextPiece? at h
  split at h
  · cases h
  · next byte behind _ =>
    have hproper := Piece.proper_first byte behind
    rwa [Option.some.inj h] at hproper

theorem length_lt_of_nextPiece? {bytes rest : List Byte} {piece : Piece}
    (h : nextPiece? bytes = some (piece, rest)) : rest.length < bytes.length := by
  have hpos : 0 < piece.written.length := List.length_pos_iff.mpr (proper_of_nextPiece? h).1
  have hlength := congrArg List.length (append_of_nextPiece? h)
  simp only [List.length_append] at hlength
  omega

/-- The pieces of a source, in order. -/
def pieces (bytes : List Byte) : List Piece :=
  match _h : nextPiece? bytes with
  | none => []
  | some (piece, rest) => piece :: pieces rest
termination_by bytes.length
decreasing_by exact length_lt_of_nextPiece? _h

theorem pieces_of_none {bytes : List Byte} (h : nextPiece? bytes = none) : pieces bytes = [] := by
  rw [pieces]
  split
  · rfl
  · next hsome => cases h.symm.trans hsome

theorem pieces_of_some {bytes rest : List Byte} {piece : Piece}
    (h : nextPiece? bytes = some (piece, rest)) : pieces bytes = piece :: pieces rest := by
  rw [pieces]
  split
  · next hnone => cases h.symm.trans hnone
  · next hsome => cases h.symm.trans hsome; rfl

/-- What is behind the next piece.  Behind the last piece nothing is left but blanks, and behind
those nothing at all. -/
def pastPiece (bytes : List Byte) : List Byte :=
  match nextPiece? bytes with
  | none => []
  | some (_, rest) => rest

end CcxLexis
