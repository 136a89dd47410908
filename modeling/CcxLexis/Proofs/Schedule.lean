import CcxLexis.Proofs.Reading
import Mathlib.Logic.Relation

/-!
# The schedule of the reads does not matter

A reader may deliver the same source in many ways: in portions of any size, with interruptions
anywhere between them, and with an end or a failure behind them.  This file shows that a scanner
sees through all of it.  Its tokens are those of the delivered bytes taken in one portion, the
failure that it reports is the one that stopped the source, and it leaves every read behind that
point alone.

The last part is an invariant of the cursor.  An end is not recorded anywhere, so it depends on a
scanner never demanding a byte where one is missing.  `Cursor.Move` has the two moves that a
scanner makes, each only with a byte at the cursor, and `Cursor.outcome`, which says how the source
will stop and which reads will be left alone, is the same before and after each of them.
-/

namespace CcxLexis

/-! ## What a sequence of reads amounts to -/

namespace ReadResult

/-- A read that stops the source: it delivers nothing, or it fails and was not just
interrupted. -/
def isStop : ReadResult → Bool
  | portion bytes => bytes.isEmpty
  | failed fault => !fault.isInterruption

def payload : ReadResult → List Byte
  | portion bytes => bytes
  | failed _ => []

def fault? : ReadResult → Option Fault
  | portion _ => none
  | failed fault => some fault

/-- The bytes delivered before the first read that stops the source. -/
def delivered (results : List ReadResult) : List Byte :=
  (results.takeWhile fun result => !result.isStop).flatMap payload

/-- The failure that stops the source, if a failure does. -/
def stopFault? (results : List ReadResult) : Option Fault :=
  (results.find? isStop).bind fault?

/-- The reads behind the first one that stops the source. -/
def unasked (results : List ReadResult) : List ReadResult :=
  (results.dropWhile fun result => !result.isStop).tail

theorem unasked_suffix (results : List ReadResult) : unasked results <:+ results :=
  (List.tail_suffix _).trans (List.dropWhile_suffix _)

section

variable {result : ReadResult}

theorem stopFault?_cons_of_not_stop (h : result.isStop = false) (results : List ReadResult) :
    stopFault? (result :: results) = stopFault? results := by
  simp [stopFault?, h]

theorem unasked_cons_of_not_stop (h : result.isStop = false) (results : List ReadResult) :
    unasked (result :: results) = unasked results := by
  simp [unasked, h]

theorem stopFault?_cons_of_stop (h : result.isStop = true) (results : List ReadResult) :
    stopFault? (result :: results) = result.fault? := by
  simp [stopFault?, h]

theorem unasked_cons_of_stop (h : result.isStop = true) (results : List ReadResult) :
    unasked (result :: results) = results := by
  simp [unasked, h]

end

theorem bytes_eq_delivered (results : List ReadResult) : bytes results = delivered results := by
  induction results with
  | nil => rfl
  | cons result results ih =>
    cases result with
    | portion portion =>
      cases portion with
      | nil => rfl
      | cons byte more => simp [bytes, delivered, isStop, payload, ih]
    | failed fault =>
      cases h : fault.isInterruption with
      | true => simpa [bytes, delivered, isStop, payload, h] using ih
      | false => simp [bytes, delivered, isStop, h]

theorem remaining_eq_delivered (results : List ReadResult) :
    Reader.remaining { results } = delivered results :=
  bytes_eq_delivered results

theorem deliver_spec (results : List ReadResult) :
    match deliver results with
    | .byte _ reader =>
      unasked reader.results = unasked results ∧ stopFault? reader.results = stopFault? results
    | .ended reader => reader.results = unasked results ∧ stopFault? results = none
    | .failed fault reader =>
      reader.results = unasked results ∧ stopFault? results = some fault := by
  fun_induction deliver results with
  | case1 => exact ⟨rfl, rfl⟩
  | case2 results => exact ⟨rfl, rfl⟩
  | case3 byte bytes results => exact ⟨rfl, rfl⟩
  | case4 fault results h ih =>
    have hgo : (failed fault).isStop = false := by simp [isStop, h]
    rwa [stopFault?_cons_of_not_stop hgo, unasked_cons_of_not_stop hgo]
  | case5 fault results h =>
    have hstop : (failed fault).isStop = true := by simp [isStop, h]
    rw [stopFault?_cons_of_stop hstop, unasked_cons_of_stop hstop]
    exact ⟨rfl, rfl⟩

end ReadResult

/-! ## What a cursor has still in front of it -/

namespace Cursor

/-- The reads that will be left alone once the source has stopped, and the failure that will have
stopped it, as far as the reader decides. -/
def prospect (cursor : Cursor) : List ReadResult × Option Fault :=
  match cursor.failure? with
  | some fault => (cursor.reader.results, some fault)
  | none =>
    (ReadResult.unasked cursor.reader.results, ReadResult.stopFault? cursor.reader.results)

theorem prospect_demand (cursor : Cursor) :
    match cursor.demand.value with
    | (some _, after) => after.prospect = cursor.prospect
    | (none, after) => (after.reader.results, after.failure?) = cursor.prospect := by
  obtain ⟨current, peeked, failure, ⟨portion, results⟩⟩ := cursor
  cases failure with
  | some fault => rfl
  | none =>
    cases portion with
    | cons byte bytes => rfl
    | nil =>
      have hspec := ReadResult.deliver_spec results
      unfold demand Reader.next
      dsimp only
      cases hdeliver : ReadResult.deliver results with
      | byte byte reader =>
        rw [hdeliver] at hspec
        exact congrArg₂ Prod.mk hspec.1 hspec.2
      | ended reader =>
        rw [hdeliver] at hspec
        exact congrArg₂ Prod.mk hspec.1 hspec.2.symm
      | failed fault reader =>
        rw [hdeliver] at hspec
        exact congrArg₂ Prod.mk hspec.1 hspec.2.symm

/-- The reads that will be left alone once the source has stopped, and the failure that will have
stopped it.  A source has stopped when a byte is missing. -/
def outcome (cursor : Cursor) : List ReadResult × Option Fault :=
  if cursor.current? = none ∨ cursor.peeked = some none then
    (cursor.reader.results, cursor.failure?)
  else cursor.prospect

/-- A move that a scanner makes with a byte at the cursor. -/
inductive Move : Cursor → Cursor → Prop
  | lookFurther {cursor : Cursor} (h : cursor.current? ≠ none) :
      Move cursor cursor.lookFurther.value
  | advance {cursor : Cursor} (h : cursor.current? ≠ none) : Move cursor cursor.advance.value

/-- Any number of moves, one after the other. -/
abbrev Moves : Cursor → Cursor → Prop := Relation.ReflTransGen Move

/-- Moves that come to rest behind a consumed byte.  Looking further is only on the way. -/
inductive Consumes (cursor : Cursor) : Cursor → Prop
  | nothing : Consumes cursor cursor
  | upTo {last : Cursor} (hmoves : Moves cursor last) (h : last.current? ≠ none) :
      Consumes cursor last.advance.value

theorem moves_of_consumes {cursor after : Cursor} (h : Consumes cursor after) :
    Moves cursor after := by
  cases h with
  | nothing => exact .refl
  | upTo hmoves hcurrent => exact hmoves.tail (.advance hcurrent)

theorem outcome_of_current? {cursor : Cursor} (h : cursor.current? ≠ none)
    (hpeeked : cursor.peeked ≠ some none) : cursor.outcome = cursor.prospect := by
  simp [outcome, h, hpeeked]

theorem outcome_lookFurther {cursor : Cursor} (h : cursor.current? ≠ none) :
    cursor.lookFurther.value.outcome = cursor.outcome := by
  cases hpeeked : cursor.peeked with
  | some byte => simp [lookFurther, hpeeked]
  | none =>
    have hprospect := prospect_demand cursor
    have hcurrent := current?_demand cursor
    rw [outcome_of_current? h (by simp [hpeeked])]
    simp only [lookFurther, hpeeked, Logged.value_bind, Logged.value_pure]
    rcases hdemand : cursor.demand.value with ⟨_ | byte, after⟩
    · rw [hdemand] at hprospect
      rw [← hprospect]
      simp [outcome]
    · rw [hdemand] at hprospect hcurrent
      rw [← hprospect]
      have hcurrent : after.current? ≠ none := hcurrent ▸ h
      simp [outcome, hcurrent, prospect]

theorem outcome_advance {cursor : Cursor} (h : cursor.current? ≠ none) :
    cursor.advance.value.outcome = cursor.outcome := by
  cases hpeeked : cursor.peeked with
  | some byte =>
    cases byte with
    | none => simp [advance, outcome, hpeeked]
    | some byte => simp [advance, outcome, prospect, h, hpeeked]
  | none =>
    have hprospect := prospect_demand cursor
    rw [outcome_of_current? h (by simp [hpeeked])]
    simp only [advance, hpeeked, Logged.value_bind, Logged.value_pure]
    rcases hdemand : cursor.demand.value with ⟨_ | byte, after⟩
    · rw [hdemand] at hprospect
      rw [← hprospect]
      simp [outcome]
    · rw [hdemand] at hprospect
      rw [← hprospect]
      simp [outcome, prospect]

/-- No move changes how the source will stop or which reads will be left alone. -/
theorem outcome_of_moves {cursor after : Cursor} (h : Moves cursor after) :
    after.outcome = cursor.outcome := by
  induction h with
  | refl => rfl
  | tail _ hmove ih =>
    cases hmove with
    | lookFurther hcurrent => rw [outcome_lookFurther hcurrent, ih]
    | advance hcurrent => rw [outcome_advance hcurrent, ih]

theorem outcome_start (reader : Reader) :
    (start reader).value.outcome =
      (ReadResult.unasked reader.results, ReadResult.stopFault? reader.results) := by
  change _ = prospect { reader }
  have hprospect := prospect_demand { reader }
  have hpeeked := peeked_demand { reader }
  simp only [start, Logged.value_bind, Logged.value_pure]
  rcases hdemand : (demand { reader }).value with ⟨_ | byte, after⟩
  · rw [hdemand] at hprospect
    rw [← hprospect]
    simp [outcome]
  · rw [hdemand] at hprospect hpeeked
    have hpeeked : after.peeked = none := hpeeked
    rw [← hprospect]
    simp [outcome, prospect, hpeeked]

/-- The reads that will be left alone have not been asked for. -/
theorem outcome_suffix (cursor : Cursor) : cursor.outcome.1 <:+ cursor.reader.results := by
  unfold outcome prospect
  split
  · exact List.suffix_rfl
  · split
    · exact List.suffix_rfl
    · exact ReadResult.unasked_suffix _

end Cursor

/-! ## A scanner moves its cursor with a byte at it -/

namespace Scanner

open Cursor

variable {scanner : Scanner}

theorem consumes_advance (h : scanner.cursor.current? ≠ none) :
    Consumes scanner.cursor scanner.advance.value.cursor :=
  .upTo .refl h

theorem moves_lookFurther (h : scanner.cursor.current? ≠ none) :
    Moves scanner.cursor scanner.lookFurther.value.cursor :=
  .single (.lookFurther h)

theorem current?_lookFurther_ne_none (h : scanner.cursor.current? ≠ none) :
    scanner.lookFurther.value.cursor.current? ≠ none := by
  have hsame : scanner.lookFurther.value.cursor.current? = scanner.cursor.current? :=
    current?_lookFurther scanner.cursor
  rwa [hsame]

/-- After looking further and seeing a byte, both bytes can be consumed. -/
theorem consumes_advance_advance {byte : Byte}
    (h : scanner.cursor.current? ≠ none)
    (hfollowing : scanner.lookFurther.value.cursor.following? = some byte) :
    Consumes scanner.cursor scanner.lookFurther.value.advance.value.advance.value.cursor := by
  have hlooked := current?_lookFurther_ne_none h
  have hsecond : scanner.lookFurther.value.advance.value.cursor.current? ≠ none :=
    Option.ne_none_iff_exists'.mpr ⟨byte, current?_advance hfollowing⟩
  have hfirst : Moves scanner.cursor scanner.lookFurther.value.advance.value.cursor :=
    (moves_lookFurther h).tail (.advance hlooked)
  exact .upTo hfirst hsecond

/-- After looking further the first byte can be consumed, whatever was seen. -/
theorem consumes_lookFurther_take (h : scanner.cursor.current? ≠ none) (kept : Byte) :
    Consumes scanner.cursor (scanner.lookFurther.value.take kept).value.cursor := by
  have hlooked : (scanner.lookFurther.value.keep kept).value.cursor.current? ≠ none :=
    current?_lookFurther_ne_none h
  exact .upTo (moves_lookFurther h) hlooked

theorem consumes_stepBlanks (scanner : Scanner) :
    Consumes scanner.cursor scanner.stepBlanks.value.scanner.cursor := by
  unfold stepBlanks
  split
  · exact .nothing
  · next byte hcurrent =>
    have h : scanner.cursor.current? ≠ none := Option.ne_none_iff_exists'.mpr ⟨byte, hcurrent⟩
    split
    · exact consumes_advance h
    · split
      · unfold stepSlash
        rw [Logged.value_bind]
        split
        · next hslash => exact consumes_advance_advance h hslash
        · split
          · next hstar => exact consumes_advance_advance h hstar
          · exact consumes_lookFurther_take h Byte.slash
      · split <;> exact consumes_advance h

theorem consumes_stepRun (scanner : Scanner) (run : Run) :
    Consumes scanner.cursor (scanner.stepRun run).value.scanner.cursor := by
  unfold stepRun
  split
  · exact .nothing
  · next byte hcurrent =>
    have h : scanner.cursor.current? ≠ none := Option.ne_none_iff_exists'.mpr ⟨byte, hcurrent⟩
    split
    · exact consumes_advance h
    · exact .nothing

theorem consumes_stepQuotation (scanner : Scanner) (quotation : Quotation) :
    Consumes scanner.cursor (scanner.stepQuotation quotation).value.scanner.cursor := by
  unfold stepQuotation
  split
  · exact .nothing
  · next byte hcurrent =>
    have h : scanner.cursor.current? ≠ none := Option.ne_none_iff_exists'.mpr ⟨byte, hcurrent⟩
    rw [Logged.value_bind]
    split <;> exact consumes_advance h

theorem consumes_stepBlockComment (scanner : Scanner) :
    Consumes scanner.cursor scanner.stepBlockComment.value.scanner.cursor := by
  unfold stepBlockComment
  split
  · exact .nothing
  · next byte hcurrent =>
    have h : scanner.cursor.current? ≠ none := Option.ne_none_iff_exists'.mpr ⟨byte, hcurrent⟩
    split
    · rw [Logged.value_bind]
      split
      · next hslash => exact consumes_advance_advance h hslash
      · exact consumes_lookFurther_take h byte
    · exact consumes_advance h

/-- Whatever a step looked at behind the byte at the cursor, it consumes that byte as well. -/
theorem consumes_step (scanner : Scanner) (mode : Mode) :
    Consumes scanner.cursor (scanner.step mode).value.scanner.cursor := by
  cases mode with
  | blanks => exact consumes_stepBlanks scanner
  | run run => exact consumes_stepRun scanner run
  | quotation quotation => exact consumes_stepQuotation scanner quotation
  | blockComment => exact consumes_stepBlockComment scanner

theorem moves_step (scanner : Scanner) (mode : Mode) :
    Moves scanner.cursor (scanner.step mode).value.scanner.cursor :=
  moves_of_consumes (consumes_step scanner mode)

theorem moves_finishToken (mode : Mode) (sofar : Logged Scanner) :
    Moves sofar.value.cursor (finishToken mode sofar).value.2.cursor := by
  fun_induction finishToken mode sofar with
  | case1 mode sofar token next events h =>
    have hmoves := moves_step sofar.value mode
    rwa [h] at hmoves
  | case2 mode sofar mode' next events h ih =>
    have hmoves := moves_step sofar.value mode
    rw [h] at hmoves
    exact hmoves.trans ih

theorem moves_next (scanner : Scanner) : Moves scanner.cursor scanner.next.2.cursor :=
  moves_finishToken .blanks (pure scanner)

theorem moves_drainInto (handed : Array Scanned) (scanner : Scanner) :
    Moves scanner.cursor (scanner.drainInto handed).2.cursor := by
  fun_induction drainInto handed scanner with
  | case1 handed scanner result hend => exact moves_next scanner
  | case2 handed scanner result hend ih => exact (moves_next scanner).trans ih

/-- The scanners that come of a scanner by asking it for tokens, in any of the ways in which they
can be asked for and any number of times. -/
inductive Becomes (scanner : Scanner) : Scanner → Prop
  | refl : Becomes scanner scanner
  | next {later : Scanner} (h : Becomes scanner later) : Becomes scanner later.next.2
  | next? {later : Scanner} (h : Becomes scanner later) : Becomes scanner later.next?.value.2
  | collect {later : Scanner} (h : Becomes scanner later) : Becomes scanner later.collect.value.2
  | rest {later : Scanner} (h : Becomes scanner later) : Becomes scanner later.rest.value.2

theorem moves_of_becomes {later : Scanner} (h : Becomes scanner later) :
    Moves scanner.cursor later.cursor := by
  induction h with
  | refl => exact .refl
  | next _ ih => exact ih.trans (moves_next _)
  | next? _ ih => exact ih.trans (moves_next _)
  | collect _ ih => exact ih.trans (moves_drainInto #[] _)
  | rest _ ih => exact ih.trans (moves_drainInto #[] _)

/-! ## Any schedule is as good as one portion -/

theorem outcome_of_becomes_start {settings : Settings} {reader : Reader}
    (h : Becomes (start settings reader).value scanner) :
    scanner.cursor.outcome =
      (ReadResult.unasked reader.results, ReadResult.stopFault? reader.results) :=
  (outcome_of_moves (moves_of_becomes h)).trans (outcome_start reader)

theorem failure?_of_used_up {settings : Settings} (h : IsAt settings [] [] scanner) :
    scanner.failure? = scanner.cursor.outcome.2 := by
  have hcurrent : scanner.cursor.current? = none := h.current?_eq
  simp [outcome, hcurrent, failure?]

/-- A scan ends with the failure that stops its source, if one does. -/
theorem failure?_scan (settings : Settings) (reader : Reader) :
    (scan settings reader).value.2.failure? = ReadResult.stopFault? reader.results := by
  have hdrained : Becomes (start settings reader).value (scan settings reader).value.2 :=
    .collect .refl
  calc
    (scan settings reader).value.2.failure? = _ :=
      failure?_of_used_up (value_collect (isAt_start settings reader)).2
    _ = ReadResult.stopFault? reader.results :=
      congrArg Prod.snd (outcome_of_becomes_start hdrained)

/-- **The schedule of the reads does not matter.**  For every sequence of read results, let the
delivered bytes be those before the first read that stops the source.  The scanner hands out the
tokens of these bytes read in one portion, all at once or one by one; after the last token its
failure is the one that stopped the source, if one did; and however its tokens are asked for, the
reads behind that point are never asked for. -/
theorem scan_schedule (settings : Settings) (results : List ReadResult) :
    (scan settings { results }).value.1 =
        (tokensOf settings (ReadResult.delivered results)).value ∧
      (∀ count, ((start settings { results }).value.after count).next.1.token =
        ((start settings (Reader.ofBytes (ReadResult.delivered results))).value.after
          count).next.1.token) ∧
      (scan settings { results }).value.2.failure? = ReadResult.stopFault? results ∧
      ∀ later, Becomes (start settings { results }).value later →
        ReadResult.unasked results <:+ later.cursor.reader.results := by
  have hstart := isAt_start settings { results }
  have hremaining : Reader.remaining { results } = ReadResult.delivered results :=
    ReadResult.bytes_eq_delivered results
  rw [hremaining] at hstart
  refine ⟨?_, ?_, ?_, ?_⟩
  · rw [value_scan, value_tokensOf, hremaining]
  · intro count
    have hwhole := isAt_start settings (Reader.ofBytes (ReadResult.delivered results))
    rw [remaining_ofBytes] at hwhole
    rw [token_next (isAt_after hstart count), token_next (isAt_after hwhole count)]
  · have hdrained : Becomes (start settings { results }).value
        (scan settings { results }).value.2 := .collect .refl
    calc
      (scan settings { results }).value.2.failure? = _ :=
        failure?_of_used_up (value_collect hstart).2
      _ = ReadResult.stopFault? results :=
        congrArg Prod.snd (outcome_of_becomes_start hdrained)
  · intro later hlater
    have hsuffix := outcome_suffix later.cursor
    rwa [outcome_of_becomes_start hlater] at hsuffix

/-- An interruption between the two slashes of a comment, and a failure in front of more bytes. -/
example : (scan {} { results :=
      [.portion [0x2f], .failed (.plain .interrupted), .portion [0x2f, 0x61],
        .failed (.system 5), .portion [0x62]] }).value.1 =
    [⟨.lineComment, "a", some "a"⟩, Token.endOfInput] := by
  cbv

end Scanner

end CcxLexis
