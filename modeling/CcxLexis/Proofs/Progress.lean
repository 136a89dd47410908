import CcxLexis.Proofs.Ahead
import CcxLexis.Proofs.Lossless

/-!
# Every demand is met and every scan comes to its end

Three loops are nested in a scan.  A demand for a byte repeats interrupted reads, a token takes step
after step until it is finished, and a collection asks for tokens until the end is reported.  Each of
them is described here with the number of its turns, and each number is bounded: the reads by the
results that are left, and the steps and the tokens by the bytes that are left.

What makes the bounds hold is that every turn uses something up.  For a token that is at least one
byte behind the blanks in front of it, whatever kind of token it is, and since every limit leaves room
for one byte, a token shows at least one as well.
-/

namespace CcxLexis

namespace ReadResult

/-! ## Reads for one byte -/

/-- The demand for a byte comes to a delivery after a number of reads.  An interrupted read is made
once more, and any other is the last. -/
inductive ComesTo : List ReadResult → Nat → Delivery → Prop
  | pastEnd : ComesTo [] 1 (.ended { results := [] })
  | ended {results : List ReadResult} : ComesTo (portion [] :: results) 1 (.ended { results })
  | byte {byte : Byte} {bytes : List Byte} {results : List ReadResult} :
      ComesTo (portion (byte :: bytes) :: results) 1 (.byte byte { portion := bytes, results })
  | failed {fault : Fault} {results : List ReadResult} (h : fault.isInterruption = false) :
      ComesTo (failed fault :: results) 1 (.failed fault { results })
  | interrupted {fault : Fault} {results : List ReadResult} {reads : Nat} {delivery : Delivery}
      (h : fault.isInterruption = true) (hmore : ComesTo results reads delivery) :
      ComesTo (failed fault :: results) (reads + 1) delivery

/-- One read for each result that is left, and one behind them, are always enough. -/
theorem exists_comesTo_deliver (results : List ReadResult) :
    ∃ reads ≤ results.length + 1, ComesTo results reads (deliver results) := by
  fun_induction deliver results with
  | case1 => exact ⟨1, by simp, .pastEnd⟩
  | case2 => exact ⟨1, by simp, .ended⟩
  | case3 => exact ⟨1, by simp, .byte⟩
  | case4 fault results h ih =>
    obtain ⟨reads, hreads, hcomes⟩ := ih
    refine ⟨reads + 1, ?_, .interrupted h hcomes⟩
    rw [List.length_cons]
    omega
  | case5 fault results h => exact ⟨1, by simp, .failed (by simpa using h)⟩

end ReadResult

/-! ## What a token shows -/

/-- Every limit leaves room for one byte. -/
theorem Settings.kept_ne_nil (settings : Settings) {bytes : List Byte} (h : bytes ≠ []) :
    settings.kept bytes ≠ [] := by
  unfold kept
  split
  · exact h
  · next limit _ =>
    intro hnil
    rcases List.take_eq_nil_iff.mp hnil with hzero | hbytes
    · have hpos := limit.bytes_pos
      omega
    · exact h hbytes

/-- Only a line comment can have a text without characters. -/
theorem Piece.value_token_ne_empty (settings : Settings) {piece : Piece} (h : piece.Proper)
    (hkind : piece.kind ≠ .lineComment) : (piece.token settings).value ≠ "" := by
  have hshown : piece.shown ≠ [] := by
    rw [← written_eq_shown hkind]
    exact h.1
  intro hvalue
  have hlength : (Byte.text (settings.kept piece.shown)).length = 0 := congrArg String.length hvalue
  rw [Byte.length_text, List.length_eq_zero_iff] at hlength
  exact settings.kept_ne_nil hshown hlength

namespace Scanner

variable {settings : Settings} {left : List Byte} {scanner : Scanner}

/-! ## Steps for one token -/

/-- A token is finished after a number of steps, with the scanner behind it. -/
inductive FinishesIn : Nat → Mode → Scanner → Token × Scanner → Prop
  | last {mode : Mode} {scanner next : Scanner} {token : Token}
      (h : (scanner.step mode).value = .finished token next) :
      FinishesIn 1 mode scanner (token, next)
  | more {steps : Nat} {mode mode' : Mode} {scanner next : Scanner} {result : Token × Scanner}
      (h : (scanner.step mode).value = .reading mode' next)
      (hmore : FinishesIn steps mode' next result) : FinishesIn (steps + 1) mode scanner result

/-- A step that does not finish the token consumes a byte, so one step for each byte that is left,
and one behind them, are always enough. -/
theorem exists_finishesIn (mode : Mode) (scanner : Scanner) :
    ∃ steps ≤ scanner.remaining.length + 1,
      FinishesIn steps mode scanner (scanner.finishing mode) := by
  induction hn : scanner.remaining.length using Nat.strongRecOn generalizing mode scanner with
  | ind n ih =>
    cases hstep : (scanner.step mode).value with
    | finished token next =>
      rw [finishing_of_finished hstep]
      exact ⟨1, by omega, .last hstep⟩
    | reading mode' next =>
      have hlt : next.remaining.length < n := hn ▸ remaining_step_lt hstep
      obtain ⟨steps, hsteps, hfinishes⟩ := ih _ hlt mode' next rfl
      rw [finishing_of_reading hstep]
      exact ⟨steps + 1, by omega, .more hstep hfinishes⟩

/-! ## What a token consumes -/

theorem exists_piece_of_next (h : IsAt settings [] left scanner)
    (htoken : scanner.next.1.token ≠ .endOfInput) :
    ∃ piece rest, nextPiece? left = some (piece, rest) ∧
      scanner.next.1.token = piece.token settings := by
  cases hnext : nextPiece? left with
  | none => exact absurd (next_of_none h hnext).1 htoken
  | some found => exact ⟨found.1, found.2, rfl, (next_of_some h hnext).1⟩

/-- A token other than the report of the end consumes bytes behind the blanks in front of it, and it
shows some of them unless it is a line comment. -/
theorem consumes_of_next (h : IsAt settings [] left scanner)
    (htoken : scanner.next.1.token ≠ .endOfInput) :
    Blank scanner.passage.gap ∧ scanner.passage.text ≠ [] ∧
      left = scanner.passage.gap ++ scanner.passage.text ++ scanner.next.2.remaining ∧
      (scanner.next.1.token.kind ≠ .lineComment → scanner.next.1.token.value ≠ "") := by
  obtain ⟨piece, rest, hnext, heq⟩ := exists_piece_of_next h htoken
  have hproper := proper_of_nextPiece? hnext
  refine ⟨?_, ?_, ?_, ?_⟩
  · rw [gap_passage h]
    exact blank_takeWhile left
  · rw [text_passage h hnext]
    exact hproper.1
  · have hsource := Passage.source_ahead_append settings left
    rw [← passage_eq h, ← (isAt_next h).remaining_eq] at hsource
    exact hsource.symm
  · rw [heq]
    intro hkind
    refine piece.value_token_ne_empty settings hproper ?_
    intro hcomment
    refine hkind ?_
    rw [Piece.kind_token_of_ne_keyword settings (by simp [hcomment]), hcomment]

/-! ## Tokens up to the end -/

/-- Collecting asks for one token after the other, and never for more than there are bytes left and
one. -/
theorem exists_collect_eq (scanner : Scanner) :
    ∃ calls ≤ scanner.remaining.length + 1,
      scanner.collect.value =
        ((List.range calls).map fun i => (scanner.after i).next.1.token, scanner.after calls) := by
  induction hn : scanner.remaining.length using Nat.strongRecOn generalizing scanner with
  | ind n ih =>
    by_cases hend : scanner.next.1.token.isEndOfInput = true
    · refine ⟨1, by omega, ?_⟩
      rw [collect, drain_eq scanner, if_pos hend]
      rfl
    · have hlt := remaining_next_lt (ne_endOfInput_of_not hend)
      rw [hn] at hlt
      obtain ⟨calls, hcalls, hcollect⟩ := ih _ hlt scanner.next.2 rfl
      refine ⟨calls + 1, by omega, ?_⟩
      have hcons : scanner.collect.value =
          (scanner.next.1.token :: scanner.next.2.collect.value.1,
            scanner.next.2.collect.value.2) := by
        rw [collect, drain_eq scanner, if_neg hend]
        rfl
      rw [hcons, hcollect, List.range_succ_eq_map, List.map_cons, List.map_map]
      rfl

/-- The tokens that are left are fewer than the bytes, or as many. -/
theorem exists_tokens_of_collect (h : IsAt settings [] left scanner) :
    ∃ tokens, scanner.collect.value.1 = tokens ++ [Token.endOfInput] ∧
      (∀ token ∈ tokens, token.isEndOfInput = false) ∧ scanner.rest.value.1 = tokens ∧
      tokens.length ≤ left.length ∧
      scanner.collect.value =
        ((List.range (tokens.length + 1)).map fun i => (scanner.after i).next.1.token,
          scanner.after (tokens.length + 1)) := by
  have htokens : scanner.collect.value.1 = tokensIn settings left ++ [Token.endOfInput] :=
    (value_collect h).1
  have hend : ∀ token ∈ tokensIn settings left, token.isEndOfInput = false :=
    fun token => isEndOfInput_of_mem_tokensIn
  obtain ⟨calls, hcalls, hcollect⟩ := exists_collect_eq scanner
  have hlength := congrArg (fun result => result.1.length) hcollect
  simp only [htokens, List.length_append, List.length_singleton, List.length_map,
    List.length_range] at hlength
  rw [h.remaining_eq] at hcalls
  have hrest : scanner.rest.value.1 =
      scanner.collect.value.1.filter fun token => !token.isEndOfInput := rfl
  rw [htokens, filter_tokensIn] at hrest
  exact ⟨tokensIn settings left, htokens, hend, hrest, by omega, by rw [hlength, hcollect]⟩

/-- **Every scan makes progress and comes to its end.**  Take any sequence of read results, with
interruptions anywhere among them, and any limit.

A demand for a byte is met after at most one read for each result that is left, and one more.
Wherever tokens are asked for, the next one is finished after at most one step for each byte that is
left, and one more.  A token other than the report of the end consumes at least one byte behind the
blanks that are skipped, and it shows at least one character unless it is a line comment.

All tokens that are left are one for each call, the report of the end last and nowhere else, and
iterating hands out the same tokens without it.  There are at most as many of them as there are bytes
left; at the start those are the delivered bytes. -/
theorem scan_progresses (settings : Settings) (results : List ReadResult) :
    let scanner := (start settings { results }).value
    scanner.remaining = ReadResult.delivered results ∧
    (∀ results, ∃ reads ≤ results.length + 1,
      ReadResult.ComesTo results reads (ReadResult.deliver results)) ∧
    ∀ now, Becomes scanner now →
      (∃ steps ≤ now.remaining.length + 1,
        FinishesIn steps .blanks now (now.next.1.token, now.next.2)) ∧
      (now.next.1.token ≠ .endOfInput →
        Blank now.passage.gap ∧ now.passage.text ≠ [] ∧
          now.remaining = now.passage.gap ++ now.passage.text ++ now.next.2.remaining ∧
          (now.next.1.token.kind ≠ .lineComment → now.next.1.token.value ≠ "")) ∧
      ∃ tokens, now.collect.value.1 = tokens ++ [Token.endOfInput] ∧
        (∀ token ∈ tokens, token.isEndOfInput = false) ∧ now.rest.value.1 = tokens ∧
        tokens.length ≤ now.remaining.length ∧
        now.collect.value =
          ((List.range (tokens.length + 1)).map fun i => (now.after i).next.1.token,
            now.after (tokens.length + 1)) := by
  intro scanner
  refine ⟨?_, ReadResult.exists_comesTo_deliver, ?_⟩
  · rw [(isAt_start settings { results }).remaining_eq, ReadResult.remaining_eq_delivered]
  · intro now hnow
    have hat := isAt_of_becomes_start hnow
    exact ⟨exists_finishesIn .blanks now, consumes_of_next hat, exists_tokens_of_collect hat⟩

end Scanner

end CcxLexis
