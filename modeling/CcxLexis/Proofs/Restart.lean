import CcxLexis.Proofs.Failure

/-!
# A scanner between tokens can be replaced by a fresh one

Between two tokens a scanner carries nothing over but its settings and its place in the source.  So
it can be given up there: a fresh scanner with the same settings, started on the bytes that are not
consumed yet and on the same end or failure behind them, hands out the same tokens from then on and
reports the same failure at the same points.

`Scanner.token_after` and `Scanner.failure?_after` say what a scanner does after any number of
tokens as a function of the delivered bytes and of the failure that stops them.  The reads
themselves are in neither.
-/

namespace CcxLexis

/-! ## A source in one portion -/

namespace ReadResult

/-- Reads that deliver the given bytes in one portion and stop behind them, with the failure if one
is given.  No portion is delivered where there are no bytes, since an empty one is an end. -/
def delivering (bytes : List Byte) (stop? : Option Fault) : List ReadResult :=
  (if bytes = [] then [] else [portion bytes]) ++ stop?.toList.map failed

/-- A failure that stops a source is no interruption. -/
theorem isInterruption_of_stopFault? {results : List ReadResult} {fault : Fault}
    (h : stopFault? results = some fault) : fault.isInterruption = false := by
  obtain ⟨result, hfind, hfault⟩ := Option.bind_eq_some_iff.mp h
  have hstop := List.find?_some hfind
  cases result with
  | portion bytes => cases hfault
  | failed fault' =>
    obtain rfl := Option.some.inj hfault
    simpa [isStop] using hstop

section

variable (bytes : List Byte) {stop? : Option Fault}
  (h : ∀ fault, stop? = some fault → fault.isInterruption = false)

include h

theorem delivered_delivering : delivered (delivering bytes stop?) = bytes := by
  cases stop? with
  | none => cases bytes <;> simp [delivering, delivered, isStop, payload]
  | some fault => cases bytes <;> simp [delivering, delivered, isStop, payload, h fault rfl]

theorem stopFault?_delivering : stopFault? (delivering bytes stop?) = stop? := by
  cases stop? with
  | none => cases bytes <;> simp [delivering, stopFault?, isStop]
  | some fault => cases bytes <;> simp [delivering, stopFault?, isStop, fault?, h fault rfl]

end

end ReadResult

namespace Scanner

open Cursor ReadResult

variable (settings : Settings) (results : List ReadResult) (count : Nat)

theorem isAt_after_start :
    IsAt settings [] (pastPiece^[count] (delivered results))
      ((start settings { results }).value.after count) := by
  have hstart := isAt_start settings { results }
  rw [remaining_eq_delivered] at hstart
  exact isAt_after hstart count

theorem token_after :
    ((start settings { results }).value.after count).next.1.token =
      tokenAhead settings (pastPiece^[count] (delivered results)) :=
  token_next (isAt_after_start settings results count)

theorem failure?_after :
    ((start settings { results }).value.after count).failure? =
      if pastPiece^[count] (delivered results) = [] then stopFault? results else none := by
  have hbecomes := becomes_after (start settings { results }).value count
  have hpeeked : ((start settings { results }).value.after count).cursor.peeked = none :=
    peeked_after (peeked_start { results }) count
  have hmisses := missesByteIfFailed_of_moves (missesByteIfFailed_start { results })
    (moves_of_becomes hbecomes)
  rw [failure?_eq_of_peeked hpeeked hmisses, outcome_of_becomes_start hbecomes,
    (isAt_after_start settings results count).remaining_eq]

theorem after_after (scanner : Scanner) (count more : Nat) :
    (scanner.after count).after more = scanner.after (count + more) := by
  rw [after, after, after, Nat.add_comm, Function.iterate_add_apply]

/-- **A scanner between tokens can be replaced by a fresh one.**  For every sequence of read results
and every number of tokens already handed out, let the rest be the delivered bytes that are not
consumed yet.  A scanner that is started on the rest, with the same settings and the same end or
failure behind it, hands out the tokens that the old scanner goes on with, and reports the same
failure before the first of them and after each. -/
theorem after_eq_start_on_rest :
    let scanner := (start settings { results }).value
    let rest := (delivered results).drop (scanner.consumed count).length
    let fresh := (start settings { results := delivering rest (stopFault? results) }).value
    delivered results = scanner.consumed count ++ rest ∧
      ∀ more,
        ((scanner.after count).after more).next.1.token = (fresh.after more).next.1.token ∧
          ((scanner.after count).after more).failure? = (fresh.after more).failure? := by
  intro scanner rest fresh
  have hconsumed : scanner.consumed count ++ pastPiece^[count] (delivered results) =
      delivered results :=
    consumed_append (isAt_after_start settings results 0) count
  have hrest : rest = pastPiece^[count] (delivered results) := by
    simp only [rest]
    nth_rewrite 1 [← hconsumed]
    exact List.drop_left
  have hfault : ∀ fault, stopFault? results = some fault → fault.isInterruption = false :=
    fun fault => isInterruption_of_stopFault?
  refine ⟨by rw [hrest, hconsumed], fun more => ?_⟩
  have hbehind : pastPiece^[count + more] (delivered results) = pastPiece^[more] rest := by
    rw [hrest, ← Function.iterate_add_apply, Nat.add_comm]
  rw [after_after]
  constructor
  · rw [token_after, token_after, delivered_delivering rest hfault, hbehind]
  · rw [failure?_after, failure?_after, delivered_delivering rest hfault,
      stopFault?_delivering rest hfault, hbehind]

end Scanner

end CcxLexis
