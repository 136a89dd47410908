import CcxLexis.Proofs.Passage
import CcxLexis.Proofs.Schedule

/-!
# When a failure shows

A failure of the source shows as soon as everything in front of it is consumed, and no sooner.  So
at the boundary of two tokens exactly one byte past the consumed ones has been demanded.

Two invariants carry this.  A cursor that has failed misses a byte, at the position or behind it
(`Cursor.MissesByteIfFailed`), since a failing demand hands out none.  And between tokens nothing
is peeked at (`Scanner.peeked_after`): looking further inside a token is always followed by
consuming the byte that was looked past.  Together they leave only the position for the missing
byte, and there a byte is missing exactly when nothing is left.
-/

namespace CcxLexis

namespace Cursor

/-! ## A cursor that has failed -/

variable {cursor after : Cursor} {fault : Fault}

theorem demand_of_failure? (h : cursor.failure? = some fault) :
    cursor.demand = pure (none, cursor) := by
  rw [demand, h]

/-- A demand after which the source has failed hands out no byte. -/
theorem eq_none_of_failure?_demand (h : cursor.demand.value.2.failure? ≠ none) :
    cursor.demand.value.1 = none := by
  obtain ⟨current, peeked, failure, reader⟩ := cursor
  cases failure with
  | some fault => rfl
  | none =>
    unfold demand at h ⊢
    dsimp only at h ⊢
    cases hnext : reader.next with
    | byte byte rest =>
      rw [hnext] at h
      exact absurd rfl h
    | ended rest => rfl
    | failed fault rest => rfl

/-- No move takes a failure back. -/
theorem failure?_of_moves (h : cursor.failure? = some fault) (hmoves : Moves cursor after) :
    after.failure? = some fault := by
  induction hmoves with
  | refl => exact h
  | @tail middle after _ hmove ih =>
    have hdemand := demand_of_failure? ih
    cases hmove with
    | lookFurther _ =>
      cases hpeeked : middle.peeked with
      | some byte => simpa [lookFurther, hpeeked] using ih
      | none => simpa [lookFurther, hpeeked, hdemand] using ih
    | advance _ =>
      cases hpeeked : middle.peeked with
      | some byte => simpa [advance, hpeeked] using ih
      | none => simpa [advance, hpeeked, hdemand] using ih

/-- If the source has failed, a byte is missing at the cursor or right behind it. -/
def MissesByteIfFailed (cursor : Cursor) : Prop :=
  cursor.failure? ≠ none → cursor.current? = none ∨ cursor.peeked = some none

theorem missesByteIfFailed_start (reader : Reader) : (start reader).value.MissesByteIfFailed := by
  intro hfailed
  exact .inl (eq_none_of_failure?_demand hfailed)

theorem missesByteIfFailed_lookFurther (h : cursor.MissesByteIfFailed) :
    cursor.lookFurther.value.MissesByteIfFailed := by
  cases hpeeked : cursor.peeked with
  | some byte => simpa [lookFurther, hpeeked] using h
  | none =>
    intro hfailed
    simp only [lookFurther, hpeeked, Logged.value_bind, Logged.value_pure] at hfailed ⊢
    exact .inr (congrArg some (eq_none_of_failure?_demand hfailed))

theorem missesByteIfFailed_advance (hcurrent : cursor.current? ≠ none)
    (h : cursor.MissesByteIfFailed) : cursor.advance.value.MissesByteIfFailed := by
  intro hfailed
  left
  cases hpeeked : cursor.peeked with
  | some byte =>
    simp only [advance, hpeeked, Logged.value_pure] at hfailed ⊢
    have hmissing := (h hfailed).resolve_left hcurrent
    rw [hpeeked] at hmissing
    exact Option.some.inj hmissing
  | none =>
    simp only [advance, hpeeked, Logged.value_bind, Logged.value_pure] at hfailed ⊢
    exact eq_none_of_failure?_demand hfailed

theorem missesByteIfFailed_of_moves (h : cursor.MissesByteIfFailed) (hmoves : Moves cursor after) :
    after.MissesByteIfFailed := by
  induction hmoves with
  | refl => exact h
  | tail _ hmove ih =>
    cases hmove with
    | lookFurther _ => exact missesByteIfFailed_lookFurther ih
    | advance hcurrent => exact missesByteIfFailed_advance hcurrent ih

/-! ## What is peeked at -/

@[simp]
theorem peeked_advance (cursor : Cursor) : cursor.advance.value.peeked = none := by
  unfold advance
  split <;> rfl

theorem peeked_start (reader : Reader) : (start reader).value.peeked = none :=
  peeked_demand { reader }

theorem peeked_of_consumes (h : cursor.peeked = none) (hconsumes : Consumes cursor after) :
    after.peeked = none := by
  cases hconsumes with
  | nothing => exact h
  | upTo _ _ => exact peeked_advance _

end Cursor

namespace Scanner

open Cursor

variable {scanner : Scanner}

theorem peeked_finishToken (mode : Mode) (sofar : Logged Scanner)
    (h : sofar.value.cursor.peeked = none) :
    (finishToken mode sofar).value.2.cursor.peeked = none := by
  fun_induction finishToken mode sofar with
  | case1 mode sofar token next events hstep =>
    have hpeeked := peeked_of_consumes h (consumes_step _ mode)
    rwa [hstep] at hpeeked
  | case2 mode sofar mode' next events hstep ih =>
    have hpeeked := peeked_of_consumes h (consumes_step _ mode)
    rw [hstep] at hpeeked
    exact ih hpeeked

/-- Between tokens nothing is peeked at. -/
theorem peeked_after (h : scanner.cursor.peeked = none) (count : Nat) :
    (scanner.after count).cursor.peeked = none := by
  induction count generalizing scanner with
  | zero => exact h
  | succ count ih => exact ih (peeked_finishToken .blanks (pure scanner) h)

theorem becomes_after (scanner : Scanner) (count : Nat) :
    Becomes scanner (scanner.after count) := by
  induction count with
  | zero => exact .refl
  | succ count ih =>
    rw [after, Function.iterate_succ_apply']
    exact .next ih

/-- Between tokens a failure shows exactly when nothing is left of the source. -/
theorem failure?_eq_of_peeked (hpeeked : scanner.cursor.peeked = none)
    (hmisses : scanner.cursor.MissesByteIfFailed) :
    scanner.failure? = if scanner.remaining = [] then scanner.cursor.outcome.2 else none := by
  cases hcurrent : scanner.cursor.current? with
  | none =>
    have hleft : scanner.remaining = [] := by rw [remaining, Cursor.remaining, hcurrent]
    simp [hleft, outcome, hcurrent, failure?]
  | some byte =>
    have hleft : scanner.remaining ≠ [] := by
      rw [remaining_of_current? hcurrent]
      exact List.cons_ne_nil _ _
    rw [if_neg hleft]
    by_contra hfailed
    rcases hmisses hfailed with hnone | hnone
    · rw [hcurrent] at hnone
      cases hnone
    · rw [hpeeked] at hnone
      cases hnone

/-- **A failure shows when the source in front of it is consumed.**  For every sequence of read
results, after the start and any number of tokens, the scanner reports the failure that stops the
source if the tokens so far, with the blanks skipped for them, take up all delivered bytes, and
reports none otherwise.  Without such a failure none is ever reported.  Giving the scanner up hands
over what it reports, and once a failure is reported it stays, however more tokens are asked for. -/
theorem failure_when_consumed (settings : Settings) (results : List ReadResult) (count : Nat) :
    let scanner := (start settings { results }).value
    let now := scanner.after count
    now.failure? =
        (if (scanner.consumed count).length = (ReadResult.delivered results).length then
          ReadResult.stopFault? results
        else none) ∧
      now.finishScan =
        (match now.failure? with
        | some fault => .error (.readFailed fault)
        | none => .ok ()) ∧
      ∀ fault, now.failure? = some fault →
        ∀ later, Becomes now later → later.failure? = some fault := by
  dsimp only
  have hstart := isAt_start settings { results }
  rw [ReadResult.remaining_eq_delivered] at hstart
  have hbecomes := becomes_after (start settings { results }).value count
  refine ⟨?_, rfl, ?_⟩
  · have hpeeked : ((start settings { results }).value.after count).cursor.peeked = none :=
      peeked_after (peeked_start { results }) count
    have hmisses := missesByteIfFailed_of_moves (missesByteIfFailed_start { results })
      (moves_of_becomes hbecomes)
    rw [failure?_eq_of_peeked hpeeked hmisses, outcome_of_becomes_start hbecomes]
    rw [(isAt_after hstart count).remaining_eq]
    exact if_congr (length_consumed_eq_iff hstart count).symm rfl rfl
  · intro fault hfault later hlater
    exact failure?_of_moves hfault (moves_of_becomes hlater)

/-- A blank behind the first token is not consumed with it, so what follows the blank does not show
yet. -/
example :
    let scanner := (start {} { results := [.portion [0x61, 0x20], .failed (.system 5)] }).value
    (scanner.after 1).failure? = none ∧ (scanner.after 2).failure? = some (.system 5) := by
  constructor <;> cbv

end Scanner

end CcxLexis
