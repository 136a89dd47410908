import CcxLexis.Scanner.Step

/-!
# Tokens as a scanner hands them out

A token is finished by steps that start between two tokens.  It is handed out with the events
reported since the token before it, the report of the token itself last.

Every token but the one that reports the end consumes at least one byte
(`remaining_next_lt`), so a source has finitely many tokens.
-/

namespace CcxLexis.Scanner

/-- Steps until the token is finished.  The events reported so far come first. -/
def finishToken (mode : Mode) (sofar : Logged Scanner) : Logged (Token × Scanner) :=
  match _hstep : sofar.value.step mode with
  | ⟨.finished token next, events⟩ => ⟨(token, next), sofar.events ++ events⟩
  | ⟨.reading mode next, events⟩ => finishToken mode ⟨next, sofar.events ++ events⟩
termination_by sofar.value.remaining.length
decreasing_by
  exact remaining_step_lt (congrArg Logged.value _hstep)

theorem finishToken_of_finished {mode : Mode} {sofar : Logged Scanner} {token : Token}
    {next : Scanner} (h : (sofar.value.step mode).value = .finished token next) :
    finishToken mode sofar = ⟨(token, next), sofar.events ++ (sofar.value.step mode).events⟩ := by
  rw [finishToken]
  split
  · next _ _ _ hstep =>
    rw [hstep] at h
    cases h
    rw [hstep]
  · next _ _ _ hstep =>
    rw [hstep] at h
    cases h

theorem finishToken_of_reading {mode mode' : Mode} {sofar : Logged Scanner} {next : Scanner}
    (h : (sofar.value.step mode).value = .reading mode' next) :
    finishToken mode sofar =
      finishToken mode' ⟨next, sofar.events ++ (sofar.value.step mode).events⟩ := by
  rw [finishToken]
  split
  · next _ _ _ hstep =>
    rw [hstep] at h
    cases h
  · next _ _ _ hstep =>
    rw [hstep] at h
    cases h
    rw [hstep]

/-- Events reported before change nothing about the steps to come. -/
theorem finishToken_eq (mode : Mode) (sofar : Logged Scanner) :
    finishToken mode sofar = sofar >>= fun scanner => finishToken mode (pure scanner) := by
  induction hn : sofar.value.remaining.length using Nat.strongRecOn generalizing mode sofar with
  | ind n ih =>
    obtain ⟨scanner, before⟩ := sofar
    change finishToken mode ⟨scanner, before⟩ =
      ⟨(finishToken mode ⟨scanner, []⟩).value, before ++ (finishToken mode ⟨scanner, []⟩).events⟩
    cases hstep : (scanner.step mode).value with
    | finished token next =>
      have hhere (events : List Event) : finishToken mode ⟨scanner, events⟩ =
          ⟨(token, next), events ++ (scanner.step mode).events⟩ :=
        finishToken_of_finished hstep
      rw [hhere, hhere]
      rfl
    | reading mode' next =>
      have hlt : next.remaining.length < n := hn ▸ remaining_step_lt hstep
      have hhere (events : List Event) : finishToken mode ⟨scanner, events⟩ =
          finishToken mode' ⟨next, events ++ (scanner.step mode).events⟩ :=
        finishToken_of_reading hstep
      rw [hhere, hhere, ih _ hlt mode' ⟨next, before ++ _⟩ rfl, ih _ hlt mode' ⟨next, [] ++ _⟩ rfl]
      change Logged.mk _ _ = Logged.mk _ _
      simp only [Logged.value_bind, Logged.events_bind, List.nil_append, List.append_assoc]

theorem remaining_finishToken_le (mode : Mode) (sofar : Logged Scanner) :
    (finishToken mode sofar).value.2.remaining.length ≤ sofar.value.remaining.length := by
  fun_induction finishToken mode sofar with
  | case1 mode sofar token next events h =>
    exact remaining_step_le (congrArg Logged.value h)
  | case2 mode sofar mode' next events h ih =>
    exact Nat.le_trans ih (Nat.le_of_lt (remaining_step_lt (congrArg Logged.value h)))

theorem remaining_finishToken_lt (mode : Mode) (sofar : Logged Scanner)
    (hmode : mode = .blanks) (htoken : (finishToken mode sofar).value.1 ≠ .endOfInput) :
    (finishToken mode sofar).value.2.remaining.length < sofar.value.remaining.length := by
  fun_induction finishToken mode sofar with
  | case1 mode sofar token next events h =>
    subst hmode
    exact remaining_stepBlanks_lt (congrArg Logged.value h) htoken
  | case2 mode sofar mode' next events h ih =>
    exact Nat.lt_of_le_of_lt (remaining_finishToken_le mode' ⟨next, _⟩)
      (remaining_step_lt (congrArg Logged.value h))

/-- A token as a scanner hands it out, with the events reported since the token before it. -/
structure Scanned where
  token : Token
  events : List Event
deriving DecidableEq, Repr

/-- The next token.  Once the source is used up, every further token reports the end. -/
def next (scanner : Scanner) : Scanned × Scanner :=
  let result := finishToken .blanks (pure scanner)
  let token := result.value.1
  ({ token, events := result.events ++ [.scanned token.kind token.value] }, result.value.2)

/-- Every token but the one that reports the end consumes something. -/
theorem remaining_next_lt {scanner : Scanner} (h : scanner.next.1.token ≠ .endOfInput) :
    scanner.next.2.remaining.length < scanner.remaining.length :=
  remaining_finishToken_lt .blanks (pure scanner) rfl h

end CcxLexis.Scanner
