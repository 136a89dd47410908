import CcxLexis.ReservedWords
import CcxLexis.Scanner.Basic

/-!
# Steps of a scanner

A step looks at the byte at the cursor and either consumes it, remaining inside the current mode
or entering another one, or finishes the token.

A byte is kept before the next one is demanded, with two exceptions.  The opener `/*` is kept
after the byte behind it was demanded, and a star in a block comment is kept only after the byte
behind it was looked at.

A step that does not finish the token consumes at least one byte (`remaining_step_lt`), so a
token is finished after finitely many steps.
-/

namespace CcxLexis.Scanner

/-- What a finished run is.  A word that was cut is longer than every word it still shows, so
it is never taken for a reserved one. -/
def kindOfRun (scanner : Scanner) : Run → Kind
  | .word =>
    if !scanner.lexeme.truncated && isReserved scanner.lexeme.text then .keyword else .identifier
  | .number _ => .number
  | .operators => .operator
  | .lineComment => .lineComment

/-- A slash opens a comment together with a second slash or a star.  Otherwise it is an operator
by itself, and the byte after it is looked at afresh. -/
def stepSlash (scanner : Scanner) : Logged Progress := do
  let scanner ← scanner.lookFurther
  if scanner.cursor.following? = some Byte.slash then
    let scanner ← scanner.advance
    let scanner ← scanner.advance
    return .reading (.run .lineComment) scanner
  else if scanner.cursor.following? = some Byte.star then
    let scanner ← scanner.advance
    let scanner ← scanner.advance
    let scanner ← scanner.keep Byte.slash
    let scanner ← scanner.keep Byte.star
    return .reading .blockComment scanner
  else
    let scanner ← scanner.take Byte.slash
    return scanner.finish .operator

/-- Between tokens, the byte at the cursor decides what the next token is. -/
def stepBlanks (scanner : Scanner) : Logged Progress :=
  match scanner.cursor.current? with
  | none => pure (.finished Token.endOfInput scanner)
  | some byte =>
    if byte.isBlank then do
      return .reading .blanks (← scanner.advance)
    else if byte == Byte.slash then
      scanner.stepSlash
    else
      match Quotation.ofFirst? byte, Run.ofFirst? byte with
      | some quotation, _ => do
        return .reading (.quotation quotation) (← scanner.take byte)
      | none, some run => do
        return .reading (.run run) (← scanner.take byte)
      | none, none => do
        let scanner ← scanner.take byte
        .report (.unrecognisedByte byte)
        return scanner.finish .unknown

def stepRun (scanner : Scanner) (run : Run) : Logged Progress :=
  match scanner.cursor.current? with
  | none => pure (scanner.finish (scanner.kindOfRun run))
  | some byte =>
    match run.extend? byte with
    | some run => do
      return .reading (.run run) (← scanner.take byte)
    | none => pure (scanner.finish (scanner.kindOfRun run))

def stepQuotation (scanner : Scanner) (quotation : Quotation) : Logged Progress :=
  match scanner.cursor.current? with
  | none => do
    .report (.unterminatedLiteral quotation.kind scanner.lexeme.text)
    return scanner.finish .unknown
  | some byte => do
    let scanner ← scanner.take byte
    if byte == quotation.mark then return scanner.finish quotation.kind
    else return .reading (.quotation quotation) scanner

def stepBlockComment (scanner : Scanner) : Logged Progress :=
  match scanner.cursor.current? with
  | none => do
    .report (.unterminatedComment scanner.lexeme.text)
    return scanner.finish .unknown
  | some byte =>
    if byte == Byte.star then do
      let scanner ← scanner.lookFurther
      if scanner.cursor.following? = some Byte.slash then
        let scanner ← scanner.keep Byte.star
        let scanner ← scanner.keep Byte.slash
        let scanner ← scanner.advance
        let scanner ← scanner.advance
        return scanner.finish .blockComment
      else
        return .reading .blockComment (← scanner.take byte)
    else do
      return .reading .blockComment (← scanner.take byte)

/-- One step of a scanner. -/
def step (scanner : Scanner) : Mode → Logged Progress
  | .blanks => scanner.stepBlanks
  | .run run => scanner.stepRun run
  | .quotation quotation => scanner.stepQuotation quotation
  | .blockComment => scanner.stepBlockComment

/-! ## What a step leaves

A step that consumes nothing finishes the token, and between tokens the only such step reports
the end of the input. -/

theorem remaining_stepSlash_lt {scanner : Scanner} {byte : Byte}
    (h : scanner.cursor.current? = some byte) :
    scanner.stepSlash.value.scanner.remaining.length < scanner.remaining.length := by
  have hcurrent : scanner.lookFurther.value.cursor.current? = some byte :=
    (Cursor.current?_lookFurther scanner.cursor).trans h
  have htail := length_tail_remaining_lt h
  have htwo : scanner.remaining.tail.tail.length ≤ scanner.remaining.tail.length := by simp
  unfold stepSlash
  rw [Logged.value_bind]
  split
  · next hslash =>
    have hleft := remaining_advance_advance hcurrent hslash
    rw [remaining_lookFurther] at hleft
    simp only [Logged.value_bind, Logged.value_pure, Progress.scanner_reading, hleft]
    omega
  · split
    · next hstar =>
      have hleft := remaining_advance_advance hcurrent hstar
      rw [remaining_lookFurther] at hleft
      simp only [Logged.value_bind, Logged.value_pure, Progress.scanner_reading, remaining_keep,
        hleft]
      omega
    · have hleft := remaining_take hcurrent Byte.slash
      rw [remaining_lookFurther] at hleft
      simp only [Logged.value_bind, Logged.value_pure, remaining_finish, hleft]
      omega

theorem stepBlanks_cases (scanner : Scanner) :
    scanner.stepBlanks.value = .finished Token.endOfInput scanner ∨
      scanner.stepBlanks.value.scanner.remaining.length < scanner.remaining.length := by
  unfold stepBlanks
  split
  · exact .inl rfl
  · next byte h =>
    right
    have htail := length_tail_remaining_lt h
    split
    · simpa [remaining_advance h] using htail
    · split
      · exact remaining_stepSlash_lt h
      · split <;> simpa [remaining_take h] using htail

theorem stepRun_cases (scanner : Scanner) (run : Run) :
    (scanner.stepRun run).value = scanner.finish (scanner.kindOfRun run) ∨
      (scanner.stepRun run).value.scanner.remaining.length < scanner.remaining.length := by
  unfold stepRun
  split
  · exact .inl rfl
  · next byte h =>
    split
    · right
      simpa [remaining_take h] using length_tail_remaining_lt h
    · exact .inl rfl

theorem stepQuotation_cases (scanner : Scanner) (quotation : Quotation) :
    (scanner.stepQuotation quotation).value = scanner.finish .unknown ∨
      (scanner.stepQuotation quotation).value.scanner.remaining.length <
        scanner.remaining.length := by
  unfold stepQuotation
  split
  · exact .inl rfl
  · next byte h =>
    right
    rw [Logged.value_bind]
    split <;> simpa [remaining_take h] using length_tail_remaining_lt h

theorem stepBlockComment_cases (scanner : Scanner) :
    scanner.stepBlockComment.value = scanner.finish .unknown ∨
      scanner.stepBlockComment.value.scanner.remaining.length < scanner.remaining.length := by
  unfold stepBlockComment
  split
  · exact .inl rfl
  · next byte h =>
    right
    have htail := length_tail_remaining_lt h
    split
    · have hcurrent : scanner.lookFurther.value.cursor.current? = some byte :=
        (Cursor.current?_lookFurther scanner.cursor).trans h
      rw [Logged.value_bind]
      split
      · next hslash =>
        let kept := ((scanner.lookFurther.value.keep Byte.star).value.keep Byte.slash).value
        have hleft : kept.advance.value.advance.value.remaining = kept.remaining.tail.tail :=
          remaining_advance_advance hcurrent hslash
        have hsame : kept.remaining = scanner.remaining := remaining_lookFurther scanner
        have htwo : scanner.remaining.tail.tail.length ≤ scanner.remaining.tail.length := by simp
        simp only [Logged.value_bind, Logged.value_pure, remaining_finish, hleft, hsame, kept]
        omega
      · have hleft := remaining_take hcurrent byte
        rw [remaining_lookFurther] at hleft
        simpa [hleft] using htail
    · simpa [remaining_take h] using htail

/-- A step finishes a token without consuming anything, or it consumes. -/
theorem step_cases (scanner : Scanner) (mode : Mode) :
    (∃ token next, (scanner.step mode).value = .finished token next ∧
        next.remaining = scanner.remaining ∧ (mode = .blanks → token = Token.endOfInput)) ∨
      (scanner.step mode).value.scanner.remaining.length < scanner.remaining.length := by
  cases mode with
  | blanks =>
    exact (stepBlanks_cases scanner).imp_left fun h => ⟨_, _, h, rfl, fun _ => rfl⟩
  | run run =>
    exact (stepRun_cases scanner run).imp_left fun h =>
      ⟨_, { scanner with lexeme := Lexeme.empty }, h, rfl, nofun⟩
  | quotation quotation =>
    exact (stepQuotation_cases scanner quotation).imp_left fun h =>
      ⟨_, { scanner with lexeme := Lexeme.empty }, h, rfl, nofun⟩
  | blockComment =>
    exact (stepBlockComment_cases scanner).imp_left fun h =>
      ⟨_, { scanner with lexeme := Lexeme.empty }, h, rfl, nofun⟩

theorem remaining_step_lt {scanner next : Scanner} {mode mode' : Mode}
    (h : (scanner.step mode).value = .reading mode' next) :
    next.remaining.length < scanner.remaining.length := by
  rcases step_cases scanner mode with ⟨_, _, hfinished, _⟩ | hlt
  · rw [h] at hfinished
    cases hfinished
  · rwa [h] at hlt

theorem remaining_step_le {scanner next : Scanner} {mode : Mode} {token : Token}
    (h : (scanner.step mode).value = .finished token next) :
    next.remaining.length ≤ scanner.remaining.length := by
  rcases step_cases scanner mode with ⟨_, _, hfinished, hsame, _⟩ | hlt
  · rw [h] at hfinished
    cases hfinished
    exact Nat.le_of_eq (congrArg List.length hsame)
  · rw [h] at hlt
    exact Nat.le_of_lt hlt

theorem remaining_stepBlanks_lt {scanner next : Scanner} {token : Token}
    (h : (scanner.step .blanks).value = .finished token next) (htoken : token ≠ .endOfInput) :
    next.remaining.length < scanner.remaining.length := by
  rcases step_cases scanner .blanks with ⟨_, _, hfinished, _, hend⟩ | hlt
  · rw [h] at hfinished
    cases hfinished
    exact absurd (hend rfl) htoken
  · rwa [h] at hlt

end CcxLexis.Scanner
