import CcxLexis.Proofs.Progress
import CcxLexis.Proofs.Restart

/-!
# The lexeme at every moment

A step of a scanner is a few actions, one after the other: adding a byte to the lexeme, consuming a
byte, looking at the one behind it, reporting something, and clearing the lexeme where a token is
finished.  `Scanner.actions` lists the actions of a step in their order, and performing them is the
step (`performAll_actions`).

So scanning passes through more moments than there are steps.  `Passes` are all of them, and each
comes with the bytes that were added since the lexeme was last cleared.  A scanner does not hold these
bytes, since it drops what is over the limit.  They are written down beside it, by what each action
does to them, and nothing that a scanner does depends on them.

The text of the lexeme, the count and the mark for dropped bytes are three fields that must agree at
each of these moments, and `lexeme_agrees` says that they do.
-/

namespace CcxLexis

/-- The mode in which a scanner goes on. -/
def Progress.mode : Progress → Mode
  | .reading mode _ => mode
  | .finished _ _ => .blanks

namespace Scanner

/-! ## Steps as actions -/

/-- The single things that a scanner does. -/
inductive Action where
  | keep (byte : Byte)
  | advance
  | lookFurther
  | report (event : Event)
  | clear

namespace Action

def perform (scanner : Scanner) : Action → Logged Scanner
  | keep byte => scanner.keep byte
  | advance => scanner.advance
  | lookFurther => scanner.lookFurther
  | report event => do
    .report event
    return scanner
  | clear => pure { scanner with lexeme := Lexeme.empty }

/-- The bytes added since the lexeme was last cleared, after an action. -/
def added (bytes : List Byte) : Action → List Byte
  | keep byte => bytes ++ [byte]
  | clear => []
  | advance | lookFurther | report _ => bytes

end Action

/-- Performs actions one after the other. -/
def performAll (scanner : Scanner) (actions : List Action) : Logged Scanner :=
  actions.foldlM Action.perform scanner

/-- The bytes added since the lexeme was last cleared, after a sequence of actions. -/
def addedBy (bytes : List Byte) (actions : List Action) : List Byte :=
  actions.foldl Action.added bytes

def actionsSlash (scanner : Scanner) : List Action :=
  let ahead? := scanner.lookFurther.value.cursor.following?
  if ahead? = some Byte.slash then
    [.lookFurther, .advance, .advance]
  else if ahead? = some Byte.star then
    [.lookFurther, .advance, .advance, .keep Byte.slash, .keep Byte.star]
  else
    [.lookFurther, .keep Byte.slash, .advance, .clear]

def actionsBlanks (scanner : Scanner) : List Action :=
  match scanner.cursor.current? with
  | none => []
  | some byte =>
    if byte.isBlank then [.advance]
    else if byte == Byte.slash then scanner.actionsSlash
    else
      match Quotation.ofFirst? byte, Run.ofFirst? byte with
      | some _, _ => [.keep byte, .advance]
      | none, some _ => [.keep byte, .advance]
      | none, none => [.keep byte, .advance, .report (.unrecognisedByte byte), .clear]

def actionsRun (scanner : Scanner) (run : Run) : List Action :=
  match scanner.cursor.current? with
  | none => [.clear]
  | some byte =>
    match run.extend? byte with
    | some _ => [.keep byte, .advance]
    | none => [.clear]

def actionsQuotation (scanner : Scanner) (quotation : Quotation) : List Action :=
  match scanner.cursor.current? with
  | none => [.report (.unterminatedLiteral quotation.kind scanner.lexeme.text), .clear]
  | some byte =>
    if byte == quotation.mark then [.keep byte, .advance, .clear] else [.keep byte, .advance]

def actionsBlockComment (scanner : Scanner) : List Action :=
  match scanner.cursor.current? with
  | none => [.report (.unterminatedComment scanner.lexeme.text), .clear]
  | some byte =>
    if byte == Byte.star then
      if scanner.lookFurther.value.cursor.following? = some Byte.slash then
        [.lookFurther, .keep Byte.star, .keep Byte.slash, .advance, .advance, .clear]
      else
        [.lookFurther, .keep byte, .advance]
    else
      [.keep byte, .advance]

/-- The actions of a step, in their order. -/
def actions (scanner : Scanner) : Mode → List Action
  | .blanks => scanner.actionsBlanks
  | .run run => scanner.actionsRun run
  | .quotation quotation => scanner.actionsQuotation quotation
  | .blockComment => scanner.actionsBlockComment

section

variable (scanner : Scanner)

@[simp] theorem performAll_nil : scanner.performAll [] = pure scanner := rfl

@[simp] theorem performAll_cons (action : Action) (actions : List Action) :
    scanner.performAll (action :: actions) =
      action.perform scanner >>= fun next => next.performAll actions := rfl

theorem performAll_actionsSlash :
    scanner.performAll scanner.actionsSlash = Progress.scanner <$> scanner.stepSlash := by
  unfold actionsSlash stepSlash
  dsimp only
  split
  · next hslash => apply Logged.ext <;> simp [Action.perform, hslash]
  · next hslash =>
    split
    · next hstar =>
      have hne : Byte.star ≠ Byte.slash := by decide
      apply Logged.ext <;> simp [Action.perform, hstar, hne]
    · next hstar => apply Logged.ext <;> simp [Action.perform, hslash, hstar, take, finish]

theorem performAll_actionsBlanks :
    scanner.performAll scanner.actionsBlanks = Progress.scanner <$> scanner.stepBlanks := by
  unfold actionsBlanks stepBlanks
  cases scanner.cursor.current? with
  | none => rfl
  | some byte =>
    dsimp only
    split
    · simp [Action.perform]
    · split
      · exact scanner.performAll_actionsSlash
      · cases Quotation.ofFirst? byte with
        | some quotation => simp [Action.perform, take]
        | none => cases Run.ofFirst? byte <;> simp [Action.perform, take, finish]

theorem performAll_actionsRun (run : Run) :
    scanner.performAll (scanner.actionsRun run) = Progress.scanner <$> scanner.stepRun run := by
  unfold actionsRun stepRun
  cases scanner.cursor.current? with
  | none => rfl
  | some byte =>
    dsimp only
    cases run.extend? byte with
    | none => rfl
    | some run => simp [Action.perform, take]

theorem performAll_actionsQuotation (quotation : Quotation) :
    scanner.performAll (scanner.actionsQuotation quotation) =
      Progress.scanner <$> scanner.stepQuotation quotation := by
  unfold actionsQuotation stepQuotation
  cases scanner.cursor.current? with
  | none => rfl
  | some byte =>
    dsimp only
    split <;> simp [Action.perform, take, finish]

theorem performAll_actionsBlockComment :
    scanner.performAll scanner.actionsBlockComment =
      Progress.scanner <$> scanner.stepBlockComment := by
  unfold actionsBlockComment stepBlockComment
  cases scanner.cursor.current? with
  | none => rfl
  | some byte =>
    dsimp only
    split
    · split
      · next hslash => apply Logged.ext <;> simp [Action.perform, hslash, finish]
      · next hslash => apply Logged.ext <;> simp [Action.perform, hslash, take]
    · simp [Action.perform, take]

/-- Performing the actions of a step is the step: it leads to the same scanner, and reports the same
events in the same order. -/
theorem performAll_actions (mode : Mode) :
    scanner.performAll (scanner.actions mode) = Progress.scanner <$> scanner.step mode := by
  cases mode with
  | blanks => exact scanner.performAll_actionsBlanks
  | run run => exact scanner.performAll_actionsRun run
  | quotation quotation => exact scanner.performAll_actionsQuotation quotation
  | blockComment => exact scanner.performAll_actionsBlockComment

end

/-! ## Every moment of scanning -/

/-- The moments of scanning a source.  Each has the mode after the step that is under way, the actions
of that step that are still to come, the bytes added since the lexeme was last cleared, and the
scanner itself. -/
inductive Passes (settings : Settings) (reader : Reader) :
    Mode → List Action → List Byte → Scanner → Prop
  | start : Passes settings reader .blanks [] [] (Scanner.start settings reader).value
  | step {mode : Mode} {bytes : List Byte} {scanner : Scanner}
      (h : Passes settings reader mode [] bytes scanner) :
      Passes settings reader (scanner.step mode).value.mode (scanner.actions mode) bytes scanner
  | perform {mode : Mode} {action : Action} {actions : List Action} {bytes : List Byte}
      {scanner : Scanner} (h : Passes settings reader mode (action :: actions) bytes scanner) :
      Passes settings reader mode actions (action.added bytes) (action.perform scanner).value

variable {settings : Settings} {reader : Reader} {mode : Mode} {actions : List Action}
  {bytes : List Byte} {scanner later : Scanner}

namespace Passes

/-- A step that is under way comes to its end. -/
theorem performAll (h : Passes settings reader mode actions bytes scanner) :
    Passes settings reader mode [] (addedBy bytes actions) (scanner.performAll actions).value := by
  induction actions generalizing bytes scanner with
  | nil => exact h
  | cons action actions ih => exact ih h.perform

/-- Scanning passes from one step to the next. -/
theorem wholeStep (h : Passes settings reader mode [] bytes scanner) :
    Passes settings reader (scanner.step mode).value.mode [] (addedBy bytes (scanner.actions mode))
      (scanner.step mode).value.scanner := by
  have hend := h.step.performAll
  rwa [performAll_actions, Logged.value_map] at hend

theorem finishToken {sofar : Logged Scanner}
    (h : Passes settings reader mode [] bytes sofar.value) :
    ∃ bytes', Passes settings reader .blanks [] bytes' (finishToken mode sofar).value.2 := by
  fun_induction Scanner.finishToken mode sofar generalizing bytes with
  | case1 mode sofar token next events hstep =>
    have hnext := h.wholeStep
    rw [hstep] at hnext
    exact ⟨_, hnext⟩
  | case2 mode sofar mode' next events hstep ih =>
    have hnext := h.wholeStep
    rw [hstep] at hnext
    exact ih hnext

theorem after (settings : Settings) (reader : Reader) (count : Nat) :
    ∃ bytes, Passes settings reader .blanks [] bytes
      ((Scanner.start settings reader).value.after count) := by
  induction count with
  | zero => exact ⟨[], start⟩
  | succ count ih =>
    obtain ⟨bytes, h⟩ := ih
    rw [← after_after _ count 1]
    exact finishToken h

end Passes

/-! ## The lexeme at these moments -/

/-- A scanner whose lexeme holds what its settings keep of some bytes. -/
structure Holds (settings : Settings) (bytes : List Byte) (scanner : Scanner) : Prop where
  settings_eq : scanner.settings = settings
  lexeme_eq : scanner.lexeme = Lexeme.holding settings bytes

/-- Every action preserves that the lexeme holds what is kept of the bytes added. -/
theorem Holds.perform (h : Holds settings bytes scanner) (action : Action) :
    Holds settings (action.added bytes) (action.perform scanner).value := by
  cases action with
  | keep byte =>
    refine ⟨h.settings_eq, ?_⟩
    have hpush := Lexeme.value_push_holding settings bytes byte
    rw [← h.lexeme_eq, ← h.settings_eq] at hpush
    rw [← h.settings_eq]
    exact hpush
  | clear => exact ⟨h.settings_eq, (Lexeme.holding_nil settings).symm⟩
  | advance | lookFurther | report => exact ⟨h.settings_eq, h.lexeme_eq⟩

theorem Passes.holds (h : Passes settings reader mode actions bytes scanner) :
    Holds settings bytes scanner := by
  induction h with
  | start => exact ⟨rfl, (Lexeme.holding_nil settings).symm⟩
  | step _ ih => exact ih
  | perform _ ih => exact ih.perform _

/-! ## Between two tokens -/

theorem exists_after_of_becomes (h : Becomes scanner later) :
    ∃ count, later = scanner.after count := by
  induction h with
  | refl => exact ⟨0, rfl⟩
  | next _ ih | next? _ ih =>
    obtain ⟨count, rfl⟩ := ih
    exact ⟨count + 1, after_after scanner count 1⟩
  | collect _ ih | rest _ ih =>
    obtain ⟨count, rfl⟩ := ih
    obtain ⟨calls, -, hcollect⟩ := exists_collect_eq (scanner.after count)
    exact ⟨count + calls, (congrArg Prod.snd hcollect).trans (after_after scanner count calls)⟩

theorem peeked_of_becomes_start (h : Becomes (start settings reader).value scanner) :
    scanner.cursor.peeked = none := by
  obtain ⟨count, rfl⟩ := exists_after_of_becomes h
  exact peeked_after (Cursor.peeked_start reader) count

/-- Between two tokens no step is under way, and nothing was added since the last clearing. -/
theorem passes_of_becomes_start (h : Becomes (start settings reader).value scanner) :
    Passes settings reader .blanks [] [] scanner := by
  have hempty := (isAt_of_becomes_start h).lexeme_eq
  obtain ⟨count, rfl⟩ := exists_after_of_becomes h
  obtain ⟨bytes, hpasses⟩ := Passes.after settings reader count
  rw [hpasses.holds.lexeme_eq] at hempty
  have hstored : (settings.kept bytes).length = (settings.kept []).length :=
    congrArg Lexeme.stored hempty
  rw [settings.kept_nil] at hstored
  -- A lexeme that holds nothing was given nothing, since every limit leaves room for one byte.
  by_cases hbytes : bytes = []
  · rw [hbytes] at hpasses
    exact hpasses
  · exact absurd (List.length_eq_zero_iff.mp hstored) (settings.kept_ne_nil hbytes)

/-- **The fields of the lexeme agree at every moment.**  Take any source and any settings.  A step is
its actions, performed in their order, so the moments that scanning passes through are those between
two of them.  At each the count is the number of characters of the text.  Let bytes be the ones that
were added since the lexeme was last cleared.  Without a limit the text has one character for each of
them and nothing is marked as dropped.  Under a limit of `n` the count is at most `n`, the text has one
character for each of the first `n` of them, or for all of them if there are fewer, and the mark is
set exactly if there are more than `n`.

Between two tokens, however the tokens before were asked for, and at the start, nothing was added
since the lexeme was last cleared: its fields are those of an empty one, and no byte behind the one at
the cursor has been looked at. -/
theorem lexeme_agrees (settings : Settings) (reader : Reader) :
    (∀ mode scanner,
      Progress.scanner <$> step scanner mode = scanner.performAll (scanner.actions mode)) ∧
    (∀ mode actions bytes scanner, Passes settings reader mode actions bytes scanner →
      scanner.lexeme.stored = scanner.lexeme.text.length ∧
        match settings.maxLexeme with
        | none => scanner.lexeme.text = Byte.text bytes ∧ scanner.lexeme.truncated = false
        | some limit =>
          scanner.lexeme.stored ≤ limit.bytes ∧
            scanner.lexeme.text = Byte.text (bytes.take (min limit.bytes bytes.length)) ∧
            (scanner.lexeme.truncated = true ↔ limit.bytes < bytes.length)) ∧
    ∀ scanner, Becomes (start settings reader).value scanner →
      Passes settings reader .blanks [] [] scanner ∧
        scanner.lexeme = { text := "", stored := 0, truncated := false } ∧
        scanner.cursor.peeked = none := by
  refine ⟨fun mode scanner => (scanner.performAll_actions mode).symm, ?_, ?_⟩
  · intro mode actions bytes scanner h
    rw [h.holds.lexeme_eq]
    refine ⟨(Byte.length_text _).symm, ?_⟩
    obtain ⟨_ | limit⟩ := settings
    · exact ⟨rfl, rfl⟩
    · refine ⟨List.length_take_le .., ?_, decide_eq_true_iff⟩
      rw [← List.take_eq_take_min]
      rfl
  · intro scanner h
    have hempty := (isAt_of_becomes_start h).lexeme_eq
    rw [Lexeme.holding_nil] at hempty
    exact ⟨passes_of_becomes_start h, hempty, peeked_of_becomes_start h⟩

end Scanner

end CcxLexis
