import CcxLexis.Proofs.Reading

/-!
# What is reported while a token is read

While a token is read, warnings are reported: that its lexeme is cut, and that reading has failed.
They are accounted for by the state of a scanner.  `Scanner.warned` lists the warnings that must
have been reported for a scanner to be as it is, and `Scanner.Warns` says that moves report just
what the state after them has in addition.  This is kept from move to move by composition alone
(`Warns.bind`), so neither warning is ever repeated, however long a lexeme is.

Steps inside a token report nothing else until the token is finished (`Scanner.Progresses`), and
what is then said of a malformed token comes behind all warnings (`Scanner.tells_inside`).
-/

namespace CcxLexis

/-! ## Warnings and the state of a scanner -/

/-- The report of the failure that has stopped a source, if one has. -/
def failureReport (failure? : Option Fault) : List Event :=
  failure?.toList.map .readFailed

namespace Cursor

variable (cursor : Cursor)

theorem failureReport_demand :
    failureReport cursor.failure? ++ cursor.demand.events =
      failureReport cursor.demand.value.2.failure? := by
  obtain ⟨current, peeked, failure, reader⟩ := cursor
  cases failure with
  | some fault => rfl
  | none =>
    unfold demand
    dsimp only
    cases reader.next <;> rfl

theorem failureReport_lookFurther :
    failureReport cursor.failure? ++ cursor.lookFurther.events =
      failureReport cursor.lookFurther.value.failure? := by
  unfold lookFurther
  split
  · exact List.append_nil _
  · rw [Logged.events_bind, Logged.events_pure, List.append_nil]
    exact failureReport_demand cursor

theorem failureReport_advance :
    failureReport cursor.failure? ++ cursor.advance.events =
      failureReport cursor.advance.value.failure? := by
  unfold advance
  split
  · exact List.append_nil _
  · rw [Logged.events_bind, Logged.events_pure, List.append_nil]
    exact failureReport_demand cursor

end Cursor

namespace Scanner

variable {settings : Settings} {scanner : Scanner} {moved : Logged Scanner}

/-- The warnings that account for the state of a scanner: that its lexeme is cut, and that its
source has failed. -/
def warned (scanner : Scanner) : List Event :=
  (if scanner.lexeme.truncated then scanner.settings.maxLexeme.toList.map .lexemeTruncated
    else []) ++ failureReport scanner.failure?

/-- Moves that report the warnings that the state after them has in addition, and nothing else. -/
def Warns (scanner : Scanner) (moved : Logged Scanner) : Prop :=
  (scanner.warned ++ moved.events).Perm moved.value.warned

theorem Warns.refl (scanner : Scanner) : scanner.Warns (pure scanner) :=
  .of_eq (List.append_nil _)

theorem Warns.bind {f : Scanner → Logged Scanner} (h : scanner.Warns moved)
    (hf : moved.value.Warns (f moved.value)) : scanner.Warns (moved >>= f) := by
  rw [Warns, Logged.events_bind, ← List.append_assoc]
  exact (h.append_right _).trans hf

/-- Moves that leave the lexeme as it is report the failure that shows after them. -/
theorem warns_of_lexeme_eq (hsettings : moved.value.settings = scanner.settings)
    (hlexeme : moved.value.lexeme = scanner.lexeme)
    (hfailure : failureReport scanner.failure? ++ moved.events =
      failureReport moved.value.failure?) : scanner.Warns moved := by
  rw [Warns, warned, warned, hsettings, hlexeme, List.append_assoc, hfailure]

theorem warns_lookFurther (scanner : Scanner) : scanner.Warns scanner.lookFurther := by
  refine warns_of_lexeme_eq rfl rfl ?_
  rw [lookFurther, Logged.events_bind, Logged.events_pure, List.append_nil]
  exact Cursor.failureReport_lookFurther scanner.cursor

theorem warns_advance (scanner : Scanner) : scanner.Warns scanner.advance := by
  refine warns_of_lexeme_eq rfl rfl ?_
  rw [advance, Logged.events_bind, Logged.events_pure, List.append_nil]
  exact Cursor.failureReport_advance scanner.cursor

/-- A byte is dropped with a warning if it is the first, and otherwise nothing is reported. -/
theorem warns_keep (scanner : Scanner) (byte : Byte) : scanner.Warns (scanner.keep byte) := by
  obtain ⟨⟨_ | limit⟩, cursor, lexeme⟩ := scanner
  · exact .of_eq (List.append_nil _)
  · by_cases hroom : lexeme.stored < limit.bytes
    · simp [Warns, warned, keep, Lexeme.push, Lexeme.store, hroom, failure?]
    · cases htruncated : lexeme.truncated with
      | true => simp [Warns, warned, keep, Lexeme.push, hroom, htruncated, failure?]
      | false =>
        simp [Warns, warned, keep, Lexeme.push, hroom, htruncated, failure?,
          List.perm_append_singleton]

theorem warns_take (scanner : Scanner) (byte : Byte) : scanner.Warns (scanner.take byte) :=
  (warns_keep scanner byte).bind (warns_advance _)

end Scanner

/-! ## Steps inside a token -/

/-- What is reported of a token that is not closed when the source ends, by what the scanner is then
in the middle of. -/
def Mode.complaint (mode : Mode) (text : String) : List Event :=
  match mode with
  | .quotation opened => [.unterminatedLiteral opened.kind text]
  | .blockComment => [.unterminatedComment text]
  | .blanks => []
  | .run _ => []

namespace Scanner

variable {settings : Settings} {whole : List Byte} {scanner : Scanner} {byte : Byte}

/-- A scanner inside a token: the bytes that the token has taken so far, and those that are left,
make up the given bytes. -/
def Amid (settings : Settings) (whole : List Byte) (scanner : Scanner) : Prop :=
  ∃ taken left, IsAt settings taken left scanner ∧ taken ++ left = whole

theorem Amid.lookFurther (h : Amid settings whole scanner) :
    Amid settings whole scanner.lookFurther.value := by
  obtain ⟨taken, left, hat, hwhole⟩ := h
  exact ⟨taken, left, hat.lookFurther, hwhole⟩

theorem Amid.take (h : Amid settings whole scanner)
    (hcurrent : scanner.cursor.current? = some byte) :
    Amid settings whole (scanner.take byte).value := by
  obtain ⟨taken, left, hat, rfl⟩ := h
  rw [hat.current?_eq] at hcurrent
  obtain ⟨left, rfl⟩ := List.head?_eq_some_iff.mp hcurrent
  exact ⟨_, left, hat.take byte, by simp⟩

/-- What a step inside a token does.  It moves on, with no reports but warnings, and either stays
inside the token or finishes it.  Only a malformed token is complained of. -/
inductive Progresses (settings : Settings) (whole : List Byte) (mode : Mode) (scanner : Scanner)
    (step : Logged Progress) : Prop
  | reading (next : Mode) (moved : Logged Scanner)
      (warns : scanner.Warns moved) (amid : Amid settings whole moved.value)
      (inside : next ≠ .blanks ∧ next.complaint = mode.complaint)
      (step_eq : step = Progress.reading next <$> moved)
  | finished (kind : Kind) (moved : Logged Scanner)
      (warns : scanner.Warns moved) (amid : Amid settings whole moved.value)
      (step_eq : step = moved >>= fun now =>
        ⟨now.finish kind, if kind = .unknown then mode.complaint now.lexeme.text else []⟩)

theorem progresses_stepRun (h : Amid settings whole scanner) (run : Run) :
    Progresses settings whole (.run run) scanner (scanner.stepRun run) := by
  have hfinished : Progresses settings whole (.run run) scanner
      (pure (scanner.finish (scanner.kindOfRun run))) :=
    .finished (scanner.kindOfRun run) (pure scanner) (.refl scanner) h
      (by apply Logged.ext <;> simp [Mode.complaint])
  unfold stepRun
  split
  · exact hfinished
  · next byte hcurrent =>
    split
    · next next _ =>
      exact .reading (.run next) (scanner.take byte) (warns_take scanner byte) (h.take hcurrent)
        ⟨by simp, rfl⟩ rfl
    · exact hfinished

theorem progresses_stepQuotation (h : Amid settings whole scanner) (quotation : Quotation) :
    Progresses settings whole (.quotation quotation) scanner (scanner.stepQuotation quotation) := by
  unfold stepQuotation
  split
  · exact .finished .unknown (pure scanner) (.refl scanner) h
      (by apply Logged.ext <;> simp [Mode.complaint])
  · next byte hcurrent =>
    have hwarns := warns_take scanner byte
    have hamid := h.take hcurrent
    by_cases hmark : byte = quotation.mark
    · have hkind : quotation.kind ≠ .unknown := by cases quotation <;> decide
      exact .finished quotation.kind (scanner.take byte) hwarns hamid
        (by apply Logged.ext <;> simp [hmark, hkind])
    · exact .reading (.quotation quotation) (scanner.take byte) hwarns hamid ⟨by simp, rfl⟩
        (by apply Logged.ext <;> simp [hmark])

theorem progresses_stepBlockComment (h : Amid settings whole scanner) :
    Progresses settings whole .blockComment scanner scanner.stepBlockComment := by
  unfold stepBlockComment
  split
  · exact .finished .unknown (pure scanner) (.refl scanner) h
      (by apply Logged.ext <;> simp [Mode.complaint])
  · next byte hcurrent =>
    by_cases hstar : byte = Byte.star
    · subst hstar
      have hlooked := warns_lookFurther scanner
      have hcurrent' : scanner.lookFurther.value.cursor.current? = some Byte.star :=
        (Cursor.current?_lookFurther scanner.cursor).trans hcurrent
      by_cases hslash : scanner.lookFurther.value.cursor.following? = some Byte.slash
      · let closed : Logged Scanner := do
          let scanner ← scanner.lookFurther
          let scanner ← scanner.keep Byte.star
          let scanner ← scanner.keep Byte.slash
          let scanner ← scanner.advance
          scanner.advance
        have hwarns : scanner.Warns closed :=
          hlooked.bind ((warns_keep _ _).bind ((warns_keep _ _).bind
            ((warns_advance _).bind (warns_advance _))))
        have hamid : Amid settings whole closed.value := by
          obtain ⟨taken, left, hat, rfl⟩ := h
          rw [hat.current?_eq] at hcurrent
          obtain ⟨left, rfl⟩ := List.head?_eq_some_iff.mp hcurrent
          rw [hat.following?_eq] at hslash
          obtain ⟨left, rfl⟩ := List.head?_eq_some_iff.mp hslash
          refine ⟨_, left, ((hat.lookFurther.keep Byte.star).keep Byte.slash).advance.advance, ?_⟩
          simp
        exact .finished .blockComment closed hwarns hamid
          (by apply Logged.ext <;> simp [hslash, closed])
      · exact .reading .blockComment (scanner.lookFurther >>= fun scanner => scanner.take Byte.star)
          (hlooked.bind (warns_take _ _)) (h.lookFurther.take hcurrent') ⟨by simp, rfl⟩
          (by apply Logged.ext <;> simp [hslash])
    · exact .reading .blockComment (scanner.take byte) (warns_take scanner byte) (h.take hcurrent)
        ⟨by simp, rfl⟩ (by apply Logged.ext <;> simp [hstar])

theorem progresses_step {mode : Mode} (h : Amid settings whole scanner) (hmode : mode ≠ .blanks) :
    Progresses settings whole mode scanner (scanner.step mode) := by
  cases mode with
  | blanks => exact absurd rfl hmode
  | run run => exact progresses_stepRun h run
  | quotation quotation => exact progresses_stepQuotation h quotation
  | blockComment => exact progresses_stepBlockComment h

/-- From inside a token to its end: the moves report warnings, and the token is complained of if it
is malformed. -/
theorem exists_warns_finishToken (mode : Mode) (sofar : Logged Scanner)
    (h : Amid settings whole sofar.value) (hmode : mode ≠ .blanks) :
    ∃ moved : Logged Scanner, sofar.value.Warns moved ∧ Amid settings whole moved.value ∧
      ∃ kind, (finishToken mode sofar).value = (Token.ofLexeme kind moved.value.lexeme.text,
          { moved.value with lexeme := Lexeme.empty }) ∧
        (finishToken mode sofar).events = sofar.events ++ moved.events ++
          if kind = .unknown then mode.complaint moved.value.lexeme.text else [] := by
  fun_induction finishToken mode sofar with
  | case1 mode sofar token next events hstep =>
    have hprogress := progresses_step h hmode
    rw [hstep] at hprogress
    cases hprogress with
    | reading _ _ _ _ _ hstep => cases hstep
    | finished kind moved hwarns hamid hstep =>
      obtain ⟨hvalue, rfl⟩ := Logged.mk.inj hstep
      obtain ⟨rfl, rfl⟩ := Progress.finished.inj hvalue
      refine ⟨moved, hwarns, hamid, kind, rfl, ?_⟩
      rw [List.append_assoc]
  | case2 mode sofar mode' next events hstep ih =>
    have hprogress := progresses_step h hmode
    rw [hstep] at hprogress
    cases hprogress with
    | finished _ _ _ _ hstep => cases hstep
    | reading _ moved hwarns hamid hinside hstep =>
      obtain ⟨hvalue, hevents⟩ := Logged.mk.inj hstep
      obtain ⟨rfl, rfl⟩ := Progress.reading.inj hvalue
      obtain ⟨more, hmore, hamid', kind, hresult, hreport⟩ := ih hamid hinside.1
      refine ⟨moved >>= fun _ => more, hwarns.bind hmore, hamid', kind, hresult, ?_⟩
      have hevents : events = moved.events := hevents.trans (List.append_nil _)
      rw [hreport, hinside.2, hevents, Logged.events_bind, List.append_assoc sofar.events]
      rfl

/-! ## Until a token is finished -/

section

variable {mode mode' : Mode} {shown left rest : List Byte} {recovery : List Event}
  {moved : Logged Scanner}

/-- What a scanner reports until a token is finished whose lexeme is made of the given bytes: the
warnings that account for the lexeme and for the failure that shows by then, and after them the
given events. -/
def Tells (settings : Settings) (mode : Mode) (shown : List Byte) (recovery : List Event)
    (scanner : Scanner) : Prop :=
  ∃ moved : Logged Scanner, scanner.Warns moved ∧ moved.value.settings = settings ∧
    moved.value.lexeme = Lexeme.holding settings shown ∧
    moved.value.failure? = (scanner.finishing mode).2.failure? ∧
    (finishToken mode (pure scanner)).events = moved.events ++ recovery

theorem tells_of_reading (hstep : scanner.step mode = Progress.reading mode' <$> moved)
    (hwarns : scanner.Warns moved) (h : Tells settings mode' shown recovery moved.value) :
    Tells settings mode shown recovery scanner := by
  have hvalue : (scanner.step mode).value = .reading mode' moved.value := by rw [hstep]; rfl
  obtain ⟨more, hmore, hsettings, hlexeme, hfailure, hreport⟩ := h
  refine ⟨moved >>= fun _ => more, hwarns.bind hmore, hsettings, hlexeme, ?_, ?_⟩
  · rw [finishing_of_reading hvalue]
    exact hfailure
  · have hsplit : (finishToken mode (pure scanner)).events =
        (scanner.step mode).events ++ (finishToken mode' (pure moved.value)).events := by
      rw [finishToken_of_reading hvalue, finishToken_eq]
      rfl
    rw [hsplit, hstep, Logged.events_map, hreport, Logged.events_bind, List.append_assoc]

theorem tells_of_finish {kind : Kind}
    (hstep : scanner.step mode = moved >>= fun now => ⟨now.finish kind, recovery⟩)
    (hwarns : scanner.Warns moved) (hat : IsAt settings shown left moved.value) :
    Tells settings mode shown recovery scanner := by
  have hvalue : (scanner.step mode).value = moved.value.finish kind := by rw [hstep]; rfl
  refine ⟨moved, hwarns, hat.settings_eq, hat.lexeme_eq, ?_, ?_⟩
  · rw [finishing_of_finished hvalue]
    rfl
  · rw [finishToken_of_finished hvalue]
    exact congrArg Logged.events hstep

/-- A scanner inside a token ends it where the rest begins, so what the token has taken by then is
what is in front of the rest. -/
theorem tells_inside (hmode : mode ≠ .blanks) (h : Amid settings (shown ++ rest) scanner)
    (hrest : (scanner.finishing mode).2.remaining = rest) :
    Tells settings mode shown
      (if (scanner.finishing mode).1.kind = .unknown then
        mode.complaint (scanner.finishing mode).1.value else []) scanner := by
  obtain ⟨moved, hwarns, ⟨taken, left, hat, hwhole⟩, kind, hvalue, hreport⟩ :=
    exists_warns_finishToken mode (pure scanner) h hmode
  have hresult : scanner.finishing mode = (Token.ofLexeme kind moved.value.lexeme.text,
    { moved.value with lexeme := Lexeme.empty }) := hvalue
  rw [hresult] at hrest ⊢
  have hleft : left = rest := hat.remaining_eq.symm.trans hrest
  rw [hleft, List.append_cancel_right_eq] at hwhole
  refine ⟨moved, hwarns, hat.settings_eq, hwhole ▸ hat.lexeme_eq, ?_, hreport⟩
  rw [hresult]
  rfl

end

end Scanner

end CcxLexis
