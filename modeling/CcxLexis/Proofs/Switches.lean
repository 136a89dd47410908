import CcxLexis.Proofs.Acceptance

/-!
# Options that switch something on

Verbosity and the hiding of comments are switched on by an option of their own, once.  Reading writes
down that a switch is on and does not look at it, except where its option stands (`Accepts.turnOn`).
So the option does nothing but switch on.  In front of arguments that do without it, it is always
accepted (`parse_cons_word`), and wherever else among them it is accepted, they ask for the same as
before, with the switch on (`options_of_inserted`).

An option makes the value in front of it be checked where it stands.  That makes no difference either,
since a value is checked at the latest where the next one is read (`Accepts.of_settle`).
-/

namespace CcxLexis.CommandLine

section

variable {reading next : Reading} {argument : String}

/-! ## What an accepted argument depends on -/

/-- Reading does not look at a switch that it leaves off: the switch was off before, and with the
switch on the argument is accepted as well. -/
theorem Accepts.turnOn {switch : Switch} (h : Accepts reading argument next)
    (hoff : switch.isOn next = false) :
    switch.isOn reading = false ∧
      Accepts (switch.turnOn reading) argument (switch.turnOn next) := by
  have hopened (hopen : reading.optionsEnded = false) :
      (switch.turnOn reading).optionsEnded = false := by rw [switch.optionsEnded_turnOn, hopen]
  cases h with
  | endOfOptions hopen hargument =>
    refine ⟨by cases switch <;> exact hoff, ?_⟩
    have h := Accepts.endOfOptions (hopened hopen) hargument
    cases switch <;> exact h
  | switch other hopen hargument hsettle hother =>
    have hne : switch ≠ other := by
      rintro rfl
      rw [Switch.isOn_turnOn_self] at hoff
      cases hoff
    rw [Switch.isOn_turnOn_of_ne _ hne, Reading.isOn_of_settle switch hsettle] at hoff
    refine ⟨hoff, ?_⟩
    rw [Switch.turnOn_comm]
    refine .switch other (hopened hopen) hargument (Reading.settle_turnOn switch hsettle) ?_
    rw [Switch.isOn_turnOn_of_ne _ hne.symm, hother]
  | limit value hopen hargument hsettle hlimit =>
    refine ⟨?_, .limit value (hopened hopen) hargument (Reading.settle_turnOn switch hsettle)
      (Reading.setLimit_turnOn switch hlimit)⟩
    rw [← Reading.isOn_of_settle switch hsettle, ← hoff]
    obtain ⟨limit, -, -, rfl⟩ := Reading.exists_of_setLimit hlimit
    cases switch <;> rfl
  | limitAhead hopen hargument hsettle =>
    have hsame := Reading.isOn_of_settle switch hsettle
    refine ⟨by rw [← hsame]; cases switch <;> exact hoff, ?_⟩
    have h := Accepts.limitAhead (hopened hopen) hargument (Reading.settle_turnOn switch hsettle)
    cases switch <;> exact h
  | value hopen hargument hwaiting =>
    refine ⟨by cases switch <;> exact hoff, ?_⟩
    have h := Accepts.value (hopened hopen) hargument
      (by rw [switch.unchecked_turnOn, hwaiting])
    cases switch <;> exact h
  | file hargument hfirst hsettle =>
    have hsame := Reading.isOn_of_settle switch hsettle
    refine ⟨by rw [← hsame]; cases switch <;> exact hoff, ?_⟩
    have hargument' : (switch.turnOn reading).optionsEnded = false →
        IsFree argument ∧ (switch.turnOn reading).unchecked ≠ some (.maxLexeme none) := by
      rwa [switch.optionsEnded_turnOn, switch.unchecked_turnOn]
    have hfirst' : (switch.turnOn reading).fileSeen = false := by
      rw [switch.fileSeen_turnOn, hfirst]
    have h := Accepts.file hargument' hfirst' (Reading.settle_turnOn switch hsettle)
    cases switch <;> exact h

/-- It makes no difference whether a value is checked before an argument is read or later. -/
theorem Accepts.of_settle {settled : Reading} (hsettle : reading.settle = .ok settled)
    (h : Accepts reading argument next) :
    ∃ next', Accepts settled argument next' ∧ (next' = next ∨ next.settle = .ok next') := by
  obtain ⟨file, maxLexeme, rfl, -, hother⟩ := Reading.exists_of_settle hsettle
  have hagain := Reading.settle_of_settle hsettle
  have hsame {other : Reading} (hother : reading.settle = .ok other) :
      other = { reading with file, maxLexeme, unchecked := none } :=
    Except.ok.inj (hother.symm.trans hsettle)
  cases h with
  | endOfOptions hopen hargument =>
    exact ⟨_, .endOfOptions hopen hargument, .inr (hother _ rfl rfl rfl)⟩
  | switch switch hopen hargument hother hoff =>
    obtain rfl := hsame hother
    exact ⟨_, .switch switch hopen hargument hagain hoff, .inl rfl⟩
  | limit value hopen hargument hother hlimit =>
    obtain rfl := hsame hother
    exact ⟨_, .limit value hopen hargument hagain hlimit, .inl rfl⟩
  | limitAhead hopen hargument hother =>
    obtain rfl := hsame hother
    exact ⟨_, .limitAhead hopen hargument hagain, .inl rfl⟩
  | value hopen hargument hwaiting =>
    rw [Reading.settle, hwaiting] at hsettle
    cases hsettle
  | file hargument hfirst hother =>
    obtain rfl := hsame hother
    have hnone : none ≠ some (Unchecked.maxLexeme none) := (Option.some_ne_none _).symm
    exact ⟨_, .file (fun hopen => ⟨(hargument hopen).1, hnone⟩) hfirst hagain, .inl rfl⟩

/-- A reading that no file was seen for has none, checked or not. -/
def Reading.FileIsSeen (reading : Reading) : Prop :=
  reading.fileSeen = false →
    reading.file = none ∧ ∀ path, reading.unchecked ≠ some (.file path)

theorem Reading.FileIsSeen.file_of_settle {settled : Reading} (h : reading.FileIsSeen)
    (hsettle : reading.settle = .ok settled) (hunseen : reading.fileSeen = false) :
    settled.file = none := by
  obtain ⟨file, maxLexeme, rfl, hfile, -⟩ := Reading.exists_of_settle hsettle
  obtain ⟨hnone, hunchecked⟩ := h hunseen
  rcases hfile with rfl | ⟨path, hpath⟩
  · exact hnone
  · exact absurd hpath (hunchecked path)

theorem Reading.FileIsSeen.of_settle {settled : Reading} (h : reading.FileIsSeen)
    (hsettle : reading.settle = .ok settled) : settled.FileIsSeen := by
  intro hunseen
  rw [fileSeen_of_settle hsettle] at hunseen
  rw [unchecked_of_settle hsettle]
  exact ⟨h.file_of_settle hsettle hunseen, fun _ => (Option.some_ne_none _).symm⟩

theorem Accepts.fileIsSeen (h : Accepts reading argument next) (hseen : reading.FileIsSeen) :
    next.FileIsSeen := by
  have hlimit (value : Option String) (path : String) :
      some (Unchecked.maxLexeme value) ≠ some (.file path) := by
    intro h
    cases h
  cases h with
  | endOfOptions hopen hargument => exact hseen
  | switch switch hopen hargument hsettle hoff =>
    have hsettled := hseen.of_settle hsettle
    cases switch <;> exact hsettled
  | limit value hopen hargument hsettle hlimit =>
    have hsettled := hseen.of_settle hsettle
    obtain ⟨limit, -, -, rfl⟩ := Reading.exists_of_setLimit hlimit
    exact hsettled
  | limitAhead hopen hargument hsettle =>
    intro hunseen
    have hfile := (hseen.of_settle hsettle hunseen).1
    exact ⟨hfile, hlimit _⟩
  | value hopen hargument hwaiting =>
    intro hunseen
    exact ⟨(hseen hunseen).1, hlimit _⟩
  | file hargument hfirst hsettle =>
    intro hunseen
    cases hunseen

/-- Behind the end of the options the one argument that is accepted is the file. -/
theorem Accepts.file_of_optionsEnded (h : Accepts reading argument next)
    (hended : reading.optionsEnded = true) :
    reading.fileSeen = false ∧ next.fileSeen = true ∧ next.optionsEnded = true := by
  have hclosed {p : Prop} (hopen : reading.optionsEnded = false) : p := by
    rw [hended] at hopen
    cases hopen
  cases h with
  | endOfOptions hopen _ => exact hclosed hopen
  | switch _ hopen _ _ _ => exact hclosed hopen
  | limit _ hopen _ _ _ => exact hclosed hopen
  | limitAhead hopen _ _ => exact hclosed hopen
  | value hopen _ _ => exact hclosed hopen
  | file _ hfirst hsettle =>
    obtain ⟨file, maxLexeme, rfl, -, -⟩ := Reading.exists_of_settle hsettle
    exact ⟨hfirst, rfl, hended⟩

end

/-! ## All arguments -/

section

variable {reading last : Reading} {arguments : List String} {verboseVariable : Option String}
  {options : Options}

theorem accepts_of_foldlM_cons {argument : String}
    (h : (argument :: arguments).foldlM Reading.read reading = .ok last) :
    ∃ next, Accepts reading argument next ∧ arguments.foldlM Reading.read next = .ok last := by
  rw [List.foldlM_cons] at h
  obtain ⟨next, hread, hmore⟩ := exists_of_bind_eq_ok h
  exact ⟨next, read_eq_ok_iff.mp hread, hmore⟩

theorem foldlM_cons_of_accepts {argument : String} {next : Reading}
    (h : Accepts reading argument next) (hmore : arguments.foldlM Reading.read next = .ok last) :
    (argument :: arguments).foldlM Reading.read reading = .ok last := by
  rw [List.foldlM_cons, read_eq_ok_iff.mpr h]
  exact hmore

theorem foldlM_turnOn {switch : Switch} (h : arguments.foldlM Reading.read reading = .ok last)
    (hoff : switch.isOn last = false) :
    switch.isOn reading = false ∧
      arguments.foldlM Reading.read (switch.turnOn reading) = .ok (switch.turnOn last) := by
  induction arguments generalizing reading with
  | nil =>
    cases h
    exact ⟨hoff, rfl⟩
  | cons argument arguments ih =>
    obtain ⟨next, haccepts, hmore⟩ := accepts_of_foldlM_cons h
    obtain ⟨hnext, hmore⟩ := ih hmore
    obtain ⟨hreading, haccepts⟩ := haccepts.turnOn hnext
    exact ⟨hreading, foldlM_cons_of_accepts haccepts hmore⟩

theorem fileIsSeen_of_foldlM (h : arguments.foldlM Reading.read reading = .ok last)
    (hseen : reading.FileIsSeen) : last.FileIsSeen := by
  induction arguments generalizing reading with
  | nil =>
    cases h
    exact hseen
  | cons argument arguments ih =>
    obtain ⟨next, haccepts, hmore⟩ := accepts_of_foldlM_cons h
    exact ih hmore (haccepts.fileIsSeen hseen)

theorem conclude_of_settle_eq {settled : Reading} (hsettle : reading.settle = .ok settled) :
    settled.conclude verboseVariable = reading.conclude verboseVariable := by
  rw [Reading.conclude, Reading.conclude, hsettle, Reading.settle_of_settle hsettle]

/-- It makes no difference to a request whether a value is checked early or late. -/
theorem exists_foldlM_of_settle {settled : Reading} (hsettle : reading.settle = .ok settled)
    (h : arguments.foldlM Reading.read reading = .ok last) :
    ∃ last', arguments.foldlM Reading.read settled = .ok last' ∧
      last'.conclude verboseVariable = last.conclude verboseVariable := by
  induction arguments generalizing reading settled with
  | nil =>
    cases h
    exact ⟨settled, rfl, conclude_of_settle_eq hsettle⟩
  | cons argument arguments ih =>
    obtain ⟨next, haccepts, hmore⟩ := accepts_of_foldlM_cons h
    obtain ⟨next', haccepts', hnext⟩ := haccepts.of_settle hsettle
    rcases hnext with hsame | hnext
    · rw [← hsame] at hmore
      exact ⟨last, foldlM_cons_of_accepts haccepts' hmore, rfl⟩
    · obtain ⟨last', hmore', hconclude⟩ := ih hnext hmore
      exact ⟨last', foldlM_cons_of_accepts haccepts' hmore', hconclude⟩

theorem conclude_turnOn {switch : Switch} (h : reading.conclude verboseVariable = .ok options)
    (hoff : switch.isAsked options = false) :
    switch.isOn reading = false ∧
      (switch.turnOn reading).conclude verboseVariable = .ok (switch.ask options) := by
  obtain ⟨settled, file, verbose, hsettle, hfile, hverbose, rfl⟩ := Reading.exists_of_conclude h
  have hsettle' := Reading.settle_turnOn switch hsettle
  have hfile' := (switch.file_turnOn settled).trans hfile
  rw [← Reading.isOn_of_settle switch hsettle]
  cases switch with
  | verbose =>
    have hquiet : verbose = false := hoff
    subst hquiet
    have hloud : (Switch.verbose.turnOn settled).settleVerbose verboseVariable = .ok true := rfl
    have hconclude := Reading.conclude_of_settle hsettle' hloud hfile'
    refine ⟨?_, hconclude⟩
    unfold Reading.settleVerbose at hverbose
    split at hverbose
    · cases hverbose
    · next hreading => exact Bool.eq_false_iff.mpr hreading
  | hideComments =>
    have hverbose' :
        (Switch.hideComments.turnOn settled).settleVerbose verboseVariable = .ok verbose := hverbose
    exact ⟨hoff, Reading.conclude_of_settle hsettle' hverbose' hfile'⟩

/-- The option of a switch that is off, put between accepted arguments where options are still
read. -/
theorem parse_insert {switch : Switch} {word : String} (hword : word ∈ switch.words)
    {front back : List String} {settled : Reading}
    (hfront : front.foldlM Reading.read {} = .ok reading) (hopen : reading.optionsEnded = false)
    (hsettle : reading.settle = .ok settled)
    (h : parse verboseVariable (front ++ back) = .ok (.dump options))
    (hoff : switch.isAsked options = false) :
    parse verboseVariable (front ++ word :: back) = .ok (.dump (switch.ask options)) := by
  obtain ⟨last, hread, hconclude⟩ := exists_of_parse h
  rw [List.foldlM_append, hfront] at hread
  obtain ⟨last', hback, hlast⟩ := exists_foldlM_of_settle hsettle hread
  rw [← hlast] at hconclude
  obtain ⟨hoff, hconclude⟩ := conclude_turnOn hconclude hoff
  obtain ⟨hoff, hback⟩ := foldlM_turnOn hback hoff
  refine parse_of_foldlM ?_ hconclude
  rw [List.foldlM_append, hfront]
  exact foldlM_cons_of_accepts (.switch switch hopen hword hsettle hoff) hback

/-- A request names a file, so one was seen. -/
theorem fileSeen_of_parse (hread : arguments.foldlM Reading.read {} = .ok last)
    (h : parse verboseVariable arguments = .ok (.dump options)) : last.fileSeen ≠ false := by
  intro hunseen
  have hstart : Reading.FileIsSeen {} := fun _ => ⟨rfl, fun _ => (Option.some_ne_none _).symm⟩
  obtain ⟨final, hfinal, hconclude⟩ := exists_of_parse h
  obtain rfl := Except.ok.inj (hread.symm.trans hfinal)
  obtain ⟨settled, file, -, hsettle, hfile, -, -⟩ := Reading.exists_of_conclude hconclude
  have hnone : settled.file = none :=
    (fileIsSeen_of_foldlM hread hstart).file_of_settle hsettle hunseen
  rw [hfile] at hnone
  cases hnone

theorem parse_cons_word {switch : Switch} {word : String} (hword : word ∈ switch.words)
    (h : parse verboseVariable arguments = .ok (.dump options))
    (hoff : switch.isAsked options = false) :
    parse verboseVariable (word :: arguments) = .ok (.dump (switch.ask options)) := by
  have hfront : ([] : List String).foldlM Reading.read {} = .ok {} := rfl
  have hsettle : Reading.settle {} = .ok {} := rfl
  exact parse_insert hword hfront rfl hsettle h hoff

/-- Behind the option that hides the comments, arguments without it ask for the same, with the
comments hidden. -/
theorem parse_noComments (h : parse verboseVariable arguments = .ok (.dump options))
    (hshown : options.hideComments = false) :
    parse verboseVariable ("--no-comments" :: arguments) =
      .ok (.dump { options with hideComments := true }) := by
  have hword : "--no-comments" ∈ Switch.hideComments.words := List.mem_singleton_self _
  exact parse_cons_word hword h hshown

/-- **An option that switches something on does nothing else.**  Let arguments be accepted with a
switch off, and let them still be accepted with its option put somewhere among them.  Then they ask
for the same, with the switch on. -/
theorem options_of_inserted {switch : Switch} {word : String} (hword : word ∈ switch.words)
    {front back : List String} {request : Options}
    (h : parse verboseVariable (front ++ back) = .ok (.dump options))
    (hoff : switch.isAsked options = false)
    (hrequest : parse verboseVariable (front ++ word :: back) = .ok (.dump request)) :
    request = switch.ask options := by
  obtain ⟨final, hread, hfinal⟩ := exists_of_parse hrequest
  rw [List.foldlM_append] at hread
  obtain ⟨reading, hfront, hread⟩ := exists_of_bind_eq_ok hread
  obtain ⟨next, haccepts, hback⟩ := accepts_of_foldlM_cons hread
  cases hopen : reading.optionsEnded with
  | false =>
    obtain ⟨settled, hsettle, -, -⟩ :=
      Reading.set_eq_ok_iff.mp
        ((read_of_mem_words hopen hword).symm.trans (read_eq_ok_iff.mpr haccepts))
    have hinserted := parse_insert hword hfront hopen hsettle h hoff
    rw [hrequest] at hinserted
    cases hinserted
    rfl
  | true =>
    obtain ⟨hunseen, hseen, hended⟩ := haccepts.file_of_optionsEnded hopen
    cases back with
    | cons argument back =>
      obtain ⟨_, hagain, -⟩ := accepts_of_foldlM_cons hback
      rw [(hagain.file_of_optionsEnded hended).1] at hseen
      cases hseen
    | nil =>
      rw [List.append_nil] at h
      exact absurd hunseen (fileSeen_of_parse hfront h)

end

end CcxLexis.CommandLine
