import CcxLexis.CommandLine.Dump
import CcxLexis.Proofs.Unquoting

/-!
# What a dump lists

A dump comes to what a scan of the same source comes to, unless its device refuses output.  Its
output is one line for each token that gets one, whatever the buffers do in between.  Its records
are those of the events of the scan, with the closing records behind them unless the source failed.
`Dump.ofReader_of_taken` says so as one equation.

How far writing comes depends on the device.  `Output.Answers` says how a device can answer one
operation, and `Dump.foldl_step` what the answers of a device come to while tokens are scanned.
-/

namespace CcxLexis

/-- The lines in which a log filter shows records. -/
def LogFilter.linesOf (filter : LogFilter) (records : List Record) : List String :=
  ((records.filter filter.shows).map Record.line).flatMap Text.lines

@[simp]
theorem LogFilter.linesOf_nil (filter : LogFilter) : filter.linesOf [] = [] := rfl

namespace CommandLine

/-! ## How a device answers -/

namespace Output

/-- What a step of writing can come to.  It goes through, with the same device, which has taken
nothing more unless it accepts everything, or it fails with the fault of a device that refuses. -/
def Answers (output : Output) : Except Fault Output → Prop
  | .ok written =>
    written.device = output.device ∧
      (output.device = .accepting ∨ written.taken = output.taken)
  | .error fault => output.device = .refusing fault

/-- A step of writing that has gone through to a device that accepts everything. -/
def Accepted (result : Except Fault Output) : Prop :=
  ∃ written, result = .ok written ∧ written.device = .accepting

section

variable {output : Output} {result : Except Fault Output}

theorem Answers.trans {written : Output} (h : output.Answers (.ok written))
    (hresult : written.Answers result) : output.Answers result := by
  obtain ⟨hdevice, htaken⟩ := h
  cases result with
  | error fault => exact hdevice.symm.trans hresult
  | ok last =>
    refine ⟨hresult.1.trans hdevice, ?_⟩
    rcases htaken with haccepting | htaken
    · exact .inl haccepting
    · rw [← hdevice, ← htaken]
      exact hresult.2

theorem Answers.bind {next : Output → Except Fault Output} (h : output.Answers result)
    (hnext : ∀ written : Output, written.Answers (next written)) :
    output.Answers (result >>= next) := by
  cases result with
  | error fault => exact h
  | ok written => exact h.trans (hnext written)

/-- A device that accepts everything has no fault to answer with. -/
theorem Answers.accepted (h : output.Answers result) (hdevice : output.device = .accepting) :
    Accepted result := by
  cases result with
  | error fault => cases hdevice.symm.trans h
  | ok written => exact ⟨written, rfl, h.1.trans hdevice⟩

end

theorem answers_flushLine (output : Output) : output.Answers output.flushLine := by
  unfold flushLine
  split
  · exact ⟨rfl, .inr rfl⟩
  · split
    · next hdevice => exact ⟨rfl, .inl hdevice⟩
    · next fault hdevice => exact hdevice

theorem answers_flushBlock (output : Output) : output.Answers output.flushBlock := by
  unfold flushBlock
  dsimp only
  split
  · exact answers_flushLine { output with line := output.line ++ output.block, block := "" }
  · exact ⟨rfl, .inr rfl⟩

theorem answers_makeRoom (output : Output) (portion : String) :
    output.Answers (output.makeRoom portion) := by
  unfold makeRoom
  split
  · exact answers_flushBlock output
  · exact ⟨rfl, .inr rfl⟩

theorem answers_write (output : Output) (portion : String) :
    output.Answers (output.write portion) := by
  refine (answers_makeRoom output portion).bind fun ready => ?_
  dsimp only
  split
  · exact answers_flushBlock { ready with block := ready.block ++ portion }
  · exact ⟨rfl, .inr rfl⟩

theorem answers_writeAll (output : Output) (portions : List String) :
    output.Answers (output.writeAll portions) := by
  induction portions generalizing output with
  | nil => exact ⟨rfl, .inr rfl⟩
  | cons portion portions ih =>
    rw [writeAll, List.foldlM_cons]
    exact (answers_write output portion).bind ih

theorem answers_flush (output : Output) : output.Answers output.flush :=
  (answers_flushBlock output).bind answers_flushLine

/-- Nothing is handed to the device if nothing was written. -/
theorem flush_of_text_empty {output : Output} (h : output.text = "") :
    output.flush = .ok output := by
  obtain ⟨device, taken, line, block⟩ := output
  obtain ⟨hfront, rfl⟩ := String.append_eq_empty_iff.mp h
  obtain ⟨rfl, rfl⟩ := String.append_eq_empty_iff.mp hfront
  have hblock : flushBlock { device } = .ok { device } := by
    unfold flushBlock
    dsimp only
    split
    · rfl
    · rfl
  rw [flush, hblock]
  rfl

end Output

/-! ## Lines -/

namespace Dump

open Scanner (Scanned)

/-- The line of a token: the name of its kind, a tab, and its text, quoted. -/
def tokenLine (token : Token) : String :=
  token.kind.name ++ "\t" ++ Text.quoted token.value

/-- One line for each token, with a line feed behind each. -/
def listing (tokens : List Token) : String :=
  String.join (tokens.map fun token => tokenLine token ++ "\n")

theorem listing_cons (token : Token) (tokens : List Token) :
    listing (token :: tokens) = tokenLine token ++ "\n" ++ listing tokens := by
  rw [listing, List.map_cons, String.join_cons]
  rfl

theorem listing_append (tokens more : List Token) :
    listing (tokens ++ more) = listing tokens ++ listing more := by
  rw [listing, List.map_append, String.join_append]
  rfl

theorem join_linePortions (token : Token) :
    String.join (linePortions token) = tokenLine token ++ "\n" := by
  rw [linePortions, List.cons_append, List.cons_append, String.join_cons, String.join_cons,
    String.join_append, Text.join_quotedPortions, String.join_cons, String.join_nil, tokenLine]
  simp only [String.append_assoc, String.append_empty]

theorem filter_isListed (hideComments : Bool) (tokens : List Token) :
    tokens.filter (isListed hideComments) =
      (tokens.filter fun token => !token.isEndOfInput).filter fun token =>
        !(hideComments && token.isComment) := by
  rw [List.filter_filter]
  exact List.filter_congr fun token _ => Bool.and_comm _ _

/-- The warning is among the closing records exactly if there is a token that it counts. -/
theorem closingRecords_eq (file : String) (tokens : List Token) (elapsed : String) :
    closingRecords file tokens elapsed =
      (if ∃ token ∈ tokens, token.kind = .unknown then
          [unknownRecord (tokens.countP fun token => token.kind = .unknown)]
        else []) ++
        [totalRecord file tokens.length elapsed] := by
  have hzero : tokens.countP (fun token => token.kind = .unknown) = 0 ↔
      ¬∃ token ∈ tokens, token.kind = .unknown := by
    simp [List.countP_eq_zero]
  rw [closingRecords]
  congr 1
  by_cases hunknown : ∃ token ∈ tokens, token.kind = .unknown
  · rw [if_pos hunknown]
    exact if_neg (mt hzero.mp (not_not_intro hunknown))
  · rw [if_neg hunknown]
    exact if_pos (hzero.mpr hunknown)

/-! ## Writing while scanning -/

theorem foldl_step_error (hideComments : Bool) (scanned : List Scanned) (fault : Fault)
    (events : Array Event) :
    scanned.foldl (Writing.step hideComments) { output := .error fault, events } =
      { output := .error fault, events } := by
  induction scanned with
  | nil => rfl
  | cons first scanned ih => exact ih

/-- One more token is scanned: its line, if it gets one, is written or refused. -/
theorem exists_step (hideComments : Bool) (output : Output) (events : Array Event)
    (scanned : Scanned) :
    ∃ result,
      Writing.step hideComments { output := .ok output, events } scanned =
        { output := result, events := events ++ scanned.events } ∧
      output.Answers result ∧
        match result with
        | .ok written =>
          written.text = output.text ++ listing ([scanned.token].filter (isListed hideComments))
        | .error _ => isListed hideComments scanned.token = true := by
  refine ⟨_, rfl, ?_⟩
  by_cases hlisted : isListed hideComments scanned.token = true
  · rw [if_pos hlisted, List.filter_cons_of_pos hlisted, List.filter_nil]
    have hanswers := Output.answers_writeAll output (linePortions scanned.token)
    refine ⟨hanswers, ?_⟩
    cases hresult : output.writeAll (linePortions scanned.token) with
    | error fault => exact hlisted
    | ok written =>
      show written.text = _
      rw [Output.text_writeAll hresult, join_linePortions, listing_cons]
      exact congrArg _ String.append_empty.symm
  · rw [if_neg hlisted, List.filter_cons_of_neg hlisted, List.filter_nil]
    exact ⟨⟨rfl, .inr rfl⟩, String.append_empty.symm⟩

/-- While the device takes what it is given, the tokens scanned so far are listed, and their events
are those reported so far.  It can refuse output only if a token got a line, and from then on
nothing is reported any more. -/
theorem foldl_step (hideComments : Bool) (scanned : List Scanned) (output : Output)
    (events : Array Event) :
    let writing := scanned.foldl (Writing.step hideComments) { output := .ok output, events }
    let listed := (scanned.map Scanned.token).filter (isListed hideComments)
    output.Answers writing.output ∧
      match writing.output with
      | .ok written =>
        written.text = output.text ++ listing listed ∧
          writing.events.toList = events.toList ++ scanned.flatMap Scanned.events
      | .error _ =>
        listed ≠ [] ∧
          ∃ reported, reported <+: scanned.flatMap Scanned.events ∧
            writing.events.toList = events.toList ++ reported := by
  induction scanned generalizing output events with
  | nil => exact ⟨⟨rfl, .inr rfl⟩, String.append_empty.symm, (List.append_nil _).symm⟩
  | cons first scanned ih =>
    obtain ⟨result, hstep, hanswers, hline⟩ := exists_step hideComments output events first
    dsimp only
    rw [List.foldl_cons, hstep]
    cases result with
    | error fault =>
      have hlisted : first.token ∈
          ((first :: scanned).map Scanned.token).filter (isListed hideComments) :=
        List.mem_filter.mpr ⟨List.mem_cons_self, hline⟩
      rw [foldl_step_error]
      exact ⟨hanswers, List.ne_nil_of_mem hlisted, first.events, List.prefix_append _ _, by simp⟩
    | ok next =>
      have hfilter : ((first :: scanned).map Scanned.token).filter (isListed hideComments) =
          [first.token].filter (isListed hideComments) ++
            (scanned.map Scanned.token).filter (isListed hideComments) :=
        List.filter_append [first.token] (scanned.map Scanned.token)
      obtain ⟨hnext, hrest⟩ := ih next (events ++ first.events)
      refine ⟨hanswers.trans hnext, ?_⟩
      rw [hfilter]
      split at hrest
      · next written hwritten =>
        obtain ⟨htext, hevents⟩ := hrest
        exact ⟨by rw [htext, hline, listing_append, String.append_assoc], by simp [hevents]⟩
      · next hfault =>
        obtain ⟨hlisted, reported, hreported, hevents⟩ := hrest
        exact ⟨List.append_ne_nil_of_right_ne_nil _ hlisted, first.events ++ reported,
          (List.prefix_append_right_inj first.events).mpr hreported, by simp [hevents]⟩

/-- Lines that are accepted, and lines that there are none of, are brought to the device. -/
theorem exists_flush_of_taken (hideComments : Bool) (scanned : List Scanned) (device : Device)
    (events : Array Event)
    (h : device = .accepting ∨ (scanned.map Scanned.token).filter (isListed hideComments) = []) :
    let writing := scanned.foldl (Writing.step hideComments) { output := .ok { device }, events }
    writing.events.toList = events.toList ++ scanned.flatMap Scanned.events ∧
      ∃ flushed, writing.output.bind Output.flush = .ok flushed ∧
        flushed.taken = listing ((scanned.map Scanned.token).filter (isListed hideComments)) := by
  obtain ⟨hanswers, hwriting⟩ := foldl_step hideComments scanned { device } events
  dsimp only
  cases hresult : (scanned.foldl (Writing.step hideComments)
      { output := .ok { device }, events }).output with
  | error fault =>
    rw [hresult] at hanswers hwriting
    rcases h with haccepting | hnothing
    · cases haccepting.symm.trans hanswers
    · exact absurd hnothing hwriting.1
  | ok written =>
    rw [hresult] at hanswers hwriting
    obtain ⟨htext, hevents⟩ := hwriting
    obtain ⟨flushed, hflushed⟩ : ∃ flushed, written.flush = .ok flushed := by
      rcases h with haccepting | hnothing
      · obtain ⟨flushed, hflushed, -⟩ :=
          (Output.answers_flush written).accepted (hanswers.1.trans haccepting)
        exact ⟨flushed, hflushed⟩
      · rw [hnothing] at htext
        exact ⟨written, Output.flush_of_text_empty htext⟩
    refine ⟨hevents, flushed, hflushed, ?_⟩
    rw [Output.taken_flush hflushed, htext]
    exact String.empty_append

/-! ## The whole dump -/

/-- **A dump comes to what a scan comes to.**  If the device accepts everything, or if no token gets
a line, a dump of a source records the events of a scan of it and lists its tokens.  A failed read
ends both with the same error; otherwise the closing records sum up the tokens of the scan. -/
theorem ofReader_of_taken (options : Options) (reader : Reader) (device : Device)
    (elapsed : String) :
    let scan := Scanner.scan { maxLexeme := options.maxLexeme } reader
    let tokens := scan.value.1.filter fun token => !token.isEndOfInput
    let listed := scan.value.1.filter (isListed options.hideComments)
    let records := scan.events.map Event.record
    device = .accepting ∨ listed = [] →
      ofReader options reader device elapsed =
        match scan.value.2.finishScan with
        | .error error => { records, output := listing listed, error := some error }
        | .ok () =>
          { records := records ++ closingRecords options.file tokens elapsed
            output := listing listed } := by
  intro scan tokens listed records h
  obtain ⟨hevents, flushed, hflushed, htaken⟩ := exists_flush_of_taken options.hideComments
    (Scanner.start { maxLexeme := options.maxLexeme } reader).value.drain.1 device
    (Scanner.start { maxLexeme := options.maxLexeme } reader).events.toArray h
  unfold ofReader
  dsimp only
  rw [hflushed, hevents]
  dsimp only
  rw [htaken]
  rfl

/-- What a user sees of a dump: the records that the filter shows, and then the error. -/
theorem outcome_eq (result : Result) (filter : LogFilter) :
    result.outcome filter =
      { exitCode := if result.error.isSome then 1 else 0
        output := result.output
        diagnostics := filter.linesOf result.records ++
          (result.error.toList.map ScanFailure.announcement).flatMap Text.lines } := by
  rw [Result.outcome, List.flatMap_append]
  rfl

end Dump

end CommandLine

end CcxLexis
