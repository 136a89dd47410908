import CcxLexis.Proofs.Agreement
import CcxLexis.Proofs.Schedule

/-!
# Output that is refused

A device that refuses output may get to do so early or late, since the buffers hold back what they
can.  This makes no difference to how a dump ends.

If a token gets a line, the dump fails with the fault of the device.  What is left in the buffers
after the last token is flushed before the source is given up, so the fault of the device comes
before a failed read, and nothing that closes a dump is recorded behind it.  If no token gets a
line, nothing is written, the device is never asked, and the dump ends as it would on a device that
accepts everything.
-/

namespace CcxLexis

/-- A scan hands over the failure that stops its source, if one does. -/
theorem Scanner.finishScan_scan (settings : Settings) (reader : Reader) :
    (scan settings reader).value.2.finishScan =
      match ReadResult.stopFault? reader.results with
      | some fault => .error (.readFailed fault)
      | none => .ok () := by
  have hfailure := failure?_scan settings reader
  cases hstop : ReadResult.stopFault? reader.results with
  | none =>
    rw [hstop] at hfailure
    simp only [finishScan, hfailure]
  | some fault =>
    rw [hstop] at hfailure
    simp only [finishScan, hfailure]

namespace CommandLine

/-! ## Devices that refuse everything -/

/-- What was written and has not reached the device is refused when it is flushed, if not before. -/
theorem Output.flush_of_refusing {output : Output} {fault : Fault}
    (hdevice : output.device = .refusing fault) (htaken : output.taken = "")
    (htext : output.text ≠ "") : output.flush = .error fault := by
  have hanswers := answers_flush output
  cases hflush : output.flush with
  | error other =>
    rw [hflush] at hanswers
    cases hdevice.symm.trans hanswers
    rfl
  | ok flushed =>
    rw [hflush] at hanswers
    rcases hanswers.2 with haccepting | hkept
    · cases hdevice.symm.trans haccepting
    · exact absurd ((taken_flush hflush).symm.trans (hkept.trans htaken)) htext

namespace Dump

open Scanner (Scanned)

theorem listing_ne_empty {tokens : List Token} (h : tokens ≠ []) : listing tokens ≠ "" := by
  cases tokens with
  | nil => exact absurd rfl h
  | cons token tokens =>
    rw [listing_cons]
    intro hempty
    have hline := (String.append_eq_empty_iff.mp hempty).1
    exact absurd (String.append_eq_empty_iff.mp hline).2 (by decide)

/-- Lines that are refused make the writing fail, some of them at the latest when all tokens are
scanned. -/
theorem flush_foldl_step_refusing (hideComments : Bool) (scanned : List Scanned) (fault : Fault)
    (events : Array Event)
    (h : (scanned.map Scanned.token).filter (isListed hideComments) ≠ []) :
    let writing := scanned.foldl (Writing.step hideComments)
      { output := .ok { device := .refusing fault }, events }
    writing.output.bind Output.flush = .error fault ∧
      ∃ reported, reported <+: scanned.flatMap Scanned.events ∧
        writing.events.toList = events.toList ++ reported := by
  obtain ⟨hanswers, hwriting⟩ :=
    foldl_step hideComments scanned { device := .refusing fault } events
  dsimp only
  cases hresult : (scanned.foldl (Writing.step hideComments)
      { output := .ok { device := .refusing fault }, events }).output with
  | error other =>
    rw [hresult] at hanswers hwriting
    cases hanswers
    exact ⟨rfl, hwriting.2⟩
  | ok written =>
    rw [hresult] at hanswers hwriting
    obtain ⟨hdevice, htaken⟩ := hanswers
    obtain ⟨htext, hevents⟩ := hwriting
    have hkept : written.taken = "" := htaken.resolve_left nofun
    have hwritten : written.text ≠ "" := by
      rw [htext]
      intro hempty
      exact listing_ne_empty h (String.append_eq_empty_iff.mp hempty).2
    exact ⟨Output.flush_of_refusing hdevice hkept hwritten, _, List.prefix_refl _, hevents⟩

/-- A dump with a line to write fails on a device that refuses it. -/
theorem exists_ofReader_refusing (options : Options) (reader : Reader) (fault : Fault)
    (elapsed : String) :
    let scan := Scanner.scan { maxLexeme := options.maxLexeme } reader
    scan.value.1.filter (isListed options.hideComments) ≠ [] →
      ∃ reported, reported <+: scan.events ∧
        ofReader options reader (.refusing fault) elapsed =
          { records := reported.map Event.record, error := some (.writeFailed fault) } := by
  intro scan h
  obtain ⟨hflush, reported, hreported, hevents⟩ := flush_foldl_step_refusing options.hideComments
    (Scanner.start { maxLexeme := options.maxLexeme } reader).value.drain.1 fault
    (Scanner.start { maxLexeme := options.maxLexeme } reader).events.toArray h
  refine ⟨(Scanner.start { maxLexeme := options.maxLexeme } reader).events ++ reported,
    (List.prefix_append_right_inj _).mpr hreported, ?_⟩
  unfold ofReader
  dsimp only
  rw [hflush, hevents]

end Dump

open Dump

/-! ## Runs that differ in their devices -/

theorem filter_shown_eq_nil_iff {hideComments : Bool} {tokens : List Token} :
    (tokens.filter fun token => !(hideComments && token.isComment)) = [] ↔
      tokens = [] ∨ hideComments = true ∧ ∀ token ∈ tokens, token.isComment = true := by
  cases hideComments with
  | false => simp
  | true =>
    simp only [Bool.true_and, List.filter_eq_nil_iff, Bool.not_eq_true', Bool.not_eq_false,
      true_and]
    constructor
    · exact .inr
    · rintro (rfl | hcomments)
      · simp
      · exact hcomments

theorem filter_isListed_scan (options : Options) (reader : Reader) :
    (Scanner.scan { maxLexeme := options.maxLexeme } reader).value.1.filter
        (isListed options.hideComments) =
      (tokensIn { maxLexeme := options.maxLexeme } reader.remaining).filter fun token =>
        !(options.hideComments && token.isComment) := by
  rw [filter_isListed, filter_scan]

/-- What a dump comes to that has no refusal to report: whether it sums up its tokens or fails is up
to the source. -/
theorem ofReader_of_no_refusal (options : Options) (reader : Reader) (device : Device)
    (elapsed : String) :
    let settings : Settings := { maxLexeme := options.maxLexeme }
    let tokens := tokensIn settings reader.remaining
    let shown := tokens.filter fun token => !(options.hideComments && token.isComment)
    let stop := ReadResult.stopFault? reader.results
    device = .accepting ∨ shown = [] →
      ofReader options reader device elapsed =
        { records := (Scanner.scan settings reader).events.map Event.record ++
            (if stop = none then closingRecords options.file tokens elapsed else [])
          output := listing shown
          error := stop.map ScanFailure.readFailed } := by
  dsimp only
  rw [← filter_isListed_scan]
  intro h
  rw [ofReader_of_taken options reader device elapsed h, Scanner.finishScan_scan, filter_scan]
  cases ReadResult.stopFault? reader.results with
  | none => rfl
  | some fault =>
    rw [if_neg (Option.some_ne_none fault), List.append_nil]
    rfl

/-- **Refused output comes before a failed read.**  Let the arguments ask for a dump, and compare the
run on a device that accepts everything with the run on one that refuses everything.

If the file cannot be opened, both fail with the same error.  If it can, the accepting device gets
one line for each token of the delivered bytes that is shown, and the dump sums up its tokens unless
a read failed.  No token is shown if the delivered bytes are blank, or if they hold comments alone
and comments are hidden.

If a token is shown, the run on the refusing device fails with the fault of the device, whether a
read would have failed or not, and it has reported what a scan reports up to some point, but nothing
that closes a dump.  If no token is shown, both runs are the same. -/
theorem run_of_refused_output (environment : Environment) (arguments : List String)
    (openFile : String → Except Fault Reader) (fault : Fault) (elapsed : String)
    (options : Options)
    (hparse : parse environment.verbose arguments = .ok (.dump options)) :
    let dump (device : Device) := ofFile options (openFile options.file) device elapsed
    let outcome (device : Device) := run environment arguments openFile device elapsed
    (∀ device, outcome device = (dump device).outcome (environment.filter options.verbose)) ∧
      match openFile options.file with
      | .error cause =>
        ∀ device, dump device = { error := some (.openFailed options.file cause) } ∧
          (outcome device).exitCode = 1
      | .ok reader =>
        let settings : Settings := { maxLexeme := options.maxLexeme }
        let events := (Scanner.scan settings reader).events
        let tokens := tokensIn settings reader.remaining
        let shown := tokens.filter fun token => !(options.hideComments && token.isComment)
        let stop := ReadResult.stopFault? reader.results
        dump .accepting =
            { records := events.map Event.record ++
                (if stop = none then closingRecords options.file tokens elapsed else [])
              output := listing shown
              error := stop.map ScanFailure.readFailed } ∧
          (shown = [] ↔ Blank reader.remaining ∨
            options.hideComments = true ∧ ∀ token ∈ tokens, token.isComment = true) ∧
          (shown ≠ [] →
            (∃ reported, reported <+: events ∧
              dump (.refusing fault) =
                { records := reported.map Event.record
                  error := some (.writeFailed fault) }) ∧
            (∀ record ∈ (dump (.refusing fault)).records, ∀ counted elapsed',
              record ∉ closingRecords options.file counted elapsed') ∧
            (outcome (.refusing fault)).exitCode = 1) ∧
          (shown = [] →
            dump (.refusing fault) = dump .accepting ∧
              outcome (.refusing fault) = outcome .accepting) := by
  intro dump outcome
  have houtcome (device : Device) :
      outcome device = (dump device).outcome (environment.filter options.verbose) :=
    run_of_parse hparse openFile device elapsed
  refine ⟨houtcome, ?_⟩
  cases hopen : openFile options.file with
  | error cause =>
    intro device
    have hdump : dump device = { error := some (.openFailed options.file cause) } := by
      show ofFile options (openFile options.file) device elapsed = _
      rw [hopen, ofFile]
    refine ⟨hdump, ?_⟩
    rw [houtcome, hdump]
    rfl
  | ok reader =>
    dsimp only
    have hdump (device : Device) : dump device = ofReader options reader device elapsed := by
      show ofFile options (openFile options.file) device elapsed = _
      rw [hopen, ofFile]
    refine ⟨?_, ?_, ?_, ?_⟩
    · rw [hdump, ofReader_of_no_refusal options reader .accepting elapsed (.inl rfl)]
    · rw [filter_shown_eq_nil_iff, tokensIn_eq_nil_iff]
    · intro hshown
      rw [← filter_isListed_scan] at hshown
      obtain ⟨reported, hreported, hrefused⟩ :=
        exists_ofReader_refusing options reader fault elapsed hshown
      rw [houtcome, hdump, hrefused]
      refine ⟨⟨reported, hreported, rfl⟩, ?_, rfl⟩
      intro record hrecord counted elapsed'
      obtain ⟨event, -, rfl⟩ := List.mem_map.mp hrecord
      exact record_not_mem_closingRecords event options.file counted elapsed'
    · intro hshown
      have hsame : dump (.refusing fault) = dump .accepting := by
        rw [hdump, hdump, ofReader_of_no_refusal options reader _ elapsed (.inr hshown),
          ofReader_of_no_refusal options reader _ elapsed (.inr hshown)]
      exact ⟨hsame, by rw [houtcome, houtcome, hsame]⟩

/-- A name was read, then the disk failed, and the device is full: the user hears of the device. -/
theorem run_of_refused_output_fullDevice :
    parse none ["a.ccx"] = .ok (.dump { file := "a.ccx" }) ∧
      let reader : Reader := { results := [.portion [0x61], .failed (.system 5)] }
      let dump (device : Device) := ofFile { file := "a.ccx" } (.ok reader) device "1ms"
      (dump .accepting).error = some (.readFailed (.system 5)) ∧
        (dump (.refusing .deviceFull)).error = some (.writeFailed .deviceFull) ∧
        (run {} ["a.ccx"] (fun _ => .ok reader) (.refusing .deviceFull) "1ms").exitCode = 1 := by
  have hparse : parse none ["a.ccx"] = .ok (.dump { file := "a.ccx" }) := rfl
  obtain ⟨-, hworking, hnothing, hrefused, -⟩ := run_of_refused_output {} ["a.ccx"]
    (fun _ => .ok { results := [.portion [0x61], .failed (.system 5)] }) .deviceFull "1ms"
    { file := "a.ccx" } hparse
  have hletter : ¬Blank [0x61] := fun hblank => absurd (hblank 0x61 List.mem_cons_self) (by decide)
  obtain ⟨⟨reported, -, hdump⟩, -, hexit⟩ := hrefused fun hshown => by
    rcases hnothing.mp hshown with hblank | ⟨hhidden, -⟩
    · exact hletter hblank
    · cases hhidden
  dsimp only at hworking hdump ⊢
  rw [hworking, hdump]
  exact ⟨hparse, rfl, rfl, hexit⟩

end CommandLine

end CcxLexis
