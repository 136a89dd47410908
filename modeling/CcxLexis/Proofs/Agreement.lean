import CcxLexis.CommandLine.Program
import CcxLexis.FileTree.Scan
import CcxLexis.Proofs.Arguments
import CcxLexis.Proofs.Lossless
import CcxLexis.Proofs.Records
import Mathlib

/-!
# The program says what a scan says

The program dumps the tokens of a file while it scans, and a scan of the same file hands them out
only at the end, if at all.  Both come to the same.  Where the scan succeeds, the program lists its
tokens and logs how many they are and how many of them are unknown.  Where the scan fails, the
program fails with the same error; the tokens in front of a failed read, which the scan keeps to
itself, are listed all the same.
-/

namespace CcxLexis

/-! ## The announcement of an error -/

/-- The operating system describes a failure on one line. -/
theorem Fault.oneLine_text_system (code : Nat) : Text.OneLine (Fault.system code).text := by
  have hnumber : Text.OneLine (toString code) := Text.oneLine_repr code
  have hknown : ∀ error ∈ systemErrors, Text.OneLine error.text := by decide
  have hopening : Text.OneLine " (os error " := by decide
  have hclosing : Text.OneLine ")" := by decide
  refine ((Text.OneLine.append ?_ hopening).append hnumber).append hclosing
  cases h : systemError? code with
  | none =>
    have hunknown : Text.OneLine "Unknown error " := by decide
    exact hunknown.append hnumber
  | some error => exact hknown error (List.mem_of_find?_eq_some h)

namespace ScanFailure

theorem oneLine_name (error : ScanFailure) : Text.OneLine error.name := by
  cases error with
  | openFailed path cause =>
    change Text.OneLine "OpenError"
    decide
  | readFailed cause =>
    change Text.OneLine "ReadError"
    decide
  | writeFailed cause =>
    change Text.OneLine "WriteError"
    decide

theorem oneLine_message {error : ScanFailure} (h : Text.OneLine error.cause.text) :
    Text.OneLine error.message := by
  cases error with
  | openFailed path cause =>
    have hopen : Text.OneLine "could not open " := by decide
    have hcolon : Text.OneLine ": " := by decide
    exact ((hopen.append (Text.oneLine_quoted path)).append hcolon).append h
  | readFailed cause =>
    have hread : Text.OneLine "error reading source: " := by decide
    exact hread.append h
  | writeFailed cause =>
    have hwrite : Text.OneLine "error writing tokens: " := by decide
    exact hwrite.append h

theorem announcement_eq (error : ScanFailure) :
    error.announcement =
      "Error: " ++ error.name ++ ": " ++ error.message ++
        error.tip?.elim "" fun tip => " (" ++ tip ++ ")" := by
  rw [announcement]
  cases error.tip? <;> rfl

theorem oneLine_of_tip? {error : ScanFailure} {tip : String} (h : error.tip? = some tip) :
    Text.OneLine tip := by
  cases error with
  | openFailed path cause =>
    simp only [tip?] at h
    split at h <;> cases h <;> decide
  | readFailed cause =>
    cases h
    decide
  | writeFailed cause => cases h

/-- An error is announced on one line, unless the text of its cause has a line end of its own. -/
theorem oneLine_announcement {error : ScanFailure} (h : Text.OneLine error.cause.text) :
    Text.OneLine error.announcement := by
  have herror : Text.OneLine "Error: " := by decide
  have hcolon : Text.OneLine ": " := by decide
  rw [announcement]
  refine (((herror.append error.oneLine_name).append hcolon).append (oneLine_message h)).append ?_
  split
  · next tip htip =>
    have hopening : Text.OneLine " (" := by decide
    have hclosing : Text.OneLine ")" := by decide
    exact (hopening.append (oneLine_of_tip? htip)).append hclosing
  · decide

end ScanFailure

/-! ## Scans of files -/

section

variable {openFile : String → Except Fault Reader} {path : String}

theorem scanFile_of_open_error {fault : Fault} (h : openFile path = .error fault)
    (settings : Settings) :
    scanFile openFile settings path = pure (.error (.openFailed path fault)) := by
  rw [scanFile, h]

theorem scanFile_of_open {reader : Reader} (h : openFile path = .ok reader)
    (settings : Settings) :
    scanFile openFile settings path =
      { value :=
          match (Scanner.scan settings reader).value.2.finishScan with
          | .error error => .error error
          | .ok () => .ok (tokensIn settings reader.remaining ++ [Token.endOfInput])
        events := (Scanner.scan settings reader).events } := by
  have htokens : (Scanner.scan settings reader).value.1 =
      tokensIn settings reader.remaining ++ [Token.endOfInput] := Scanner.value_scan settings reader
  have hbind : scanFile openFile settings path =
      { value := do
          (Scanner.scan settings reader).value.2.finishScan
          return (Scanner.scan settings reader).value.1
        events := (Scanner.scan settings reader).events ++ [] } := by
    rw [scanFile, h]
    rfl
  rw [hbind, htokens, List.append_nil]
  cases (Scanner.scan settings reader).value.2.finishScan with
  | error error => rfl
  | ok => rfl

end

/-- The only error that a scan ends with is that of a read. -/
theorem Scanner.exists_fault_of_finishScan {scanner : Scanner} {error : ScanFailure}
    (h : scanner.finishScan = .error error) : ∃ fault, error = .readFailed fault := by
  unfold finishScan at h
  split at h
  · next fault hfault =>
    cases h
    exact ⟨fault, rfl⟩
  · cases h

namespace CommandLine

open Dump

/-! ## The log filter of a run -/

theorem Environment.filter_eq (environment : Environment) (verbose : Bool) :
    environment.filter verbose =
      match environment.log.bind LogFilter.ofText? with
      | some filter => filter
      | none => LogFilter.upTo (if verbose then .debug else .info) := by
  rw [Environment.filter]
  cases environment.log.bind LogFilter.ofText? <;> rfl

/-- Asked for verbosity or not, a log without a filter of its own shows what closes a dump. -/
theorem verbosity_info_le (verbose : Bool) :
    Level.info.verbosity ≤ (if verbose then Level.debug else Level.info).verbosity := by
  cases verbose <;> decide

/-! ## Runs that dump a file -/

section

variable {environment : Environment} {arguments : List String} {options : Options}
  {openFile : String → Except Fault Reader}

theorem run_of_parse (hparse : parse environment.verbose arguments = .ok (.dump options))
    (openFile : String → Except Fault Reader) (device : Device) (elapsed : String) :
    run environment arguments openFile device elapsed =
      (ofFile options (openFile options.file) device elapsed).outcome
        (environment.filter options.verbose) := by
  rw [run, hparse]

theorem run_of_open_error (hparse : parse environment.verbose arguments = .ok (.dump options))
    {fault : Fault} (hopen : openFile options.file = .error fault) (device : Device)
    (elapsed : String) :
    run environment arguments openFile device elapsed =
      { exitCode := 1
        output := ""
        diagnostics := Text.lines (ScanFailure.openFailed options.file fault).announcement } := by
  rw [run_of_parse hparse, hopen, ofFile, outcome_eq]
  simp

/-- A dump of a file that was opened lists the tokens of the bytes that the reader delivers, and
ends as a scan of them does. -/
theorem run_of_open (hparse : parse environment.verbose arguments = .ok (.dump options))
    {reader : Reader} (hopen : openFile options.file = .ok reader) (elapsed : String) :
    let settings : Settings := { maxLexeme := options.maxLexeme }
    let scan := Scanner.scan settings reader
    let tokens := tokensIn settings reader.remaining
    let output := listing (tokens.filter fun token => !(options.hideComments && token.isComment))
    let filter := environment.filter options.verbose
    let records := scan.events.map Event.record
    run environment arguments openFile .accepting elapsed =
      match scan.value.2.finishScan with
      | .error error =>
        { exitCode := 1
          output
          diagnostics := filter.linesOf records ++ Text.lines error.announcement }
      | .ok () =>
        { exitCode := 0
          output
          diagnostics :=
            filter.linesOf (records ++ closingRecords options.file tokens elapsed) } := by
  intro settings scan tokens output filter records
  have hdump := ofReader_of_taken options reader .accepting elapsed (.inl rfl)
  rw [filter_isListed, filter_scan] at hdump
  rw [run_of_parse hparse, hopen, ofFile, hdump, outcome_eq]
  cases scan.value.2.finishScan with
  | error error => simp [output, filter, records, tokens, scan, settings]
  | ok => simp [output, filter, records, tokens, scan, settings]

/-! ## Runs and scans -/

variable (hparse : parse environment.verbose arguments = .ok (.dump options))
  (hcomments : options.hideComments = false)

include hcomments in
theorem filter_shown (tokens : List Token) :
    (tokens.filter fun token => !(options.hideComments && token.isComment)) = tokens := by
  simp [hcomments]

include hparse hcomments in
theorem run_of_scanFile_ok {tokens : List Token}
    (h : (scanFile openFile { maxLexeme := options.maxLexeme } options.file).value = .ok tokens)
    (elapsed : String) :
    ∃ listed, tokens = listed ++ [Token.endOfInput] ∧
      (∀ token ∈ listed, token.isEndOfInput = false) ∧
      run environment arguments openFile .accepting elapsed =
        { exitCode := 0
          output := listing listed
          diagnostics := (environment.filter options.verbose).linesOf
            ((scanFile openFile { maxLexeme := options.maxLexeme } options.file).events.map
                Event.record ++
              closingRecords options.file listed elapsed) } := by
  cases hopen : openFile options.file with
  | error fault =>
    rw [scanFile_of_open_error hopen] at h
    cases h
  | ok reader =>
    have hrun := run_of_open hparse hopen elapsed
    dsimp only at hrun
    rw [filter_shown hcomments] at hrun
    rw [scanFile_of_open hopen] at h ⊢
    cases hfinish : (Scanner.scan { maxLexeme := options.maxLexeme } reader).value.2.finishScan with
    | error error =>
      rw [hfinish] at h
      cases h
    | ok =>
      rw [hfinish] at h hrun
      cases h
      exact ⟨_, rfl, fun token => isEndOfInput_of_mem_tokensIn, hrun⟩

include hparse hcomments in
theorem run_of_scanFile_error {error : ScanFailure}
    (h : (scanFile openFile { maxLexeme := options.maxLexeme } options.file).value = .error error)
    (elapsed : String) :
    (run environment arguments openFile .accepting elapsed).exitCode = 1 ∧
      (run environment arguments openFile .accepting elapsed).diagnostics =
        (environment.filter options.verbose).linesOf
            ((scanFile openFile { maxLexeme := options.maxLexeme } options.file).events.map
              Event.record) ++
          Text.lines error.announcement ∧
      match openFile options.file with
      | .error fault =>
        error = .openFailed options.file fault ∧
          (run environment arguments openFile .accepting elapsed).output = ""
      | .ok reader =>
        (∃ fault, error = .readFailed fault) ∧
          ∃ listed,
            (Scanner.tokensOf { maxLexeme := options.maxLexeme } reader.remaining).value =
              listed ++ [Token.endOfInput] ∧
            (∀ token ∈ listed, token.isEndOfInput = false) ∧
            (run environment arguments openFile .accepting elapsed).output = listing listed := by
  cases hopen : openFile options.file with
  | error fault =>
    rw [run_of_open_error hparse hopen .accepting elapsed, scanFile_of_open_error hopen]
    rw [scanFile_of_open_error hopen] at h
    cases h
    exact ⟨rfl, by simp, rfl, rfl⟩
  | ok reader =>
    have hrun := run_of_open hparse hopen elapsed
    dsimp only at hrun
    rw [filter_shown hcomments] at hrun
    rw [scanFile_of_open hopen] at h ⊢
    cases hfinish : (Scanner.scan { maxLexeme := options.maxLexeme } reader).value.2.finishScan with
    | error failure =>
      rw [hfinish] at h hrun
      cases h
      rw [hrun]
      exact ⟨rfl, rfl, Scanner.exists_fault_of_finishScan hfinish, _,
        Scanner.value_tokensOf _ reader.remaining, fun token => isEndOfInput_of_mem_tokensIn, rfl⟩
    | ok =>
      rw [hfinish] at h
      cases h

end

/-- **The program agrees with a scan of the file.**  Let the arguments ask for a dump with the
comments, and let the output go to a device that accepts everything.  The file that is asked for
has a name.

If the scan of the file hands out its tokens, the program ends with exit code 0.  Its output is one
line for each token in front of the report of the end.  It logs the events of the scan, a warning
with the number of unknown tokens exactly if there are any, and a summary with the number of all
tokens.  If the environment sets no log filter, the warning and the summary are the last lines of the
log.

If the scan fails, the program ends with exit code 1 and announces the same error behind the events
of the scan, by its name, its message and its tip.  It logs neither a warning nor a summary, since no
event is recorded as one.  The announcement is the last line, unless the text of the cause has a line
end of its own, which no failure of the operating system has.  The output is empty if the file could
not be opened, and otherwise lists the tokens of the bytes that were delivered before the failure. -/
theorem run_agrees_with_scanFile (environment : Environment) (arguments : List String)
    (openFile : String → Except Fault Reader) (elapsed : String) (options : Options)
    (hparse : parse environment.verbose arguments = .ok (.dump options))
    (hcomments : options.hideComments = false) :
    let settings : Settings := { maxLexeme := options.maxLexeme }
    let scan := scanFile openFile settings options.file
    let outcome := run environment arguments openFile .accepting elapsed
    let lines (tokens : List Token) :=
      String.join (tokens.map fun token =>
        token.kind.name ++ "\t" ++ Text.quoted token.value ++ "\n")
    let log (records : List Record) :=
      (environment.filter options.verbose).linesOf (scan.events.map Event.record ++ records)
    let warning (unknown : Nat) : Record :=
      { target := "ccx_lex", level := .warn, message := "source contains unrecognised input"
        fields := [("unknown", toString unknown)] }
    let summary (total : Nat) : Record :=
      { target := "ccx_lex", level := .info, message := "scanned " ++ options.file
        fields := [("tokens", toString total), ("elapsed", elapsed)] }
    options.file ≠ "" ∧
      match scan.value with
      | .ok tokens =>
        ∃ listed, tokens = listed ++ [Token.endOfInput] ∧
          (∀ token ∈ listed, token.isEndOfInput = false) ∧
          outcome.exitCode = 0 ∧
          outcome.output = lines listed ∧
          let unknown := listed.countP fun token => token.kind = .unknown
          outcome.diagnostics =
              log ((if ∃ token ∈ listed, token.kind = .unknown then [warning unknown] else []) ++
                [summary listed.length]) ∧
            (environment.log.bind LogFilter.ofText? = none →
              outcome.diagnostics =
                log [] ++
                  ((if ∃ token ∈ listed, token.kind = .unknown then
                      [" WARN source contains unrecognised input unknown=" ++ toString unknown]
                    else []) ++
                    Text.lines
                      (" INFO " ++ Text.guarded ("scanned " ++ options.file) ++ " tokens=" ++
                        toString listed.length ++ " elapsed=" ++ elapsed)))
      | .error error =>
        let announcement :=
          "Error: " ++ error.name ++ ": " ++ error.message ++
            error.tip?.elim "" fun tip => " (" ++ tip ++ ")"
        outcome.exitCode = 1 ∧
          outcome.diagnostics = log [] ++ Text.lines announcement ∧
          (Text.OneLine error.cause.text → outcome.diagnostics.getLast? = some announcement) ∧
          (∀ event ∈ scan.events, ∀ count,
            event.record ≠ warning count ∧ event.record ≠ summary count) ∧
          match openFile options.file with
          | .error fault => error = .openFailed options.file fault ∧ outcome.output = ""
          | .ok reader =>
            (∃ fault, error = .readFailed fault) ∧
              ∃ listed,
                (Scanner.tokensOf settings reader.remaining).value =
                  listed ++ [Token.endOfInput] ∧
                (∀ token ∈ listed, token.isEndOfInput = false) ∧
                outcome.output = lines listed := by
  dsimp only
  refine ⟨file_ne_empty_of_parse hparse, ?_⟩
  cases hvalue : (scanFile openFile { maxLexeme := options.maxLexeme } options.file).value with
  | ok tokens =>
    obtain ⟨listed, htokens, hproper, hrun⟩ := run_of_scanFile_ok hparse hcomments hvalue elapsed
    rw [hrun]
    refine ⟨listed, htokens, hproper, rfl, rfl, ?_, fun hunset => ?_⟩
    · rw [closingRecords_eq]
      rfl
    · rw [LogFilter.linesOf_append, List.append_nil, Environment.filter_eq, hunset]
      exact congrArg _ (linesOf_closingRecords (verbosity_info_le options.verbose) _ listed elapsed)
  | error error =>
    obtain ⟨hexit, hdiagnostics, houtput⟩ :=
      run_of_scanFile_error hparse hcomments hvalue elapsed
    dsimp only
    rw [← error.announcement_eq]
    refine ⟨hexit, ?_, fun hcause => ?_, fun event _ count => ?_, houtput⟩
    · rwa [List.append_nil]
    · rw [hdiagnostics, Text.lines_of_oneLine (ScanFailure.oneLine_announcement hcause)]
      exact List.getLast?_concat
    · have htarget : Event.target ≠ "ccx_lex" := by decide
      exact ⟨fun h => htarget (congrArg Record.target h),
        fun h => htarget (congrArg Record.target h)⟩

/-- A name and a stray byte, in a file that can be read to its end, and in one where the start of a
comment follows and then the disk fails. -/
theorem run_agrees_with_scanFile_strayByte :
    let whole (_ : String) : Except Fault Reader := .ok { results := [.portion [0x69, 0x40]] }
    let broken (_ : String) : Except Fault Reader :=
      .ok { results := [.portion [0x69, 0x40, 0x2f, 0x2a], .failed (.system 5)] }
    let outcome (openFile : String → Except Fault Reader) :=
      run {} ["a.ccx"] openFile .accepting "1ms"
    parse none ["a.ccx"] = .ok (.dump { file := "a.ccx" }) ∧
      ((scanFile whole {} "a.ccx").value =
          .ok [⟨.identifier, "i", none⟩, ⟨.unknown, "@", none⟩, Token.endOfInput] ∧
        (outcome whole).exitCode = 0 ∧
        (outcome whole).output = "Identifier\t\"i\"\nUnknown\t\"@\"\n" ∧
        (outcome whole).diagnostics =
          [" WARN source contains unrecognised input unknown=1",
            " INFO scanned a.ccx tokens=2 elapsed=1ms"]) ∧
      (scanFile broken {} "a.ccx").value = .error (.readFailed (.system 5)) ∧
        (outcome broken).exitCode = 1 ∧
        (outcome broken).diagnostics.getLast? =
          some ("Error: ReadError: error reading source: Input/output error (os error 5) " ++
            "(Tokens scanned before the failure were kept, the rest of the input was treated " ++
            "as missing)") := by
  intro whole broken outcome
  have hparse : parse none ["a.ccx"] = .ok (.dump { file := "a.ccx" }) := rfl
  have hagree (openFile : String → Except Fault Reader) :=
    run_agrees_with_scanFile {} ["a.ccx"] openFile "1ms" { file := "a.ccx" } hparse rfl
  refine ⟨hparse, ?_, ?_⟩
  · have hvalue : (scanFile whole {} "a.ccx").value =
        .ok [⟨.identifier, "i", none⟩, ⟨.unknown, "@", none⟩, Token.endOfInput] := by cbv
    have hscan : (Environment.filter {} false).linesOf
        ((scanFile whole {} "a.ccx").events.map Event.record ++ []) = [] := by cbv
    have hwhole := hagree whole
    dsimp only at hwhole
    rw [hvalue] at hwhole
    obtain ⟨-, listed, htokens, -, hexit, houtput, -, hlog⟩ := hwhole
    have htwo : [⟨.identifier, "i", none⟩, ⟨.unknown, "@", none⟩] ++ [Token.endOfInput] =
        listed ++ [Token.endOfInput] := htokens
    obtain rfl := List.append_cancel_right htwo
    refine ⟨hvalue, hexit, houtput.trans (by decide +kernel), (hlog rfl).trans ?_⟩
    rw [hscan]
    decide +kernel
  · have hvalue : (scanFile broken {} "a.ccx").value = .error (.readFailed (.system 5)) := by cbv
    have hbroken := hagree broken
    dsimp only at hbroken
    rw [hvalue] at hbroken
    obtain ⟨-, hexit, -, hlast, -⟩ := hbroken
    exact ⟨hvalue, hexit, (hlast (Fault.oneLine_text_system 5)).trans (by decide +kernel)⟩

end CommandLine

end CcxLexis
