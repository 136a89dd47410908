import CcxLexis.Proofs.Agreement
import CcxLexis.Proofs.Switches
import Mathlib

/-!
# Verbosity only adds diagnostics

A verbose run does what a quiet run of the same request does, and says more about it.  What is
scanned, what is written and how the run ends are the same, since none of it looks at verbosity.  Of
the records, a verbose run shows all but the most detailed ones, and a quiet run shows those of them
that are no help for debugging, in the same order.  A log filter set by the environment overrides
both, and then there is no difference at all.

Verbosity can be asked for by an option, put anywhere among the arguments, or by the environment.
`AddsVerbosity` has these ways, and each of them changes the request in this one point.
-/

namespace CcxLexis

/-! ## Filters up to a level -/

namespace LogFilter

theorem filter_upTo_debug (records : List Record) :
    records.filter (upTo .debug).shows = records.filter fun record => record.level != .trace := by
  refine List.filter_congr fun record _ => ?_
  rw [shows_upTo]
  cases record.level <;> rfl

theorem filter_upTo_info (records : List Record) :
    records.filter (upTo .info).shows =
      (records.filter (upTo .debug).shows).filter fun record => record.level != .debug := by
  rw [List.filter_filter]
  refine List.filter_congr fun record _ => ?_
  rw [shows_upTo, shows_upTo]
  cases record.level <;> rfl

theorem ofText?_debug : ofText? "debug" = some (upTo .debug) := by
  have hsplit : "debug".splitOn "," = ["debug"] := by
    rw [String.splitOn, if_neg (by decide)]
    -- One turn for each character, none of which is a comma.
    iterate 5 rw [String.splitOnAux, if_neg (by decide), if_neg (by decide)]
    rw [String.splitOnAux, if_pos (by decide)]
    decide
  have hrules : rulesOfPiece? "debug" = some [{ verbosity := Level.debug.verbosity }] := by cbv
  have hpieces : (["debug"].filter fun piece => !piece.isEmpty) = ["debug"] := by decide
  rw [ofText?, hsplit, hpieces]
  simp [hrules, upTo]

end LogFilter

namespace CommandLine

open Dump

/-! ## Asking for verbosity -/

/-- The ways to ask for verbosity in addition to what arguments ask for: with the option, anywhere
among them, or with the variable of the environment. -/
inductive AddsVerbosity (environment : Environment) :
    List String → Environment → List String → Prop
  | option {word : String} (hword : word ∈ Switch.verbose.words) (front back : List String) :
      AddsVerbosity environment (front ++ back) environment (front ++ word :: back)
  | setting (arguments : List String) :
      AddsVerbosity environment arguments { environment with verbose := some "true" } arguments

section

variable {environment environment' : Environment} {arguments arguments' : List String}
  {options request : Options}

theorem parse_true {verboseVariable : Option String}
    (h : parse verboseVariable arguments = .ok (.dump options)) :
    parse (some "true") arguments = .ok (.dump (Switch.verbose.ask options)) := by
  obtain ⟨reading, hread, hconclude⟩ := exists_of_parse h
  obtain ⟨settled, file, verbose, hsettle, hfile, -, rfl⟩ := Reading.exists_of_conclude hconclude
  have hverbose : settled.settleVerbose (some "true") = .ok true := by
    unfold Reading.settleVerbose
    split <;> rfl
  exact parse_of_foldlM hread (Reading.conclude_of_settle hsettle hverbose hfile)

/-- However verbosity is asked for, nothing else is. -/
theorem AddsVerbosity.request_eq (h : AddsVerbosity environment arguments environment' arguments')
    (hparse : parse environment.verbose arguments = .ok (.dump options))
    (hquiet : options.verbose = false)
    (hrequest : parse environment'.verbose arguments' = .ok (.dump request)) :
    request = Switch.verbose.ask options := by
  cases h with
  | option hword front back => exact options_of_inserted hword hparse hquiet hrequest
  | setting =>
    have hloud := parse_true hparse
    have hrequest : parse (some "true") arguments = .ok (.dump request) := hrequest
    rw [hloud] at hrequest
    cases hrequest
    rfl

theorem AddsVerbosity.log_eq (h : AddsVerbosity environment arguments environment' arguments') :
    environment'.log = environment.log := by
  cases h <;> rfl

end

/-! ## Two runs -/

/-- **Verbosity only adds diagnostics.**  Let arguments ask for a quiet dump.  They are accepted as
well with the option of verbosity in front of them and with the variable of verbosity set.  However
verbosity is asked for in addition, the request is the same otherwise, and the two runs compare as
follows, whatever files there are and wherever the output goes.

If the environment sets a valid log filter, the runs are the same.  If it does not, they have the
same exit code, the same output and the same final error.  In front of it the verbose run shows all
records of the dump but those of level `TRACE`, and the quiet run shows those that are left when the
records of level `DEBUG` are taken out, in the same order. -/
theorem verbosity_only_adds_debug_records (environment : Environment) (arguments : List String)
    (options : Options) (hparse : parse environment.verbose arguments = .ok (.dump options))
    (hquiet : options.verbose = false) :
    let louder : Options := { options with verbose := true }
    (∀ word ∈ ["-v", "--verbose"],
      parse environment.verbose (word :: arguments) = .ok (.dump louder)) ∧
    parse (some "true") arguments = .ok (.dump louder) ∧
    ∀ environment' arguments', AddsVerbosity environment arguments environment' arguments' →
      ∀ request, parse environment'.verbose arguments' = .ok (.dump request) →
        request = louder ∧
        ∀ openFile device elapsed,
          let quiet := run environment arguments openFile device elapsed
          let loud := run environment' arguments' openFile device elapsed
          match environment.log.bind LogFilter.ofText? with
          | some _ => loud = quiet
          | none =>
            let dump := ofFile options (openFile options.file) device elapsed
            let outcome (shown : List Record) : Outcome :=
              { exitCode := if dump.error.isSome then 1 else 0
                output := dump.output
                diagnostics :=
                  (shown.map Record.line ++
                    dump.error.toList.map ScanFailure.announcement).flatMap Text.lines }
            let shown := dump.records.filter fun record => record.level != .trace
            loud = outcome shown ∧
              quiet = outcome (shown.filter fun record => record.level != .debug) := by
  intro louder
  have hoff : Switch.verbose.isAsked options = false := hquiet
  refine ⟨fun word hword => ?_, parse_true hparse, ?_⟩
  · have hword : word ∈ Switch.verbose.words := hword
    exact parse_cons_word hword hparse hoff
  intro environment' arguments' hadds request hrequest
  obtain rfl : request = louder := hadds.request_eq hparse hquiet hrequest
  refine ⟨rfl, fun openFile device elapsed => ?_⟩
  intro quiet loud
  have hquietRun : quiet = _ := run_of_parse hparse openFile device elapsed
  have hloudRun : loud = _ := run_of_parse hrequest openFile device elapsed
  rw [Environment.filter_eq, hquiet] at hquietRun
  rw [Environment.filter_eq, hadds.log_eq] at hloudRun
  cases hlog : environment.log.bind LogFilter.ofText? with
  | some filter =>
    rw [hlog] at hquietRun hloudRun
    rw [hquietRun, hloudRun]
    rfl
  | none =>
    rw [hlog] at hquietRun hloudRun
    dsimp only
    constructor
    · rw [hloudRun, ← LogFilter.filter_upTo_debug]
      rfl
    · rw [hquietRun, ← LogFilter.filter_upTo_debug, ← LogFilter.filter_upTo_info]
      rfl

/-- A byte that starts no token, and a failing read behind it: the quiet run keeps silent about the
byte, unless the environment asks for it. -/
theorem verbosity_only_adds_debug_records_strayByte :
    let openFile (_ : String) : Except Fault Reader :=
      .ok { results := [.portion [0x40], .failed (.system 5)] }
    let failedRead : Record := (Event.readFailed (.system 5)).record
    let strayByte : Record := (Event.unrecognisedByte 0x40).record
    let outcome (shown : List Record) : Outcome :=
      { exitCode := 1
        output := "Unknown\t\"@\"\n"
        diagnostics :=
          (shown.map Record.line ++
            [(ScanFailure.readFailed (.system 5)).announcement]).flatMap Text.lines }
    parse none ["a.ccx"] = .ok (.dump { file := "a.ccx" }) ∧
      parse none ["a.ccx", "-v"] = .ok (.dump { file := "a.ccx", verbose := true }) ∧
      run {} ["a.ccx", "-v"] openFile .accepting "1ms" = outcome [failedRead, strayByte] ∧
      run {} ["a.ccx"] openFile .accepting "1ms" = outcome [failedRead] ∧
      LogFilter.ofText? "debug" = some (LogFilter.upTo .debug) ∧
      run { log := some "debug" } ["a.ccx", "-v"] openFile .accepting "1ms" =
        outcome [failedRead, strayByte] ∧
      run { log := some "debug" } ["a.ccx"] openFile .accepting "1ms" =
        outcome [failedRead, strayByte] := by
  intro openFile failedRead strayByte outcome
  have hparse : parse none ["a.ccx"] = .ok (.dump { file := "a.ccx" }) := rfl
  have hrequest :
      parse none ["a.ccx", "-v"] = .ok (.dump { file := "a.ccx", verbose := true }) := rfl
  have hadds (environment : Environment) :
      AddsVerbosity environment ["a.ccx"] environment ["a.ccx", "-v"] :=
    .option (List.mem_cons_self ..) ["a.ccx"] []
  have hdump : Dump.ofFile { file := "a.ccx" } (openFile "a.ccx") .accepting "1ms" =
      { records :=
          [failedRead, strayByte, (Event.scanned .unknown "@").record,
            (Event.scanned .endOfInput "").record]
        output := "Unknown\t\"@\"\n"
        error := some (.readFailed (.system 5)) } := by cbv
  have hruns (environment : Environment) (hunset : environment.verbose = none) :=
    (verbosity_only_adds_debug_records environment ["a.ccx"] { file := "a.ccx" }
      (hunset ▸ hparse) rfl).2.2 environment ["a.ccx", "-v"] (hadds environment) _
        (hunset ▸ hrequest)
  obtain ⟨hloud, hquiet⟩ := (hruns {} rfl).2 openFile .accepting "1ms"
  dsimp only at hloud hquiet
  rw [hdump] at hloud hquiet
  have hsame := (hruns { log := some "debug" } rfl).2 openFile .accepting "1ms"
  dsimp only [Option.bind_some] at hsame
  rw [LogFilter.ofText?_debug] at hsame
  have hasked : run { log := some "debug" } ["a.ccx"] openFile .accepting "1ms" =
      outcome [failedRead, strayByte] := by
    have hlogged :
        parse (Environment.verbose { log := some "debug" }) ["a.ccx"] =
          .ok (.dump { file := "a.ccx" }) := hparse
    refine (run_of_parse hlogged openFile .accepting "1ms").trans ?_
    rw [hdump, Environment.filter_eq]
    dsimp only [Option.bind_some]
    rw [LogFilter.ofText?_debug]
    rfl
  exact ⟨hparse, hrequest, hloud, hquiet, LogFilter.ofText?_debug, hsame.trans hasked, hasked⟩

end CommandLine

end CcxLexis
