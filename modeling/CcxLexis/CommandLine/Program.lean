import CcxLexis.CommandLine.Dump
import CcxLexis.CommandLine.Help
import CcxLexis.LogFilter.Written

/-!
# The program

`ccx-lex` reads its arguments and two variables of its environment.  It prints help, prints its
version, refuses its arguments, or dumps the tokens of a file.  Help and usage errors are printed as
plain text.
-/

namespace CcxLexis.CommandLine

/-- The variables of the environment that the program looks at. -/
structure Environment where
  /-- A word on verbosity, which stands in for `--verbose`. -/
  verbose : Option String := none
  /-- A written log filter. -/
  log : Option String := none

/-- The log filter of a run.  A filter set by the environment wins, unless it is malformed. -/
def Environment.filter (environment : Environment) (verbose : Bool) : LogFilter :=
  (environment.log.bind LogFilter.ofText?).getD
    (LogFilter.upTo (if verbose then .debug else .info))

/-- What a device takes of a text that is written to it at once. -/
def Device.take (device : Device) (text : String) : String :=
  match device with
  | .accepting => text
  | .refusing _ => ""

/-- How the program answers its arguments, given how files are opened, where its output goes and
how long the run took. -/
def run (environment : Environment) (arguments : List String)
    (openFile : String → Except Fault Reader) (device : Device) (elapsed : String) : Outcome :=
  match parse environment.verbose arguments with
  | .error error =>
    { exitCode := 2, output := ""
      diagnostics := Text.lines (Text.plain ("error: " ++ error.message)) }
  | .ok .help =>
    { exitCode := 0, output := device.take (Text.plain (helpText environment.verbose))
      diagnostics := [] }
  | .ok .version =>
    { exitCode := 0, output := device.take versionText, diagnostics := [] }
  | .ok (.dump options) =>
    (Dump.ofFile options (openFile options.file) device elapsed).outcome
      (environment.filter options.verbose)

end CcxLexis.CommandLine
