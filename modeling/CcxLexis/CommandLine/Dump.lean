import CcxLexis.CommandLine.Arguments
import CcxLexis.CommandLine.Output
import CcxLexis.LogFilter
import CcxLexis.Scanner.Stream

/-!
# Dumping the tokens of a file

A dump writes one line per token while it scans: the name of the kind, a tab and the quoted
text.  Comments can be left out of the output, though never out of the counts.  Two closing
records sum up a dump that went well.

A dump fails if the file cannot be opened, if the output is refused, or if a read failed.  A
refused portion of output ends the dump at once, so nothing that happens later is reported; a
failed read is reported only after the tokens before it were written.
-/

namespace CcxLexis.CommandLine

open Scanner (Scanned)

/-- How a run of the program ends: its exit code, what its output device took, and the lines of
its error stream. -/
structure Outcome where
  exitCode : Nat
  output : String
  diagnostics : List String
deriving DecidableEq, Repr

namespace Dump

/-! ## Lines -/

/-- The line of a token, in the portions in which it is written. -/
def linePortions (token : Token) : List String :=
  token.kind.name :: "\t" :: Text.quotedPortions token.value ++ ["\n"]

/-- The target of what the program itself reports. -/
def target : String := "ccx_lex"

def unknownRecord (unknown : Nat) : Record :=
  { target, level := .warn, message := "source contains unrecognised input",
    fields := [("unknown", toString unknown)] }

def totalRecord (file : String) (total : Nat) (elapsed : String) : Record :=
  { target, level := .info, message := "scanned " ++ file,
    fields := [("tokens", toString total), ("elapsed", elapsed)] }

/-- The records that close a dump of the given tokens. -/
def closingRecords (file : String) (tokens : List Token) (elapsed : String) : List Record :=
  let unknown := tokens.countP fun token => token.kind == .unknown
  (if unknown = 0 then [] else [unknownRecord unknown]) ++
    [totalRecord file tokens.length elapsed]

/-! ## Writing while scanning -/

/-- How far the writing of tokens has come: the output, or why it was refused, and the events
reported so far. -/
structure Writing where
  output : Except Fault Output
  events : Array Event

/-- Whether a token gets a line. -/
def isListed (hideComments : Bool) (token : Token) : Bool :=
  !token.isEndOfInput && !(hideComments && token.isComment)

/-- Scans one more token and writes its line.  Once output was refused, nothing is scanned any
more. -/
def Writing.step (hideComments : Bool) (writing : Writing) (scanned : Scanned) : Writing :=
  match writing.output with
  | .error _ => writing
  | .ok output =>
    { output :=
        if isListed hideComments scanned.token then output.writeAll (linePortions scanned.token)
        else .ok output
      events := writing.events ++ scanned.events }

/-! ## The whole dump -/

/-- What a dump comes to: its records, its output, and the error that ended it, if one did. -/
structure Result where
  records : List Record := []
  output : String := ""
  error : Option ScanFailure := none

/-- Dumps a source that was opened. -/
def ofReader (options : Options) (reader : Reader) (device : Device) (elapsed : String) :
    Result :=
  let opened := Scanner.start { maxLexeme := options.maxLexeme } reader
  let (scanned, scanner) := opened.value.drain
  let writing := scanned.foldl (Writing.step options.hideComments)
    { output := .ok { device }, events := opened.events.toArray }
  let records := writing.events.toList.map Event.record
  match writing.output.bind Output.flush with
  | .error fault => { records, error := some (.writeFailed fault) }
  | .ok output =>
    match scanner.finishScan with
    | .error error => { records, output := output.taken, error := some error }
    | .ok () =>
      let tokens := (scanned.map Scanned.token).filter fun token => !token.isEndOfInput
      { records := records ++ closingRecords options.file tokens elapsed, output := output.taken }

/-- Dumps a file, given what opening it came to. -/
def ofFile (options : Options) (opened : Except Fault Reader) (device : Device)
    (elapsed : String) : Result :=
  match opened with
  | .error fault => { error := some (.openFailed options.file fault) }
  | .ok reader => ofReader options reader device elapsed

/-- What the user sees of a dump under a log filter. -/
def Result.outcome (result : Result) (filter : LogFilter) : Outcome :=
  let log := (result.records.filter filter.shows).map Record.line
  let announcement := result.error.toList.map ScanFailure.announcement
  { exitCode := if result.error.isSome then 1 else 0
    output := result.output
    diagnostics := (log ++ announcement).flatMap Text.lines }

end Dump

end CcxLexis.CommandLine
