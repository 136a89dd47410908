import CcxLexis.CommandLine.Elapsed
import CcxLexis.CommandLine.Program

/-!
# The executable

The outermost layer of `ccx-lex`: it reads the environment, the clock and the file, and writes
what the program answers.  All decisions are made by `CcxLexis.CommandLine.run`.
-/

namespace CcxLexis.Executable

open CommandLine

/-- The failure behind an error of the operating system. -/
def faultOfError (error : IO.Error) : Fault :=
  match error with
  | .alreadyExists _ code _ | .otherError code _ | .resourceBusy code _
  | .resourceVanished code _ | .unsupportedOperation code _ | .hardwareFault code _
  | .unsatisfiedConstraints code _ | .illegalOperation code _ | .protocolError code _
  | .timeExpired code _ | .interrupted _ code _ | .noFileOrDirectory _ code _
  | .invalidArgument _ code _ | .permissionDenied _ code _ | .resourceExhausted _ code _
  | .inappropriateType _ code _ | .noSuchThing _ code _ => .system code.toNat
  | .unexpectedEof => .plain .unexpectedEnd
  | .userError text => .described .other text

/-- Reads a file to its end or to its first failure. -/
partial def readToEnd (handle : IO.FS.Handle) (results : Array ReadResult) :
    IO (Array ReadResult) := do
  match ← (handle.read 65536).toBaseIO with
  | .ok bytes =>
    if bytes.isEmpty then return results
    else readToEnd handle (results.push (.portion bytes.toList))
  | .error error =>
    let fault := faultOfError error
    let results := results.push (.failed fault)
    if fault.isInterruption then readToEnd handle results else return results

/-- Opens a file for reading. -/
def openFile (path : String) : IO (Except Fault Reader) := do
  if path.toList.contains '\x00' then return .error .nulInName
  match ← (IO.FS.Handle.mk path .read).toBaseIO with
  | .ok handle => return .ok { results := (← readToEnd handle #[]).toList }
  | .error error => return .error (faultOfError error)

/-- The file that the arguments name, opened, if they name one that is to be read. -/
def openRequested (environment : Environment) (arguments : List String) :
    IO (Except Fault Reader) := do
  match parse environment.verbose arguments with
  | .ok (.dump options) => openFile options.file
  | _ => return .error .noSuchFile

end CcxLexis.Executable

open CcxLexis.CommandLine CcxLexis.Executable in
def main (arguments : List String) : IO UInt32 := do
  let started ← IO.monoNanosNow
  let environment : Environment :=
    { verbose := ← IO.getEnv "CCX_LEX_VERBOSE", log := ← IO.getEnv "RUST_LOG" }
  let opened ← openRequested environment arguments
  let answerFor (device : Device) : IO Outcome := do
    let elapsed := elapsedText ((← IO.monoNanosNow) - started)
    return run environment arguments (fun _ => opened) device elapsed
  let outcome ← answerFor .accepting
  let stdout ← IO.getStdout
  let written ← (do
    stdout.putStr outcome.output
    stdout.flush).toBaseIO
  let outcome ←
    match written with
    | .ok () => pure outcome
    | .error error => answerFor (.refusing (faultOfError error))
  for line in outcome.diagnostics do
    IO.eprintln line
  return outcome.exitCode.toUInt32
