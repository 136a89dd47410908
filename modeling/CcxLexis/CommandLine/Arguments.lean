import CcxLexis.Settings
import CcxLexis.Text.Plain

/-!
# Command-line arguments

What the arguments of `ccx-lex` ask for, and how they can be at fault.  Arguments are read from
left to right.

A value is checked late: when the next option or the file is read, or after the last argument.
An argument that fits nothing is reported at once, before a value that is still unchecked.  The
environment is consulted after the arguments, and only then is a missing file noticed.
-/

namespace CcxLexis.CommandLine

/-! ## Requests -/

/-- A request to dump the tokens of a file. -/
structure Options where
  file : String
  verbose : Bool := false
  hideComments : Bool := false
  maxLexeme : Option Limit := none
deriving DecidableEq, Repr

/-- What the command line asks for. -/
inductive Command where
  | dump (options : Options)
  | help
  | version
deriving DecidableEq, Repr

/-- The arguments that errors can be about. -/
inductive Argument where
  | file
  | verbose
  | noComments
  | maxLexeme
  | help
  | version
deriving DecidableEq, Repr

/-- How an argument is written in a message. -/
def Argument.spelling : Argument → String
  | file => "<FILE>"
  | verbose => "--verbose"
  | noComments => "--no-comments"
  | maxLexeme => "--max-lexeme <N>"
  | help => "--help"
  | version => "--version"

/-! ## Numbers -/

/-- Why a text is not a limit. -/
inductive NumberFault where
  | empty
  | badDigit
  | tooLarge
  | zero
deriving DecidableEq, Repr

def NumberFault.describe : NumberFault → String
  | empty => "cannot parse integer from empty string"
  | badDigit => "invalid digit found in string"
  | tooLarge => "number too large to fit in target type"
  | zero => "number would be zero for non-zero type"

/-- The largest limit, the largest number of 64 bits. -/
def largestLimit : Nat := 0xffffffffffffffff

/-- Reads decimal digits behind the digits of `n`.  The first character that is no digit or
makes the number too large is the fault. -/
def readDigits (n : Nat) : List Char → Except NumberFault Nat
  | [] => .ok n
  | c :: cs =>
    if c.isDigit then
      let n := n * 10 + (c.toNat - '0'.toNat)
      if largestLimit < n then .error .tooLarge else readDigits n cs
    else .error .badDigit

/-- Reads a limit: decimal digits with an optional plus sign. -/
def readLimit (text : String) : Except NumberFault Limit := do
  let digits ←
    match text.toList with
    | [] => throw .empty
    | ['+'] => throw .badDigit
    | '+' :: digits => pure digits
    | digits => pure digits
  let n ← readDigits 0 digits
  match Limit.ofNat? n with
  | some limit => return limit
  | none => throw .zero

/-! ## Errors -/

/-- Why a command line is refused. -/
inductive UsageError where
  | missingFile
  | unexpectedArgument (text : String)
  | unexpectedValue (value : String) (argument : Argument)
  | repeated (argument : Argument)
  | missingValue (argument : Argument)
  | invalidVerbose (value : String)
  | invalidLimit (value : String) (fault : NumberFault)
deriving DecidableEq, Repr

/-- The text of an error, styled for a terminal.  What the user wrote stands out, so a control
sequence in it ends with it. -/
def UsageError.message : UsageError → String
  | missingFile => "the following required arguments were not provided:"
  | unexpectedArgument text => "unexpected argument '" ++ Text.emphasised text ++ "' found"
  | unexpectedValue value argument =>
    "unexpected value '" ++ Text.emphasised value ++ "' for '" ++ argument.spelling ++
      "' found; no more were expected"
  | repeated argument =>
    "the argument '" ++ argument.spelling ++ "' cannot be used multiple times"
  | missingValue argument =>
    "a value is required for '" ++ argument.spelling ++ "' but none was supplied"
  | invalidVerbose value =>
    "invalid value '" ++ Text.emphasised value ++ "' for '" ++ Argument.verbose.spelling ++ "'"
  | invalidLimit value fault =>
    "invalid value '" ++ Text.emphasised value ++ "' for '" ++ Argument.maxLexeme.spelling ++
      "': " ++ fault.describe

/-! ## Reading the arguments -/

/-- A value that was read and is not checked yet. -/
inductive Unchecked where
  | file (path : String)
  | maxLexeme (value : Option String)
deriving DecidableEq, Repr

/-- What the arguments read so far amount to. -/
structure Reading where
  file : Option String := none
  verbose : Bool := false
  hideComments : Bool := false
  maxLexeme : Option Limit := none
  unchecked : Option Unchecked := none
  fileSeen : Bool := false
  optionsEnded : Bool := false
deriving DecidableEq, Repr

/-- Why reading stops before the last argument. -/
inductive Stop where
  | command (command : Command)
  | misuse (error : UsageError)
deriving DecidableEq, Repr

namespace Reading

def refuse {α : Type} (error : UsageError) : Except Stop α :=
  .error (.misuse error)

def setLimit (reading : Reading) (value : String) : Except Stop Reading :=
  if reading.maxLexeme.isSome then refuse (.repeated .maxLexeme)
  else
    match readLimit value with
    | .ok limit => .ok { reading with maxLexeme := some limit }
    | .error fault => refuse (.invalidLimit value fault)

/-- Checks the value that was read last, if it is still unchecked. -/
def settle (reading : Reading) : Except Stop Reading :=
  let settled := { reading with unchecked := none }
  match reading.unchecked with
  | none => .ok settled
  | some (.file path) =>
    if path.isEmpty then refuse (.missingValue .file) else .ok { settled with file := some path }
  | some (.maxLexeme none) => refuse (.missingValue .maxLexeme)
  | some (.maxLexeme (some value)) => settled.setLimit value

def setVerbose (reading : Reading) : Except Stop Reading := do
  let reading ← reading.settle
  if reading.verbose then refuse (.repeated .verbose)
  else return { reading with verbose := true }

def setHideComments (reading : Reading) : Except Stop Reading := do
  let reading ← reading.settle
  if reading.hideComments then refuse (.repeated .noComments)
  else return { reading with hideComments := true }

/-- Help and version are given as soon as they are asked for. -/
def answer (reading : Reading) (command : Command) : Except Stop Reading := do
  let _ ← reading.settle
  throw (.command command)

/-- Reads single-letter options written behind one hyphen. -/
def readLetters (reading : Reading) : List Char → Except Stop Reading
  | [] => .ok reading
  | letter :: letters => do
    if letter == 'v' then (← reading.setVerbose).readLetters letters
    else if letter == 'h' then reading.answer .help
    else if letter == 'V' then reading.answer .version
    else refuse (.unexpectedArgument ("-" ++ String.singleton letter))

/-- Reads an option that takes no value. -/
def readFlag (reading : Reading) (argument : Argument) (value : Option String)
    (set : Reading → Except Stop Reading) : Except Stop Reading :=
  match value with
  | some value => refuse (.unexpectedValue value argument)
  | none => set reading

/-- Reads an option written out behind two hyphens, with the value behind an equals sign. -/
def readName (reading : Reading) (name : String) (value : Option String) : Except Stop Reading :=
  match name with
  | "verbose" => reading.readFlag .verbose value setVerbose
  | "no-comments" => reading.readFlag .noComments value setHideComments
  | "help" => reading.readFlag .help value (answer · .help)
  | "version" => reading.readFlag .version value (answer · .version)
  | "max-lexeme" => do
    let reading ← reading.settle
    match value with
    | some value => reading.setLimit value
    | none => return { reading with unchecked := some (.maxLexeme none) }
  | _ => refuse (.unexpectedArgument ("--" ++ name))

def readFile (reading : Reading) (path : String) : Except Stop Reading := do
  if reading.fileSeen then refuse (.unexpectedArgument path)
  else
    let reading ← reading.settle
    return { reading with unchecked := some (.file path), fileSeen := true }

/-- Reads one argument. -/
def read (reading : Reading) (argument : String) : Except Stop Reading :=
  if reading.optionsEnded then reading.readFile argument
  else
    match argument.toList with
    | ['-', '-'] => .ok { reading with optionsEnded := true }
    | '-' :: '-' :: option =>
      let name := String.ofList (option.takeWhile (· != '='))
      match option.dropWhile (· != '=') with
      | [] => reading.readName name none
      | _ :: value => reading.readName name (some (String.ofList value))
    | '-' :: letter :: letters => reading.readLetters (letter :: letters)
    | _ =>
      if reading.unchecked = some (.maxLexeme none) then
        .ok { reading with unchecked := some (.maxLexeme (some argument)) }
      else reading.readFile argument

/-- Settles how verbose the run is.  The argument wins over the environment. -/
def settleVerbose (reading : Reading) (setting : Option String) : Except Stop Bool :=
  if reading.verbose then .ok true
  else
    match setting with
    | none => .ok false
    | some "true" => .ok true
    | some "false" => .ok false
    | some "" => refuse (.missingValue .verbose)
    | some value => refuse (.invalidVerbose value)

/-- The request that the arguments amount to. -/
def conclude (reading : Reading) (verboseVariable : Option String) : Except Stop Options := do
  let reading ← reading.settle
  let verbose ← reading.settleVerbose verboseVariable
  match reading.file with
  | none => refuse .missingFile
  | some file =>
    return { file, verbose, hideComments := reading.hideComments, maxLexeme := reading.maxLexeme }

end Reading

/-- Reads a command line, given the environment's word on verbosity. -/
def parse (verboseVariable : Option String) (arguments : List String) :
    Except UsageError Command :=
  let result := do
    let reading ← arguments.foldlM Reading.read {}
    reading.conclude verboseVariable
  match result with
  | .ok options => .ok (.dump options)
  | .error (.command command) => .ok command
  | .error (.misuse error) => .error error

end CcxLexis.CommandLine
