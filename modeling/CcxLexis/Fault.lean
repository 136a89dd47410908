/-!
# Failures of files and streams

Opening, reading and writing can fail, and each failure has a kind, which decides how it is
treated, and a text, which is shown.  A failure is given by its kind alone, by a kind with a
text of its own, or by the number under which the operating system reports it.

The table `systemErrors` holds the numbers that files and streams produce.  Any other number is
of kind `other` and is shown by its number.
-/

namespace CcxLexis

/-- The kinds of failure that are told apart. -/
inductive FaultKind where
  | notFound
  | permissionDenied
  | unexpectedEnd
  | interrupted
  | invalidData
  | invalidInput
  | brokenPipe
  | timedOut
  | wouldBlock
  | other
deriving DecidableEq, Repr

/-- The text of a failure of which only the kind is known. -/
def FaultKind.describe : FaultKind → String
  | notFound => "entity not found"
  | permissionDenied => "permission denied"
  | unexpectedEnd => "unexpected end of file"
  | interrupted => "operation interrupted"
  | invalidData => "invalid data"
  | invalidInput => "invalid input parameter"
  | brokenPipe => "broken pipe"
  | timedOut => "timed out"
  | wouldBlock => "operation would block"
  | other => "other error"

/-- An error number of the operating system, with its kind and its text. -/
structure SystemError where
  code : Nat
  kind : FaultKind
  text : String

def systemErrors : List SystemError :=
  [⟨1, .permissionDenied, "Operation not permitted"⟩,
    ⟨2, .notFound, "No such file or directory"⟩,
    ⟨4, .interrupted, "Interrupted system call"⟩,
    ⟨5, .other, "Input/output error"⟩,
    ⟨11, .wouldBlock, "Resource temporarily unavailable"⟩,
    ⟨13, .permissionDenied, "Permission denied"⟩,
    ⟨20, .other, "Not a directory"⟩,
    ⟨21, .other, "Is a directory"⟩,
    ⟨22, .invalidInput, "Invalid argument"⟩,
    ⟨23, .other, "Too many open files in system"⟩,
    ⟨24, .other, "Too many open files"⟩,
    ⟨28, .other, "No space left on device"⟩,
    ⟨32, .brokenPipe, "Broken pipe"⟩,
    ⟨36, .other, "File name too long"⟩,
    ⟨40, .other, "Too many levels of symbolic links"⟩,
    ⟨110, .timedOut, "Connection timed out"⟩]

/-- A failure of a file or a stream. -/
inductive Fault where
  | plain (kind : FaultKind)
  | described (kind : FaultKind) (text : String)
  | system (code : Nat)
deriving DecidableEq, Repr

namespace Fault

def systemError? (code : Nat) : Option SystemError :=
  systemErrors.find? fun error => error.code == code

def kind : Fault → FaultKind
  | plain kind => kind
  | described kind _ => kind
  | system code => ((systemError? code).map SystemError.kind).getD .other

/-- The text under which a failure is shown. -/
def text : Fault → String
  | plain kind => kind.describe
  | described _ text => text
  | system code =>
    ((systemError? code).map SystemError.text).getD ("Unknown error " ++ toString code) ++
      " (os error " ++ toString code ++ ")"

/-- An interrupted operation has done nothing and is simply repeated. -/
def isInterruption (fault : Fault) : Bool :=
  fault.kind == .interrupted

/-! ## The failures that file systems and devices answer with -/

def noSuchFile : Fault := system 2

def notADirectory : Fault := system 20

def isADirectory : Fault := system 21

def deviceFull : Fault := system 28

def nameTooLong : Fault := system 36

def nulInName : Fault := described .invalidInput "file name contained an unexpected NUL byte"

end Fault

end CcxLexis
