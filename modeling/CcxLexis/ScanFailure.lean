import CcxLexis.Fault
import CcxLexis.Text.Quoted

/-!
# Errors around scanning

Malformed source text never makes a scan fail.  What can fail is the plumbing around it:
opening the source, reading it, and writing the tokens out.
-/

namespace CcxLexis

/-- Why a source could not be scanned or its tokens not be delivered. -/
inductive ScanFailure where
  | openFailed (path : String) (cause : Fault)
  | readFailed (cause : Fault)
  | writeFailed (cause : Fault)
deriving DecidableEq, Repr

namespace ScanFailure

/-- The name under which an error is announced. -/
def name : ScanFailure → String
  | openFailed _ _ => "OpenError"
  | readFailed _ => "ReadError"
  | writeFailed _ => "WriteError"

def cause : ScanFailure → Fault
  | openFailed _ cause => cause
  | readFailed cause => cause
  | writeFailed cause => cause

def message : ScanFailure → String
  | openFailed path cause => "could not open " ++ Text.quoted path ++ ": " ++ cause.text
  | readFailed cause => "error reading source: " ++ cause.text
  | writeFailed cause => "error writing tokens: " ++ cause.text

/-- What the user may do about an error.  Only a path that is missing or may not be read, and a
source that broke off, come with advice. -/
def tip? : ScanFailure → Option String
  | openFailed _ cause =>
    match cause.kind with
    | .notFound => some "Check that the file path is correct"
    | .permissionDenied => some "Check the file's read permissions"
    | _ => none
  | readFailed _ =>
    some
      "Tokens scanned before the failure were kept, the rest of the input was treated as missing"
  | writeFailed _ => none

/-- The one line in which an error is announced. -/
def announcement (error : ScanFailure) : String :=
  "Error: " ++ error.name ++ ": " ++ error.message ++
    match error.tip? with
    | some tip => " (" ++ tip ++ ")"
    | none => ""

end ScanFailure

end CcxLexis
