import CcxLexis.Byte
import CcxLexis.Token

/-!
# What a scanner is in the middle of

Between tokens a scanner skips blanks.  Inside a token it is in one of three situations.  A
*run* goes on as long as the next byte fits and ends before the first byte that does not.  A
*quotation* ends with the quotation mark that started it.  A *block comment* ends with `*/`.

A run can end anywhere, so a run is never malformed.  The other two must be closed, and a source
that stops before that leaves them unterminated.
-/

namespace CcxLexis

/-! ## Runs -/

/-- A lexeme that goes on as long as the bytes fit.  Inside the hash signs of a based number,
as in `16#FF#`, letters and underscores are digits. -/
inductive Run where
  | word
  | number (based : Bool)
  | operators
  | lineComment
deriving DecidableEq, Repr

namespace Run

/-- How a run goes on after one more byte, if the byte fits. -/
def extend? (run : Run) (byte : Byte) : Option Run :=
  match run with
  | word => if byte.isWordPart then some word else none
  | number based =>
    if byte == Byte.hash then some (number !based)
    else if byte.isDigit || byte == Byte.dot || (based && byte.isWordStart) then
      some (number based)
    else none
  | operators => if byte.isOperator then some operators else none
  | lineComment => if byte == Byte.lineFeed then none else some lineComment

/-- The run that a byte starts, if it starts one.  A slash is left out: what it starts depends
on the byte after it. -/
def ofFirst? (byte : Byte) : Option Run :=
  if byte.isWordStart then some word
  else if byte.isDigit then some (number false)
  else if byte.isOperator && byte != Byte.slash then some operators
  else none

end Run

/-! ## Quotations -/

/-- The two kinds of quotation. -/
inductive Quotation where
  | string
  | character
deriving DecidableEq, Repr

namespace Quotation

/-- The byte that opens and closes a quotation. -/
def mark : Quotation → Byte
  | string => Byte.quotationMark
  | character => Byte.apostrophe

def kind : Quotation → Kind
  | string => .string
  | character => .character

def ofFirst? (byte : Byte) : Option Quotation :=
  if byte == Byte.quotationMark then some string
  else if byte == Byte.apostrophe then some character
  else none

end Quotation

/-! ## Modes -/

/-- What a scanner is in the middle of. -/
inductive Mode where
  | blanks
  | run (run : Run)
  | quotation (quotation : Quotation)
  | blockComment
deriving DecidableEq, Repr

end CcxLexis
