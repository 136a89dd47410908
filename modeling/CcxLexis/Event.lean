import CcxLexis.Byte
import CcxLexis.Settings
import CcxLexis.Fault
import CcxLexis.Text.Guarded
import CcxLexis.Token

/-!
# Events and their records

Scanning reports what happens as a sequence of events.  An event is data; its record gives it a
level, a wording and named fields, and is what a log filter decides about and what a log line
shows.
-/

namespace CcxLexis

/-! ## Levels -/

/-- The importance of a record, most important first. -/
inductive Level where
  | error
  | warn
  | info
  | debug
  | trace
deriving DecidableEq, Repr

namespace Level

def name : Level → String
  | error => "ERROR"
  | warn => "WARN"
  | info => "INFO"
  | debug => "DEBUG"
  | trace => "TRACE"

/-- How verbose a log must be to show a level. -/
def verbosity : Level → Nat
  | error => 1
  | warn => 2
  | info => 3
  | debug => 4
  | trace => 5

end Level

/-! ## Records -/

/-- One entry of a log.  The target names the part of the program that speaks. -/
structure Record where
  target : String
  level : Level
  message : String
  fields : List (String × String) := []
deriving DecidableEq, Repr

namespace Record

/-- The names that a log filter can ask for.  The message counts as a field. -/
def fieldNames (record : Record) : List String :=
  "message" :: record.fields.map Prod.fst

/-- The line that shows a record: the level in five columns, the message, and the fields.  The
message is guarded, since it may repeat what a user wrote. -/
def line (record : Record) : String :=
  let level := record.level.name
  "".pushn ' ' (5 - level.length) ++ level ++ " " ++ Text.guarded record.message ++
    String.join (record.fields.map fun field => " " ++ field.1 ++ "=" ++ field.2)

end Record

/-! ## What a scanner reports -/

/-- An event of a scanner. -/
inductive Event where
  | scanned (kind : Kind) (value : String)
  | unrecognisedByte (byte : Byte)
  | unterminatedComment (text : String)
  | unterminatedLiteral (kind : Kind) (text : String)
  | lexemeTruncated (limit : Limit)
  | readFailed (fault : Fault)
deriving DecidableEq, Repr

namespace Event

/-- The target of everything that a scanner reports. -/
def target : String := "ccx_lexer::lexer::lexer"

def level : Event → Level
  | scanned _ _ => .trace
  | unrecognisedByte _ => .debug
  | unterminatedComment _ => .debug
  | unterminatedLiteral _ _ => .debug
  | lexemeTruncated _ => .warn
  | readFailed _ => .warn

def message : Event → String
  | scanned _ _ => "scanned token"
  | unrecognisedByte _ => "unrecognised byte"
  | unterminatedComment _ => "unterminated block comment"
  | unterminatedLiteral _ _ => "unterminated literal"
  | lexemeTruncated _ => "lexeme truncated"
  | readFailed _ => "read failed, treating as end of input"

/-- The particulars of an event.  Source text is shown quoted. -/
def fields : Event → List (String × String)
  | scanned kind value => [("kind", kind.name), ("value", Text.quoted value)]
  | unrecognisedByte byte => [("byte", toString byte.toNat)]
  | unterminatedComment text => [("partial", Text.quoted text)]
  | unterminatedLiteral kind text => [("kind", kind.name), ("partial", Text.quoted text)]
  | lexemeTruncated limit => [("limit", toString limit.bytes)]
  | readFailed fault => [("error", fault.text)]

def record (event : Event) : Record :=
  { target, level := event.level, message := event.message, fields := event.fields }

end Event

end CcxLexis
