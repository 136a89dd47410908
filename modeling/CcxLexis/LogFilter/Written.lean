import CcxLexis.LogFilter
import CcxLexis.LogFilter.Value
import CcxLexis.Text.Alphanumeric
import CcxLexis.Text.Blank

/-!
# Written log filters

A filter is written as pieces between commas.  A piece is a level, for all targets, or it has up to
three parts: a target, a condition in brackets, and an equals sign with a level.  Without a level
everything is shown.

A condition names a span, or a field in braces, or both, and the field may be compared with a
value.  A field by itself is a rule about records that have it.  A span or a value is about spans,
and since no record lies in a span, such a piece shows nothing.

Blanks around a piece are no part of its form, but they do count where its parts are cut out: a
part starts as many bytes too early as there are blanks in front, and the last part includes the
blanks behind.  So a level with a blank beside it is not a level.
-/

namespace CcxLexis.LogFilter

/-! ## Levels -/

/-- The names of the verbosities, from 0 on. -/
def verbosityNames : List String :=
  ["off", "error", "warn", "info", "debug", "trace"]

/-- A verbosity by its number, with an optional plus sign and any number of zeros in front. -/
def numberedVerbosity? (text : String) : Option Nat :=
  let digits :=
    match text.toList with
    | '+' :: digits => digits
    | digits => digits
  if digits.isEmpty || !digits.all Char.isDigit then none
  else (String.ofList digits).toNat?.filter (· ≤ 5)

/-- A verbosity by its number or by its name, in any case. -/
def verbosity? (text : String) : Option Nat :=
  (numberedVerbosity? text).or (verbosityNames.findIdx? (· == text.toLower))

/-- The verbosity of a piece that sets none. -/
def fullVerbosity : Nat := 5

/-! ## Parts -/

/-- The part of a piece from one byte position to another.  A part that would cut a character is
none. -/
def part? (piece : String) (start stop : Nat) : Option String :=
  String.fromUTF8? (piece.toUTF8.extract start stop)

/-- A mark in a text: the character, its byte position, and the text behind it. -/
structure Mark where
  char : Char
  position : Nat
  behind : List Char

/-- The first of some marks in a text that starts at a byte position. -/
def findMark? (marks : List Char) (position : Nat) : List Char → Option Mark
  | [] => none
  | c :: cs =>
    if marks.contains c then some { char := c, position, behind := cs }
    else findMark? marks (position + c.utf8Size) cs

/-- The level that a piece sets behind its equals sign. -/
def levelAt? (piece : String) (start : Nat) : Option Nat := do
  let text ← part? piece start piece.utf8ByteSize
  if text.isEmpty then return fullVerbosity else verbosity? text

/-- The level behind a condition, which may be missing. -/
def levelBehind? (piece : String) (position : Nat) (behind : List Char) : Option Nat :=
  match behind with
  | [] => some fullVerbosity
  | '=' :: _ => levelAt? piece (position + 1)
  | _ => none

/-! ## Conditions -/

/-- The rules of a condition on a field, inside the braces that start at a position. -/
def fieldRules? (piece : String) (target : Option String) (named : Bool) (start : Nat)
    (inside : List Char) : Option (List LogRule) := do
  let brace ← findMark? ['\x7d'] start inside
  let field ← part? piece start brace.position
  match field.splitOn "=", brace.behind with
  | [name], ']' :: behind =>
    let verbosity ← levelBehind? piece (brace.position + 2) behind
    if name.isEmpty then none
    else if named then return []
    else return [{ target, field := some name, verbosity }]
  | _ :: value :: _, ']' :: behind =>
    let _ ← levelBehind? piece (brace.position + 2) behind
    if isComparable value then return [] else none
  | _, _ => none

/-- The rules of a condition, inside the brackets that start at a position. -/
def conditionRules? (piece : String) (target : Option String) (start : Nat)
    (inside : List Char) : Option (List LogRule) := do
  let mark ← findMark? [']', '\x7b'] start inside
  let span ← part? piece start mark.position
  if mark.char == ']' then
    let _ ← levelBehind? piece (mark.position + 1) mark.behind
    return []
  else fieldRules? piece target (!span.isEmpty) (mark.position + 1) mark.behind

/-! ## Pieces -/

/-- Whether a target may start with a character. -/
def startsTarget (c : Char) : Bool :=
  Text.isAlphanumeric c || c == '_' || c == '-' || c == ':'

/-- The rule of a piece without marks: a level for all targets, or a target. -/
def wordRule (piece : String) : LogRule :=
  match verbosity? piece with
  | some verbosity => { verbosity }
  | none => { target := some piece, verbosity := fullVerbosity }

/-- The rules of one piece: one, or none where a span is named.  A piece that fits no form is
refused. -/
def rulesOfPiece? (piece : String) : Option (List LogRule) :=
  match Text.trimmed piece.toList with
  | [] => none
  | '[' :: inside => conditionRules? piece none 1 inside
  | c :: cs =>
    if !startsTarget c then none
    else
      match findMark? ['=', '['] 0 (c :: cs) with
      | none => some [wordRule piece]
      | some mark => do
        let target ← part? piece 0 mark.position
        if mark.char == '=' then
          let verbosity ← levelAt? piece (mark.position + 1)
          return [{ target := some target, verbosity }]
        else conditionRules? piece (some target) (mark.position + 1) mark.behind

/-- Reads a written filter.  One refused piece refuses the whole, and a filter without pieces
shows errors. -/
def ofText? (text : String) : Option LogFilter :=
  let pieces := (text.splitOn ",").filter fun piece => !piece.isEmpty
  if pieces.isEmpty then some (upTo .error)
  else do
    let rules ← pieces.mapM rulesOfPiece?
    return { rules := rules.flatten }

end CcxLexis.LogFilter
