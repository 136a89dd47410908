import CcxLexis.Event

/-!
# Log filters

A log filter decides which records are shown.  It is a list of rules.  A rule sets how verbose the
log is for the records whose target starts with a given text, whose fields include a given one, or
both; a rule that asks for neither is about all records.

The most specific rule about a record decides: the one with the longest target, then one that asks
for a field.  Of two rules that ask for the same, the later one counts.  A record without a rule is
not shown.
-/

namespace CcxLexis

/-- How verbose the log is, from 0 (nothing) to 5 (everything), for the records whose target starts
with a text and that have a field. -/
structure LogRule where
  target : Option String := none
  field : Option String := none
  verbosity : Nat
deriving DecidableEq, Repr

namespace LogRule

def appliesTo (rule : LogRule) (record : Record) : Bool :=
  (rule.target.all fun start => start.toList.isPrefixOf record.target.toList) &&
    rule.field.all record.fieldNames.contains

/-- How specific a rule is about targets.  A rule for all targets is the least specific. -/
def reach (rule : LogRule) : Nat :=
  match rule.target with
  | none => 0
  | some start => start.utf8ByteSize + 1

/-- Whether a rule gives way to another one that is about the same record.  Of two rules that ask
for different fields, the one with the later name counts. -/
def yieldsTo (rule other : LogRule) : Bool :=
  rule.reach < other.reach ||
    (rule.reach == other.reach &&
      match rule.field, other.field with
      | none, _ => true
      | some _, none => false
      | some name, some otherName => name ≤ otherName)

end LogRule

/-- The rules that decide which records are shown. -/
structure LogFilter where
  rules : List LogRule
deriving DecidableEq, Repr

namespace LogFilter

/-- The filter that shows all records up to a level. -/
def upTo (level : Level) : LogFilter :=
  { rules := [{ verbosity := level.verbosity }] }

/-- The rule that decides about a record. -/
def ruleFor? (filter : LogFilter) (record : Record) : Option LogRule :=
  (filter.rules.filter (·.appliesTo record)).foldl
    (fun best rule =>
      match best with
      | some chosen => if chosen.yieldsTo rule then some rule else some chosen
      | none => some rule)
    none

/-- Whether a record is shown. -/
def shows (filter : LogFilter) (record : Record) : Bool :=
  match filter.ruleFor? record with
  | some rule => record.level.verbosity ≤ rule.verbosity
  | none => false

end LogFilter

end CcxLexis
