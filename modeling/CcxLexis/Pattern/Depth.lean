/-!
# Depths of patterns

How deep the parts of a pattern are nested.  A symbol has no depth.  A repetition, a group and a
class in brackets are one deeper than what they hold, and so is a sequence or a choice of several
parts.
-/

namespace CcxLexis.Pattern

/-- The depth of the deepest patterns that can be read. -/
def maximalDepth : Nat := 250

/-- The depth of parts that stand together.  A part that stands alone adds nothing. -/
def depthTogether : List Nat → Nat
  | [] => 0
  | [depth] => depth
  | depths => depths.foldl max 0 + 1

end CcxLexis.Pattern
