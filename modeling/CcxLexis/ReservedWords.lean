/-!
# Reserved words

The words that CCX keeps for itself.  A word is reserved only when it is spelled exactly as it
is listed here: case counts, and neither a prefix nor an extension of a reserved word is one.
-/

namespace CcxLexis

/-- The reserved words of CCX, in alphabetical order. -/
def reservedWords : List String :=
  ["accessor", "and", "array", "begin", "bool", "case", "character", "constant", "else",
    "elsif", "end", "exit", "function", "if", "in", "integer", "interface", "is", "loop",
    "module", "mutator", "natural", "null", "of", "or", "other", "out", "positive",
    "procedure", "range", "return", "struct", "subtype", "then", "type", "when", "while"]

def isReserved (word : String) : Bool :=
  reservedWords.contains word

end CcxLexis
