import CcxLexis.Logged

/-!
# The lexeme being read

A lexeme collects the bytes of one token.  With a limit of `n` it keeps the first `n` bytes and
drops the rest; the first drop is reported and remembered, later ones are silent.  Dropped bytes
still belong to the token, so a limit changes what is kept and never where a token ends.
-/

namespace CcxLexis

/-- The bytes kept so far, as text, how many they are, and whether any were dropped.

The count is kept beside the text because a byte above `0x7f` takes two bytes there. -/
structure Lexeme where
  text : String := ""
  stored : Nat := 0
  truncated : Bool := false
deriving DecidableEq, Repr

namespace Lexeme

def empty : Lexeme := {}

/-- Keeps one more byte. -/
def store (lexeme : Lexeme) (byte : Byte) : Lexeme :=
  { lexeme with text := lexeme.text.push byte.toChar, stored := lexeme.stored + 1 }

/-- Adds one byte of the token, keeping it if the limit leaves room. -/
def push (settings : Settings) (lexeme : Lexeme) (byte : Byte) : Logged Lexeme :=
  match settings.maxLexeme with
  | none => pure (lexeme.store byte)
  | some limit =>
    if lexeme.stored < limit.bytes then pure (lexeme.store byte)
    else if lexeme.truncated then pure lexeme
    else do
      .report (.lexemeTruncated limit)
      return { lexeme with truncated := true }

end Lexeme

end CcxLexis
