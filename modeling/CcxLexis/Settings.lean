/-!
# Settings of a scanner

The one setting is the longest lexeme that is kept in full.  It cannot be zero, so a token for
an unrecognised byte always shows that byte.
-/

namespace CcxLexis

/-- A positive number of bytes. -/
structure Limit where
  bytes : Nat
  bytes_pos : 0 < bytes
deriving DecidableEq, Repr

/-- The limit of a given size, unless the size is zero. -/
def Limit.ofNat? (n : Nat) : Option Limit :=
  if h : 0 < n then some ⟨n, h⟩ else none

/-- How a scanner treats long lexemes.  Without a limit every lexeme is kept in full. -/
structure Settings where
  maxLexeme : Option Limit := none
deriving DecidableEq, Repr

/-- The settings with another limit, which takes the place of the one before. -/
def Settings.limitedTo (settings : Settings) (limit : Limit) : Settings :=
  { settings with maxLexeme := some limit }

end CcxLexis
