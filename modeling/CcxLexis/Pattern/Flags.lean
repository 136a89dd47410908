import CcxLexis.Text.Blank

/-!
# Flags of a pattern

A pattern is a regular expression.  What its characters stand for depends on flags, which the
pattern may set and clear on its way.  Three of them bear on whether a pattern can be read:
whether letters match both of their cases, whether the pattern is about characters or about bytes,
and whether blanks and comments between its items are skipped.
-/

namespace CcxLexis.Pattern

/-- The flags that bear on whether a pattern can be read. -/
structure Flags where
  ignoreCase : Bool := false
  /-- Whether the pattern is about characters.  Otherwise it is about bytes. -/
  unicode : Bool := true
  /-- Whether blanks and comments are skipped. -/
  spaced : Bool := false
deriving DecidableEq, Repr

/-- The letters of all flags. -/
def flagLetters : List Char :=
  ['i', 'm', 's', 'U', 'u', 'R', 'x']

/-- Sets or clears the flag of a letter. -/
def Flags.set (flags : Flags) (letter : Char) (value : Bool) : Flags :=
  match letter with
  | 'i' => { flags with ignoreCase := value }
  | 'u' => { flags with unicode := value }
  | 'x' => { flags with spaced := value }
  | _ => flags

/-! ## Blanks and comments -/

/-- What is left behind blanks and comments.  A comment goes from a number sign to the end of its
line. -/
def skipBlanks (inComment : Bool) : List Char → List Char
  | [] => []
  | c :: cs =>
    if inComment then skipBlanks (c != '\n') cs
    else if Text.isBlank c then skipBlanks false cs
    else if c == '#' then skipBlanks true cs
    else c :: cs

/-- What is left to read, given the flags. -/
def Flags.skip (flags : Flags) (cs : List Char) : List Char :=
  if flags.spaced then skipBlanks false cs else cs

theorem length_skipBlanks_le (inComment : Bool) (cs : List Char) :
    (skipBlanks inComment cs).length ≤ cs.length := by
  induction cs generalizing inComment with
  | nil => simp [skipBlanks]
  | cons c cs ih =>
    unfold skipBlanks
    split
    · exact Nat.le_succ_of_le (ih _)
    · split
      · exact Nat.le_succ_of_le (ih _)
      · split
        · exact Nat.le_succ_of_le (ih _)
        · exact Nat.le_refl _

theorem Flags.length_skip_le (flags : Flags) (cs : List Char) :
    (flags.skip cs).length ≤ cs.length := by
  unfold Flags.skip
  split
  · exact length_skipBlanks_le false cs
  · exact Nat.le_refl _

end CcxLexis.Pattern
