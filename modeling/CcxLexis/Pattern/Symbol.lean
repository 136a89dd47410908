import CcxLexis.Pattern.Flags

/-!
# Symbols of a pattern

A symbol is an item of a pattern without parts: a character, a class of characters that has a
name, or a place in the text.  A backslash starts the written form of most of them.

Of characters beyond ASCII nothing is known but their numbers.  So a pattern about characters can
use no class that has a name, cannot ask for the edge of a word, and cannot match a character in
both cases.  A pattern about bytes can, but it must match nothing that is not text: no single byte
beyond ASCII, and none of the bytes outside of a class.
-/

namespace CcxLexis.Pattern

inductive Symbol where
  /-- A character, and whether it was written as the number of a byte. -/
  | literal (c : Char) (asByte : Bool)
  /-- Any character at all. -/
  | any
  /-- The digits, the blanks or the letters of words, or what is none of these. -/
  | namedClass (negated : Bool)
  /-- The start or the end of a line or of the text. -/
  | edge
  /-- The start or the end of a word, either of them, or neither. -/
  | wordEdge
deriving DecidableEq, Repr

/-- Whether a symbol can be matched under some flags. -/
def Flags.allow (flags : Flags) : Symbol → Bool
  | .literal c asByte =>
    if flags.unicode then !flags.ignoreCase else !asByte || c.toNat ≤ 0x7f
  | .any => flags.unicode
  | .namedClass negated => !flags.unicode && !negated
  | .edge => true
  | .wordEdge => !flags.unicode

/-! ## Behind a backslash -/

/-- The characters that are written with a letter of their own. -/
def letteredCharacters : List (Char × Char) :=
  [('a', '\x07'), ('f', '\x0c'), ('t', '\t'), ('n', '\n'), ('r', '\r'), ('v', '\x0b')]

/-- What a backslash and one character stand for.  Marks stand for themselves. -/
def escaped? (c : Char) : Option Symbol :=
  if ['d', 's', 'w'].contains c then some (.namedClass false)
  else if ['D', 'S', 'W'].contains c then some (.namedClass true)
  else if ['b', 'B', '<', '>'].contains c then some .wordEdge
  else if ['A', 'z'].contains c then some .edge
  else if c.toNat ≤ 0x7f && !c.isAlphanum then some (.literal c false)
  else (letteredCharacters.lookup c).map (.literal · false)

/-- How many digits the number of a character has behind its letter. -/
def numberLength? : Char → Option Nat
  | 'x' => some 2
  | 'u' => some 4
  | 'U' => some 8
  | _ => none

def hexDigit? (c : Char) : Option Nat :=
  "0123456789abcdef".toList.findIdx? (· == c.toLower)

/-- Reads hexadecimal digits behind the digits of `n`. -/
def readNumber (flags : Flags) : (digits : Nat) → (n : Nat) → List Char → Option (Nat × List Char)
  | 0, n, cs => some (n, cs)
  | _ + 1, _, [] => none
  | digits + 1, n, c :: cs =>
    match hexDigit? c with
    | none => none
    | some digit => readNumber flags digits (n * 16 + digit) (flags.skip cs)

/-- Reads a symbol behind its backslash. -/
def readEscaped (flags : Flags) : List Char → Option (Symbol × List Char)
  | [] => none
  | c :: cs =>
    match numberLength? c with
    | none => (escaped? c).map (·, cs)
    | some digits =>
      match readNumber flags digits 0 (flags.skip cs) with
      | none => none
      | some (n, rest) =>
        if n.isValidChar then some (.literal (Char.ofNat n) (c == 'x'), rest) else none

/-- Reads a symbol that starts with a character, where no mark but the backslash has a meaning. -/
def readSymbol (flags : Flags) (c : Char) (cs : List Char) : Option (Symbol × List Char) :=
  if c == '\\' then readEscaped flags cs else some (.literal c false, cs)

theorem length_readNumber_le {flags : Flags} {digits n : Nat} {cs : List Char} {number : Nat}
    {rest : List Char} (h : readNumber flags digits n cs = some (number, rest)) :
    rest.length ≤ cs.length := by
  fun_induction readNumber flags digits n cs with
  | case1 => simp_all
  | case2 => cases h
  | case3 => cases h
  | case4 digits n c cs digit _ ih =>
    have hskip := flags.length_skip_le cs
    have hrest := ih h
    simp only [List.length_cons]
    omega

theorem length_readEscaped_le {flags : Flags} {cs : List Char} {symbol : Symbol}
    {rest : List Char} (h : readEscaped flags cs = some (symbol, rest)) :
    rest.length ≤ cs.length := by
  unfold readEscaped at h
  split at h
  · cases h
  · rename_i c cs
    split at h
    · obtain ⟨_, _, hrest⟩ := Option.map_eq_some_iff.mp h
      simp only [← (Prod.mk.inj hrest).2, List.length_cons]
      omega
    · split at h
      · cases h
      · rename_i hread
        split at h
        · have hskip := flags.length_skip_le cs
          have hnumber := length_readNumber_le hread
          simp only [Option.some.injEq, Prod.mk.injEq] at h
          simp only [List.length_cons, ← h.2]
          omega
        · cases h

theorem length_readSymbol_le {flags : Flags} {c : Char} {cs : List Char} {symbol : Symbol}
    {rest : List Char} (h : readSymbol flags c cs = some (symbol, rest)) :
    rest.length ≤ cs.length := by
  unfold readSymbol at h
  split at h
  · exact length_readEscaped_le h
  · simp_all

end CcxLexis.Pattern
