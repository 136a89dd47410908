import CcxLexis.Pattern.Flags
import CcxLexis.Text.Alphanumeric

/-!
# Groups of a pattern

An opening parenthesis starts a group.  A question mark behind it gives the group a name or sets
flags, for the group or, if the parenthesis is closed at once, for what follows.
-/

namespace CcxLexis.Pattern

/-- What an opening parenthesis starts. -/
inductive Opening where
  /-- A group with flags and perhaps a name. -/
  | group (flags : Flags) (name : Option String)
  /-- No group, but a change of flags for what follows. -/
  | change (flags : Flags)

/-! ## Names -/

/-- Whether a character may stand in the name of a group, as the first one or further on. -/
def isNameChar (first : Bool) (c : Char) : Bool :=
  if first then c == '_' || Text.isAlphabetic c
  else ['_', '.', '[', ']'].contains c || Text.isAlphanumeric c

/-- Reads the name of a group, given what was read of it, last character first. -/
def readName (read : List Char) : List Char → Option (String × List Char)
  | [] => none
  | c :: cs =>
    if c == '>' then
      if read.isEmpty then none else some (String.ofList read.reverse, cs)
    else if isNameChar read.isEmpty c then readName (c :: read) cs
    else none

/-! ## Flags -/

/-- A change of flags as far as it was read. -/
structure FlagChange where
  flags : Flags
  letters : List Char := []
  /-- Whether a hyphen was read, behind which flags are cleared. -/
  negated : Bool := false
  /-- Whether the hyphen was read last. -/
  dangling : Bool := false

/-- Reads flags up to the colon or the closing parenthesis behind them.  No flag may be named
twice, and a hyphen must stand once at most and before a flag. -/
def FlagChange.read (change : FlagChange) : List Char → Option (Opening × List Char)
  | [] => none
  | c :: cs =>
    if c == ':' then
      if change.dangling then none else some (.group change.flags none, cs)
    else if c == ')' then
      if change.dangling || change.letters.isEmpty then none else some (.change change.flags, cs)
    else if c == '-' then
      if change.negated then none
      else FlagChange.read { change with negated := true, dangling := true } cs
    else if flagLetters.contains c && !change.letters.contains c then
      FlagChange.read
        { change with
          flags := change.flags.set c !change.negated
          letters := c :: change.letters
          dangling := false }
        cs
    else none

/-! ## Openings -/

/-- Reads what follows an opening parenthesis. -/
def readOpening (flags : Flags) (cs : List Char) : Option (Opening × List Char) :=
  match flags.skip cs with
  | '?' :: 'P' :: '<' :: rest | '?' :: '<' :: rest =>
    (readName [] rest).map fun (name, rest) => (.group flags name, rest)
  | '?' :: rest => FlagChange.read { flags } rest
  | rest => some (.group flags none, rest)

/-! ## Nothing is read twice -/

theorem length_readName_le {read cs : List Char} {name : String} {rest : List Char}
    (h : readName read cs = some (name, rest)) : rest.length ≤ cs.length := by
  fun_induction readName read cs with
  | case1 => cases h
  | case2 => cases h
  | case3 =>
    rw [← (Prod.mk.inj (Option.some.inj h)).2]
    exact Nat.le_succ _
  | case4 _ _ _ _ _ ih => exact Nat.le_succ_of_le (ih h)
  | case5 => cases h

theorem FlagChange.length_read_le {change : FlagChange} {cs : List Char} {opening : Opening}
    {rest : List Char} (h : change.read cs = some (opening, rest)) :
    rest.length ≤ cs.length := by
  induction cs generalizing change with
  | nil => cases h
  | cons c cs ih =>
    unfold FlagChange.read at h
    split at h
    · split at h
      · cases h
      · rw [← (Prod.mk.inj (Option.some.inj h)).2]
        exact Nat.le_succ _
    · split at h
      · split at h
        · cases h
        · rw [← (Prod.mk.inj (Option.some.inj h)).2]
          exact Nat.le_succ _
      · split at h
        · split at h
          · cases h
          · exact Nat.le_succ_of_le (ih h)
        · split at h
          · exact Nat.le_succ_of_le (ih h)
          · cases h

theorem length_readOpening_le {flags : Flags} {cs : List Char} {opening : Opening}
    {rest : List Char} (h : readOpening flags cs = some (opening, rest)) :
    rest.length ≤ cs.length := by
  have hskip := flags.length_skip_le cs
  unfold readOpening at h
  split at h
  · rename_i heq
    obtain ⟨_, hname, hrest⟩ := Option.map_eq_some_iff.mp h
    have hle := length_readName_le hname
    rw [heq] at hskip
    simp only [List.length_cons, (Prod.mk.inj hrest).2] at hskip hle
    omega
  · rename_i heq
    obtain ⟨_, hname, hrest⟩ := Option.map_eq_some_iff.mp h
    have hle := length_readName_le hname
    rw [heq] at hskip
    simp only [List.length_cons, (Prod.mk.inj hrest).2] at hskip hle
    omega
  · rename_i heq
    have hle := FlagChange.length_read_le h
    rw [heq, List.length_cons] at hskip
    omega
  · rw [← (Prod.mk.inj (Option.some.inj h)).2]
    exact hskip

end CcxLexis.Pattern
