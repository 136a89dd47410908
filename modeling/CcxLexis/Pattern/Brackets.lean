import CcxLexis.Pattern.Depth
import CcxLexis.Pattern.Symbol

/-!
# Brackets in a pattern

A class in brackets is a union of characters, ranges, classes that have a name and further classes
in brackets.  Two ampersands, hyphens or tildes stand between the operands of a set operation.

A caret behind the opening bracket asks for the characters outside of the class.  Behind it, any
number of hyphens stand for themselves, and so does a closing bracket if it comes first.  In a
pattern about bytes there is no outside, since it holds bytes that are no text.
-/

namespace CcxLexis.Pattern

/-! ## Items -/

/-- Whether a symbol can stand in brackets.  Bytes beyond ASCII cannot. -/
def Flags.allowInBrackets (flags : Flags) (symbol : Symbol) : Bool :=
  match symbol with
  | .literal c _ => if flags.unicode then !flags.ignoreCase else c.toNat ≤ 0x7f
  | .namedClass _ => flags.allow symbol
  | .any | .edge | .wordEdge => false

/-- The names of classes that are written between colons. -/
def classNames : List String :=
  ["alnum", "alpha", "ascii", "blank", "cntrl", "digit", "graph", "lower", "print", "punct",
    "space", "upper", "word", "xdigit"]

/-- Reads the name of a class up to its closing bracket. -/
def readClassName (cs : List Char) : Option (List Char) :=
  match cs.dropWhile (· != ':') with
  | ':' :: ']' :: rest =>
    if classNames.contains (String.ofList (cs.takeWhile (· != ':'))) then some rest else none
  | _ => none

/-- Reads a class written between colons, behind its opening bracket: whether it is negated, and
what is left behind its closing bracket. -/
def readNamedClass : List Char → Option (Bool × List Char)
  | ':' :: '^' :: cs => (readClassName cs).map (true, ·)
  | ':' :: cs => (readClassName cs).map (false, ·)
  | _ => none

/-- Whether a class between colons can be matched. -/
def Flags.allowNamed (flags : Flags) (negated : Bool) : Bool :=
  if flags.unicode then !flags.ignoreCase else !negated

/-- The first character behind blanks and a number sign. -/
def firstBehindBlanks? (pastSign : Bool) : List Char → Option Char
  | [] => none
  | c :: cs =>
    if Text.isBlank c then firstBehindBlanks? pastSign cs
    else if c == '#' && !pastSign then firstBehindBlanks? true cs
    else some c

/-- The character that decides whether a hyphen before it makes a range. -/
def Flags.following? (flags : Flags) (cs : List Char) : Option Char :=
  if flags.spaced then firstBehindBlanks? false cs else cs.head?

/-- Whether a symbol is one end of a range and another one the other end. -/
def isRange : Symbol → Symbol → Bool
  | .literal first _, .literal last _ => first ≤ last
  | _, _ => false

/-- Reads the hyphen and the end of a range that starts with a symbol.  A hyphen before a closing
bracket or another hyphen makes no range. -/
def readRange (flags : Flags) (first : Symbol) (cs : List Char) : Option (List Char) :=
  match flags.skip cs with
  | '-' :: behind =>
    if [some ']', some '-'].contains (flags.following? behind) then some ('-' :: behind)
    else
      match flags.skip behind with
      | [] => none
      | c :: rest =>
        match readSymbol flags c rest with
        | none => none
        | some (last, rest) =>
          if isRange first last && flags.allowInBrackets last then some rest else none
  | rest => some rest

/-- Reads a symbol in brackets, or a range that starts with it. -/
def readMember (flags : Flags) (c : Char) (cs : List Char) : Option (List Char) :=
  match readSymbol flags c cs with
  | none => none
  | some (symbol, rest) =>
    if flags.allowInBrackets symbol then readRange flags symbol rest else none

/-! ## Nested brackets -/

/-- How much of a class in brackets was read: the depths of the items of its last operand, and the
depth of the operands before. -/
structure Bracket where
  items : List Nat := []
  before : Option Nat := none
  /-- Whether nothing but hyphens was read. -/
  leading : Bool := true

namespace Bracket

def depth (bracket : Bracket) : Nat :=
  match bracket.before with
  | none => depthTogether bracket.items
  | some before => max before (depthTogether bracket.items) + 1

/-- Adds an item of some depth. -/
def add (bracket : Bracket) (depth : Nat) : Bracket :=
  { bracket with items := depth :: bracket.items, leading := false }

end Bracket

/-- A class in brackets that is being read, and the classes around it, innermost first. -/
structure Brackets where
  inner : Bracket := {}
  around : List Bracket := []

/-- What a class in brackets comes to: more of it, or its end. -/
inductive BracketProgress where
  | open (brackets : Brackets)
  | closed (depth : Nat)

/-- Reads the caret behind an opening bracket, if there is one. -/
def readCaret (flags : Flags) (cs : List Char) : Option (List Char) :=
  match flags.skip cs with
  | '^' :: rest => if flags.unicode then some rest else none
  | rest => some rest

namespace Brackets

def add (brackets : Brackets) (depth : Nat) : Brackets :=
  { brackets with inner := brackets.inner.add depth }

/-- Adds a character that stands for itself at the start of the innermost class. -/
def addLeading (brackets : Brackets) (flags : Flags) (c : Char) : Option Brackets :=
  if flags.allowInBrackets (.literal c false) then
    some { brackets with inner := { brackets.inner.add 0 with leading := c == '-' } }
  else none

/-- Starts the next operand of a set operation. -/
def operate (brackets : Brackets) : Brackets :=
  { brackets with inner := { before := some brackets.inner.depth, leading := false } }

/-- Ends the innermost class. -/
def close (brackets : Brackets) : BracketProgress :=
  match brackets.around with
  | [] => .closed (brackets.inner.depth + 1)
  | bracket :: around =>
    .open { inner := bracket.add (brackets.inner.depth + 1), around }

/-- Reads what an opening bracket inside of brackets starts. -/
def readInner (brackets : Brackets) (flags : Flags) (cs : List Char) :
    Option (Brackets × List Char) :=
  match readNamedClass cs with
  | some (negated, rest) =>
    if flags.allowNamed negated then some (brackets.add 0, rest) else none
  | none => (readCaret flags cs).map ({ around := brackets.inner :: brackets.around }, ·)

/-- Reads the item that starts with a character. -/
def readItem (brackets : Brackets) (flags : Flags) (c : Char) (cs : List Char) :
    Option (BracketProgress × List Char) :=
  if brackets.inner.leading && (c == '-' || c == ']' && brackets.inner.items.isEmpty) then
    (brackets.addLeading flags c).map (.open ·, cs)
  else if c == '[' then
    (brackets.readInner flags cs).map fun (brackets, rest) => (.open brackets, rest)
  else if c == ']' then some (brackets.close, cs)
  else if ['&', '-', '~'].contains c && cs.head? == some c then
    some (.open brackets.operate, cs.tail)
  else (readMember flags c cs).map (.open (brackets.add 0), ·)

end Brackets

/-! ## Nothing is read twice -/

theorem length_readClassName_le {cs rest : List Char} (h : readClassName cs = some rest) :
    rest.length ≤ cs.length := by
  unfold readClassName at h
  split at h
  · rename_i hdrop
    have hle := (List.dropWhile_sublist (l := cs) (· != ':')).length_le
    split at h
    · rw [hdrop, Option.some.inj h] at hle
      simp only [List.length_cons] at hle
      omega
    · cases h
  · cases h

theorem length_readNamedClass_le {cs : List Char} {negated : Bool} {rest : List Char}
    (h : readNamedClass cs = some (negated, rest)) : rest.length ≤ cs.length := by
  unfold readNamedClass at h
  split at h
  · obtain ⟨_, hname, hrest⟩ := Option.map_eq_some_iff.mp h
    have hle := length_readClassName_le hname
    simp only [← (Prod.mk.inj hrest).2, List.length_cons]
    omega
  · obtain ⟨_, hname, hrest⟩ := Option.map_eq_some_iff.mp h
    have hle := length_readClassName_le hname
    simp only [← (Prod.mk.inj hrest).2, List.length_cons]
    omega
  · cases h

theorem length_readRange_le {flags : Flags} {first : Symbol} {cs rest : List Char}
    (h : readRange flags first cs = some rest) : rest.length ≤ cs.length := by
  have hskip := flags.length_skip_le cs
  unfold readRange at h
  split at h
  · rename_i behind heq
    have hbehind := flags.length_skip_le behind
    rw [heq, List.length_cons] at hskip
    split at h
    · rw [← Option.some.inj h, List.length_cons]
      exact hskip
    · split at h
      · cases h
      · rename_i hnext
        rw [hnext, List.length_cons] at hbehind
        split at h
        · cases h
        · rename_i hread
          have hle := length_readSymbol_le hread
          split at h
          · rw [← Option.some.inj h]
            omega
          · cases h
  · rw [← Option.some.inj h]
    exact hskip

theorem length_readMember_le {flags : Flags} {c : Char} {cs rest : List Char}
    (h : readMember flags c cs = some rest) : rest.length ≤ cs.length := by
  unfold readMember at h
  split at h
  · cases h
  · rename_i hread
    have hle := length_readSymbol_le hread
    split at h
    · exact Nat.le_trans (length_readRange_le h) hle
    · cases h

theorem length_readCaret_le {flags : Flags} {cs rest : List Char}
    (h : readCaret flags cs = some rest) : rest.length ≤ cs.length := by
  have hskip := flags.length_skip_le cs
  unfold readCaret at h
  split at h
  · rename_i heq
    rw [heq, List.length_cons] at hskip
    split at h
    · rw [← Option.some.inj h]
      omega
    · cases h
  · rw [← Option.some.inj h]
    exact hskip

theorem Brackets.length_readInner_le {brackets next : Brackets} {flags : Flags}
    {cs rest : List Char} (h : brackets.readInner flags cs = some (next, rest)) :
    rest.length ≤ cs.length := by
  unfold Brackets.readInner at h
  split at h
  · rename_i hnamed
    split at h
    · rw [← (Prod.mk.inj (Option.some.inj h)).2]
      exact length_readNamedClass_le hnamed
    · cases h
  · obtain ⟨_, hcaret, hrest⟩ := Option.map_eq_some_iff.mp h
    rw [← (Prod.mk.inj hrest).2]
    exact length_readCaret_le hcaret

theorem Brackets.length_readItem_le {brackets : Brackets} {flags : Flags} {c : Char}
    {cs : List Char} {progress : BracketProgress} {rest : List Char}
    (h : brackets.readItem flags c cs = some (progress, rest)) : rest.length ≤ cs.length := by
  unfold Brackets.readItem at h
  split at h
  · obtain ⟨_, _, hrest⟩ := Option.map_eq_some_iff.mp h
    exact Nat.le_of_eq (congrArg List.length (Prod.mk.inj hrest).2.symm)
  · split at h
    · obtain ⟨_, hinner, hrest⟩ := Option.map_eq_some_iff.mp h
      rw [← (Prod.mk.inj hrest).2]
      exact Brackets.length_readInner_le hinner
    · split at h
      · exact Nat.le_of_eq (congrArg List.length (Prod.mk.inj (Option.some.inj h)).2.symm)
      · split at h
        · rw [← (Prod.mk.inj (Option.some.inj h)).2, List.length_tail]
          exact Nat.sub_le _ _
        · obtain ⟨_, hmember, hrest⟩ := Option.map_eq_some_iff.mp h
          rw [← (Prod.mk.inj hrest).2]
          exact length_readMember_le hmember

/-! ## Reading -/

/-- Reads a class in brackets up to its end: its depth, and what is left. -/
def Brackets.read (brackets : Brackets) (flags : Flags) (cs : List Char) :
    Option (Nat × List Char) :=
  match _hskip : flags.skip cs with
  | [] => none
  | c :: behind =>
    match _hitem : brackets.readItem flags c behind with
    | none => none
    | some (.closed depth, rest) => some (depth, rest)
    | some (.open brackets, rest) => brackets.read flags rest
termination_by cs.length
decreasing_by
  have hbehind := flags.length_skip_le cs
  have hrest := Brackets.length_readItem_le _hitem
  rw [_hskip, List.length_cons] at hbehind
  omega

/-- Reads a class in brackets behind its opening bracket: its depth, and what is left. -/
def readBrackets (flags : Flags) (cs : List Char) : Option (Nat × List Char) :=
  match readCaret flags cs with
  | none => none
  | some rest => Brackets.read {} flags rest

theorem Brackets.length_read_le {brackets : Brackets} {flags : Flags} {cs : List Char}
    {depth : Nat} {rest : List Char} (h : brackets.read flags cs = some (depth, rest)) :
    rest.length ≤ cs.length := by
  fun_induction Brackets.read brackets flags cs with
  | case1 => cases h
  | case2 => cases h
  | case3 brackets cs c behind hskip depth rest hitem =>
    have hbehind := flags.length_skip_le cs
    have hrest := Brackets.length_readItem_le hitem
    rw [hskip, List.length_cons] at hbehind
    rw [← (Prod.mk.inj (Option.some.inj h)).2]
    omega
  | case4 brackets cs c behind hskip next rest hitem ih =>
    have hbehind := flags.length_skip_le cs
    have hrest := Brackets.length_readItem_le hitem
    have hle := ih h
    rw [hskip, List.length_cons] at hbehind
    omega

theorem length_readBrackets_le {flags : Flags} {cs : List Char} {depth : Nat} {rest : List Char}
    (h : readBrackets flags cs = some (depth, rest)) : rest.length ≤ cs.length := by
  unfold readBrackets at h
  split at h
  · cases h
  · rename_i hcaret
    exact Nat.le_trans (Brackets.length_read_le h) (length_readCaret_le hcaret)

end CcxLexis.Pattern
