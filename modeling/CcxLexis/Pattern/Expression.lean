import CcxLexis.Pattern.Brackets
import CcxLexis.Pattern.Group

/-!
# Whether a pattern can be read

A pattern is a choice between sequences of items.  Groups and brackets in it are closed, a
repetition has something to repeat, no two groups have one name, and nothing in it is nested too
deeply.  A repetition is a question mark, a star or a plus sign, and a question mark behind it says
that as little as possible shall be repeated.  An opening brace would have to count.
-/

namespace CcxLexis.Pattern

/-- An item of a sequence. -/
inductive Item where
  /-- A change of flags, which cannot be repeated. -/
  | change
  | expression (depth : Nat)

def Item.depth : Item → Nat
  | change => 0
  | expression depth => depth

/-- A choice that is being read: the depths of its sequences, and the items of the last sequence,
last item first. -/
structure Choice where
  sequences : List Nat := []
  items : List Item := []

namespace Choice

def add (choice : Choice) (item : Item) : Choice :=
  { choice with items := item :: choice.items }

/-- Ends a sequence and starts the next one. -/
def divide (choice : Choice) : Choice :=
  { sequences := depthTogether (choice.items.map Item.depth) :: choice.sequences }

def depth (choice : Choice) : Nat :=
  depthTogether choice.divide.sequences

/-- Repeats the last item. -/
def repeated? (choice : Choice) : Option Choice :=
  match choice.items with
  | .expression depth :: items => some { choice with items := .expression (depth + 1) :: items }
  | _ => none

end Choice

/-- How much of a pattern was read: the flags, the choice in hand, what to return to when the open
groups are closed, innermost first, and the names of groups. -/
structure Expression where
  flags : Flags := {}
  choice : Choice := {}
  around : List (Flags × Choice) := []
  names : List String := []

namespace Expression

def add (expression : Expression) (item : Item) : Expression :=
  { expression with choice := expression.choice.add item }

def addSymbol (expression : Expression) (symbol : Symbol) : Option Expression :=
  if expression.flags.allow symbol then some (expression.add (.expression 0)) else none

/-- Opens a group. -/
def enter (expression : Expression) (flags : Flags) (name : Option String) : Option Expression :=
  if name.any expression.names.contains then none
  else
    some
      { flags
        around := (expression.flags, expression.choice) :: expression.around
        names := name.toList ++ expression.names }

/-- Closes the innermost group. -/
def leave (expression : Expression) : Option Expression :=
  match expression.around with
  | [] => none
  | (flags, choice) :: around =>
    some
      { flags
        choice := choice.add (.expression (expression.choice.depth + 1))
        around
        names := expression.names }

/-- Goes on with what an opening parenthesis starts. -/
def open? (expression : Expression) : Opening → Option Expression
  | .group flags name => expression.enter flags name
  | .change flags => some { expression.add .change with flags }

/-- What is left behind the question mark of a repetition. -/
def skipQuestionMark : List Char → List Char
  | '?' :: cs => cs
  | cs => cs

/-- Reads the item that starts with a character. -/
def readItem (expression : Expression) (c : Char) (cs : List Char) :
    Option (Expression × List Char) :=
  match c with
  | '(' =>
    match readOpening expression.flags cs with
    | none => none
    | some (opening, rest) => (expression.open? opening).map (·, rest)
  | ')' => expression.leave.map (·, cs)
  | '|' => some ({ expression with choice := expression.choice.divide }, cs)
  | '?' | '*' | '+' =>
    expression.choice.repeated?.map fun choice => ({ expression with choice }, skipQuestionMark cs)
  | '{' => none
  | '[' =>
    (readBrackets expression.flags cs).map fun (depth, rest) =>
      (expression.add (.expression depth), rest)
  | '.' => (expression.addSymbol .any).map (·, cs)
  | '^' | '$' => (expression.addSymbol .edge).map (·, cs)
  | _ =>
    match readSymbol expression.flags c cs with
    | none => none
    | some (symbol, rest) => (expression.addSymbol symbol).map (·, rest)

theorem length_skipQuestionMark_le (cs : List Char) : (skipQuestionMark cs).length ≤ cs.length := by
  unfold skipQuestionMark
  split
  · exact Nat.le_succ _
  · exact Nat.le_refl _

theorem length_readItem_le {expression next : Expression} {c : Char} {cs rest : List Char}
    (h : expression.readItem c cs = some (next, rest)) : rest.length ≤ cs.length := by
  unfold readItem at h
  split at h
  · split at h
    · cases h
    · rename_i hopening
      obtain ⟨_, _, hrest⟩ := Option.map_eq_some_iff.mp h
      rw [← (Prod.mk.inj hrest).2]
      exact length_readOpening_le hopening
  · obtain ⟨_, _, hrest⟩ := Option.map_eq_some_iff.mp h
    exact Nat.le_of_eq (congrArg List.length (Prod.mk.inj hrest).2.symm)
  · exact Nat.le_of_eq (congrArg List.length (Prod.mk.inj (Option.some.inj h)).2.symm)
  · obtain ⟨_, _, hrest⟩ := Option.map_eq_some_iff.mp h
    rw [← (Prod.mk.inj hrest).2]
    exact length_skipQuestionMark_le cs
  · obtain ⟨_, _, hrest⟩ := Option.map_eq_some_iff.mp h
    rw [← (Prod.mk.inj hrest).2]
    exact length_skipQuestionMark_le cs
  · obtain ⟨_, _, hrest⟩ := Option.map_eq_some_iff.mp h
    rw [← (Prod.mk.inj hrest).2]
    exact length_skipQuestionMark_le cs
  · cases h
  · obtain ⟨_, hbrackets, hrest⟩ := Option.map_eq_some_iff.mp h
    rw [← (Prod.mk.inj hrest).2]
    exact length_readBrackets_le hbrackets
  · obtain ⟨_, _, hrest⟩ := Option.map_eq_some_iff.mp h
    exact Nat.le_of_eq (congrArg List.length (Prod.mk.inj hrest).2.symm)
  · obtain ⟨_, _, hrest⟩ := Option.map_eq_some_iff.mp h
    exact Nat.le_of_eq (congrArg List.length (Prod.mk.inj hrest).2.symm)
  · obtain ⟨_, _, hrest⟩ := Option.map_eq_some_iff.mp h
    exact Nat.le_of_eq (congrArg List.length (Prod.mk.inj hrest).2.symm)
  · split at h
    · cases h
    · rename_i hsymbol
      obtain ⟨_, _, hrest⟩ := Option.map_eq_some_iff.mp h
      rw [← (Prod.mk.inj hrest).2]
      exact length_readSymbol_le hsymbol

/-- Reads a pattern to its end. -/
def read (expression : Expression) (cs : List Char) : Option Expression :=
  match _hskip : expression.flags.skip cs with
  | [] => some expression
  | c :: behind =>
    match _hitem : expression.readItem c behind with
    | none => none
    | some (next, rest) => next.read rest
termination_by cs.length
decreasing_by
  have hbehind := expression.flags.length_skip_le cs
  have hrest := length_readItem_le _hitem
  rw [_hskip, List.length_cons] at hbehind
  omega

/-- Whether a pattern may end here. -/
def isComplete (expression : Expression) : Bool :=
  expression.around.isEmpty && expression.choice.depth ≤ maximalDepth

end Expression

/-- Whether a text is a pattern that can be read. -/
def isReadable (text : String) : Bool :=
  (Expression.read {} text.toList).any Expression.isComplete

end CcxLexis.Pattern
