/-!
# Plain text

Text for a terminal is styled by control sequences, which start with an escape character and
leave no mark of their own.  Plain text is what remains where there is no terminal: the text
without control sequences and without control characters, line ends and tabs apart.

A control sequence ends with the character that its kind asks for, and every escape character
starts a new one.  White space inside a sequence is kept.  Behind it everything is kept as if
outside, up to the next character that would not be; from there on the sequence goes on.

Plain text is shown line by line.
-/

namespace CcxLexis.Text

/-- A text that a terminal shows in another style. -/
def emphasised (text : String) : String :=
  "\x1b[1m" ++ text ++ "\x1b[0m"

/-- Where in a control sequence a text has come.  Behind the escape character, one more character
tells the kind of the sequence. -/
inductive ControlSequence where
  /-- No sequence is open. -/
  | outside
  | escape
  /-- An escape sequence of more than two characters. -/
  | escapeMore
  /-- A sequence with parameters, such as a change of style. -/
  | parameters
  /-- A command to the terminal, such as a window title. -/
  | command
  /-- The start of a message to the device, its parameters, and what may stand behind them. -/
  | device
  | deviceParameters
  | deviceMore
  /-- A string that the terminal ignores, or the body of a message to the device. -/
  | string
deriving DecidableEq, Repr

namespace ControlSequence

/-- The sequence after one more character. -/
def advance (sequence : ControlSequence) (c : Char) : ControlSequence :=
  if c == '\x18' || c == '\x1a' then outside
  else if c == '\x1b' then escape
  else
    match sequence with
    | outside => outside
    | escape =>
      if ' ' ≤ c && c ≤ '/' then escapeMore
      else if c == '[' then parameters
      else if c == ']' then command
      else if c == 'P' then device
      else if c == 'X' || c == '^' || c == '_' then string
      else if '0' ≤ c && c ≤ '~' then outside
      else escape
    | escapeMore => if '0' ≤ c && c ≤ '~' then outside else escapeMore
    | parameters => if '@' ≤ c && c ≤ '~' then outside else parameters
    | command => if c == '\x07' then outside else command
    | device =>
      if ' ' ≤ c && c ≤ '/' then deviceMore
      else if '0' ≤ c && c ≤ '?' then deviceParameters
      else if '@' ≤ c && c ≤ '~' then string
      else device
    | deviceParameters =>
      if ' ' ≤ c && c ≤ '/' then deviceMore
      else if '<' ≤ c && c ≤ '~' then string
      else deviceParameters
    | deviceMore => if '0' ≤ c && c ≤ '~' then string else deviceMore
    | string => if (String.utf8EncodeChar c).contains 0x9c then outside else string

end ControlSequence

/-- White space that moves the place of writing. -/
def isSpacing (c : Char) : Bool :=
  c == '\t' || c == '\n' || c == '\x0c' || c == '\r'

/-- Whether a character outside of sequences is kept. -/
def isKept (c : Char) : Bool :=
  isSpacing c || (' ' ≤ c && c != '\x7f')

/-- Whether a character is kept that stands inside a sequence, or where none is open. -/
def ControlSequence.keeps (sequence : ControlSequence) (c : Char) : Bool :=
  match sequence with
  | outside => isKept c
  | escape | escapeMore | parameters => isSpacing c
  | command | device | deviceParameters | deviceMore | string => false

/-- The plain text of what follows, given the open sequence and whether the character before was
kept. -/
def plainBehind (sequence : ControlSequence) (kept : Bool) : List Char → List Char
  | [] => []
  | c :: cs =>
    if kept && isKept c then
      c :: plainBehind (if c.toNat ≤ 0x7f then sequence else .outside) true cs
    else if sequence.keeps c then c :: plainBehind (sequence.advance c) true cs
    else plainBehind (sequence.advance c) false cs

/-- The text without control sequences and control characters. -/
def plain (text : String) : String :=
  String.ofList (plainBehind .outside false text.toList)

/-- The lines of a text.  Line feeds separate them, so behind the last one there is one line more. -/
def lines (text : String) : List String :=
  (text.toList.splitOn '\n').map String.ofList

/-- A text that ends no line. -/
def OneLine (text : String) : Prop :=
  '\n' ∉ text.toList

instance (text : String) : Decidable (OneLine text) :=
  inferInstanceAs (Decidable ('\n' ∉ text.toList))

@[simp]
theorem oneLine_append {text more : String} :
    OneLine (text ++ more) ↔ OneLine text ∧ OneLine more := by
  simp [OneLine, not_or]

theorem OneLine.append {text more : String} (h : OneLine text) (hmore : OneLine more) :
    OneLine (text ++ more) :=
  oneLine_append.mpr ⟨h, hmore⟩

theorem lines_of_oneLine {text : String} (h : OneLine text) : lines text = [text] := by
  rw [lines, List.splitOn_eq_singleton h, List.map_singleton, String.ofList_toList]

theorem lines_append_of_oneLine {line : String} (h : OneLine line) (text : String) :
    lines (line ++ "\n" ++ text) = line :: lines text := by
  have htext : (line ++ "\n" ++ text).toList = line.toList ++ '\n' :: text.toList := by simp
  rw [lines, htext, List.splitOn_append_cons_self_of_not_mem h, List.map_cons,
    String.ofList_toList]
  rfl

/-- A text of kept characters is plain. -/
theorem plainBehind_eq_self {cs : List Char} (h : ∀ c ∈ cs, isKept c) (kept : Bool) :
    plainBehind .outside kept cs = cs := by
  induction cs generalizing kept with
  | nil => rfl
  | cons c cs ih =>
    have hc : isKept c = true := h c List.mem_cons_self
    have hcs : ∀ kept, plainBehind .outside kept cs = cs :=
      ih fun d hd => h d (List.mem_cons_of_mem c hd)
    have hoc : ¬(c == '\x18' || c == '\x1a') = true := by
      intro hcancel
      rcases Bool.or_eq_true_iff.mp hcancel with h | h <;> rw [beq_iff_eq.mp h] at hc <;>
        exact absurd hc (by decide)
    have hesc : ¬(c == '\x1b') = true := by
      intro hescape
      rw [beq_iff_eq.mp hescape] at hc
      exact absurd hc (by decide)
    have hstay : ControlSequence.outside.advance c = .outside := by
      simp only [ControlSequence.advance, hoc, hesc, if_false, Bool.false_eq_true]
    unfold plainBehind
    cases kept with
    | true => simp [hc, hcs]
    | false => simp [ControlSequence.keeps, hc, hstay, hcs]

end CcxLexis.Text
