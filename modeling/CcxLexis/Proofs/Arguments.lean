import CcxLexis.CommandLine.Arguments
import CcxLexis.CommandLine.Output

/-!
# What an accepted command line asks for

A command line that asks for a dump is read to its last argument, since reading never stops early
for a dump (`exists_of_parse`).  It names the file, and the name is not empty: an empty argument is
noticed when its value is checked, at the latest behind the last argument.
-/

namespace CcxLexis.CommandLine

/-! ## The file that is asked for -/

/-- What reading comes to satisfies the condition, if it comes to anything.  If it stops early, it
does not stop for a dump. -/
def Ensures {α : Type} (condition : α → Prop) : Except Stop α → Prop
  | .ok a => condition a
  | .error (.command (.dump _)) => False
  | .error _ => True

theorem Ensures.bind {α β : Type} {condition : α → Prop} {result : Except Stop α}
    (h : Ensures condition result) {goal : β → Prop} {next : α → Except Stop β}
    (hnext : ∀ a, condition a → Ensures goal (next a)) : Ensures goal (result >>= next) := by
  match result with
  | .ok a => exact hnext a h
  | .error (.misuse _) => trivial
  | .error (.command .help) => trivial
  | .error (.command .version) => trivial

namespace Reading

/-- A file whose name was checked has a name. -/
def FileNamed (reading : Reading) : Prop :=
  reading.file ≠ some ""

theorem fileNamed_start : FileNamed {} := nofun

variable {reading : Reading}

theorem ensures_setLimit (h : reading.FileNamed) (value : String) :
    Ensures FileNamed (reading.setLimit value) := by
  unfold setLimit
  split
  · trivial
  · split
    · exact h
    · trivial

theorem ensures_settle (h : reading.FileNamed) : Ensures FileNamed reading.settle := by
  simp only [settle]
  split
  · exact h
  · next path hpath =>
    split
    · trivial
    · next hempty =>
      intro hfile
      exact hempty (String.isEmpty_iff.mpr (Option.some.inj hfile))
  · trivial
  · next value hvalue =>
    have hsettled : FileNamed { reading with unchecked := none } := h
    exact ensures_setLimit hsettled value

theorem ensures_setVerbose (h : reading.FileNamed) : Ensures FileNamed reading.setVerbose := by
  refine (ensures_settle h).bind fun settled hsettled => ?_
  split
  · trivial
  · exact hsettled

theorem ensures_setHideComments (h : reading.FileNamed) :
    Ensures FileNamed reading.setHideComments := by
  refine (ensures_settle h).bind fun settled hsettled => ?_
  split
  · trivial
  · exact hsettled

theorem ensures_answer (h : reading.FileNamed) {command : Command}
    (hcommand : command = .help ∨ command = .version) :
    Ensures FileNamed (reading.answer command) := by
  refine (ensures_settle h).bind fun settled _ => ?_
  rcases hcommand with rfl | rfl <;> trivial

theorem ensures_readLetters (h : reading.FileNamed) (letters : List Char) :
    Ensures FileNamed (reading.readLetters letters) := by
  induction letters generalizing reading with
  | nil => exact h
  | cons letter letters ih =>
    unfold readLetters
    split
    · exact (ensures_setVerbose h).bind fun next hnext => ih hnext
    · split
      · exact ensures_answer h (.inl rfl)
      · split
        · exact ensures_answer h (.inr rfl)
        · trivial

theorem ensures_readFlag {argument : Argument} {value : Option String}
    {set : Reading → Except Stop Reading} (h : Ensures FileNamed (set reading)) :
    Ensures FileNamed (reading.readFlag argument value set) := by
  unfold readFlag
  split
  · trivial
  · exact h

theorem ensures_readName (h : reading.FileNamed) (name : String) (value : Option String) :
    Ensures FileNamed (reading.readName name value) := by
  unfold readName
  split
  · exact ensures_readFlag (ensures_setVerbose h)
  · exact ensures_readFlag (ensures_setHideComments h)
  · exact ensures_readFlag (ensures_answer h (.inl rfl))
  · exact ensures_readFlag (ensures_answer h (.inr rfl))
  · refine (ensures_settle h).bind fun settled hsettled => ?_
    split
    · exact ensures_setLimit hsettled _
    · exact hsettled
  · trivial

theorem ensures_readFile (h : reading.FileNamed) (path : String) :
    Ensures FileNamed (reading.readFile path) := by
  unfold readFile
  split
  · trivial
  · exact (ensures_settle h).bind fun settled hsettled => hsettled

theorem ensures_read (h : reading.FileNamed) (argument : String) :
    Ensures FileNamed (reading.read argument) := by
  unfold read
  split
  · exact ensures_readFile h argument
  · split
    · exact h
    · dsimp only
      split <;> exact ensures_readName h _ _
    · exact ensures_readLetters h _
    · split
      · exact h
      · exact ensures_readFile h argument

theorem ensures_foldlM_read (h : reading.FileNamed) (arguments : List String) :
    Ensures FileNamed (arguments.foldlM read reading) := by
  induction arguments generalizing reading with
  | nil => exact h
  | cons argument arguments ih =>
    rw [List.foldlM_cons]
    exact (ensures_read h argument).bind fun next hnext => ih hnext

theorem ensures_conclude (h : reading.FileNamed) (verboseVariable : Option String) :
    Ensures (fun options => options.file ≠ "") (reading.conclude verboseVariable) := by
  refine (ensures_settle h).bind fun settled hsettled => ?_
  have hverbose : Ensures (fun _ => True) (settled.settleVerbose verboseVariable) := by
    unfold settleVerbose
    split
    · trivial
    · split <;> trivial
  refine hverbose.bind fun verbose _ => ?_
  split
  · trivial
  · next file hfile =>
    intro hempty
    exact hsettled (hfile.trans (congrArg some hempty))

end Reading

/-- Arguments that ask for a dump are read to the last one. -/
theorem exists_of_parse {verboseVariable : Option String} {arguments : List String}
    {options : Options} (h : parse verboseVariable arguments = .ok (.dump options)) :
    ∃ reading, arguments.foldlM Reading.read {} = .ok reading ∧
      reading.conclude verboseVariable = .ok options := by
  have hread := (Reading.ensures_foldlM_read Reading.fileNamed_start arguments).bind
    fun reading hnamed => Reading.ensures_conclude hnamed verboseVariable
  simp only [parse] at h
  split at h
  · next read hresult =>
    cases h
    exact exists_of_bind_eq_ok hresult
  · next command hresult =>
    cases h
    rw [hresult] at hread
    exact hread.elim
  · cases h

/-- A dump is asked for of a file with a name. -/
theorem file_ne_empty_of_parse {verboseVariable : Option String} {arguments : List String}
    {options : Options} (h : parse verboseVariable arguments = .ok (.dump options)) :
    options.file ≠ "" := by
  obtain ⟨reading, hread, hconclude⟩ := exists_of_parse h
  have hnamed := Reading.ensures_foldlM_read Reading.fileNamed_start arguments
  rw [hread] at hnamed
  have hfile := Reading.ensures_conclude hnamed verboseVariable
  rwa [hconclude] at hfile

/-! ## Requests from readings -/

/-- A request is made of a reading whose last value is checked. -/
theorem Reading.exists_of_conclude {reading : Reading} {verboseVariable : Option String}
    {options : Options} (h : reading.conclude verboseVariable = .ok options) :
    ∃ settled file verbose, reading.settle = .ok settled ∧ settled.file = some file ∧
      settled.settleVerbose verboseVariable = .ok verbose ∧
      options =
        { file, verbose, hideComments := settled.hideComments
          maxLexeme := settled.maxLexeme } := by
  obtain ⟨settled, hsettle, h⟩ := exists_of_bind_eq_ok h
  obtain ⟨verbose, hverbose, h⟩ := exists_of_bind_eq_ok h
  split at h
  · cases h
  · next file hfile =>
    cases h
    exact ⟨settled, file, verbose, hsettle, hfile, hverbose, rfl⟩

theorem Reading.conclude_of_settle {reading settled : Reading} {verboseVariable : Option String}
    {verbose : Bool} {file : String} (hsettle : reading.settle = .ok settled)
    (hverbose : settled.settleVerbose verboseVariable = .ok verbose)
    (hfile : settled.file = some file) :
    reading.conclude verboseVariable =
      .ok
        { file, verbose, hideComments := settled.hideComments
          maxLexeme := settled.maxLexeme } := by
  simp only [conclude, hsettle, hverbose, hfile, bind, Except.bind, pure, Except.pure]

theorem parse_of_foldlM {verboseVariable : Option String} {arguments : List String}
    {reading : Reading} {options : Options} (hread : arguments.foldlM Reading.read {} = .ok reading)
    (hconclude : reading.conclude verboseVariable = .ok options) :
    parse verboseVariable arguments = .ok (.dump options) := by
  have hresult : (arguments.foldlM Reading.read {} >>= (Reading.conclude · verboseVariable)) =
      .ok options := by
    rw [hread]
    exact hconclude
  simp only [parse]
  rw [hresult]

end CcxLexis.CommandLine
