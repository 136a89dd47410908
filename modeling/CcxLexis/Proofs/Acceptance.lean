import CcxLexis.Proofs.Arguments

/-!
# Arguments that are accepted

Whether an argument is accepted, and what it makes of the reading, depends on the kind of the argument
and on little else.  `Accepts` says so in one case for each kind.  `read_eq_ok_iff` ties it to the
reading itself, so that what holds of accepted arguments can be proved kind by kind, without opening
the reader again.

The values that are checked late make no difference here: checking one sets the file or the limit and
leaves everything else as it is (`Reading.exists_of_settle`).
-/

namespace CcxLexis.CommandLine

/-- The options that switch something on. -/
inductive Switch where
  | verbose
  | hideComments
deriving DecidableEq

namespace Switch

/-- The ways to write the option. -/
def words : Switch → List String
  | verbose => ["-v", "--verbose"]
  | hideComments => ["--no-comments"]

def isOn (switch : Switch) (reading : Reading) : Bool :=
  match switch with
  | verbose => reading.verbose
  | hideComments => reading.hideComments

def turnOn (switch : Switch) (reading : Reading) : Reading :=
  match switch with
  | verbose => { reading with verbose := true }
  | hideComments => { reading with hideComments := true }

/-- Reads the option itself. -/
def set (switch : Switch) (reading : Reading) : Except Stop Reading :=
  match switch with
  | verbose => reading.setVerbose
  | hideComments => reading.setHideComments

def isAsked (switch : Switch) (options : Options) : Bool :=
  match switch with
  | verbose => options.verbose
  | hideComments => options.hideComments

/-- The request with the switch on. -/
def ask (switch : Switch) (options : Options) : Options :=
  match switch with
  | verbose => { options with verbose := true }
  | hideComments => { options with hideComments := true }

section

variable (switch other : Switch) (reading : Reading)

@[simp]
theorem isOn_turnOn_self : switch.isOn (switch.turnOn reading) = true := by
  cases switch <;> rfl

theorem isOn_turnOn_of_ne {switch other : Switch} (h : other ≠ switch) :
    other.isOn (switch.turnOn reading) = other.isOn reading := by
  cases switch <;> cases other <;> first | rfl | exact absurd rfl h

theorem turnOn_comm :
    switch.turnOn (other.turnOn reading) = other.turnOn (switch.turnOn reading) := by
  cases switch <;> cases other <;> rfl

@[simp]
theorem file_turnOn : (switch.turnOn reading).file = reading.file := by
  cases switch <;> rfl

@[simp]
theorem maxLexeme_turnOn : (switch.turnOn reading).maxLexeme = reading.maxLexeme := by
  cases switch <;> rfl

@[simp]
theorem unchecked_turnOn : (switch.turnOn reading).unchecked = reading.unchecked := by
  cases switch <;> rfl

@[simp]
theorem fileSeen_turnOn : (switch.turnOn reading).fileSeen = reading.fileSeen := by
  cases switch <;> rfl

@[simp]
theorem optionsEnded_turnOn : (switch.turnOn reading).optionsEnded = reading.optionsEnded := by
  cases switch <;> rfl

end

end Switch

/-! ## Checking a value -/

namespace Reading

variable {reading settled next : Reading} {switch : Switch} {value : String}

theorem exists_of_setLimit (h : reading.setLimit value = .ok next) :
    ∃ limit, reading.maxLexeme = none ∧ readLimit value = .ok limit ∧
      next = { reading with maxLexeme := some limit } := by
  unfold setLimit at h
  split at h
  · cases h
  · next hnone =>
    split at h
    · next limit hlimit =>
      cases h
      exact ⟨limit, by simpa using hnone, hlimit, rfl⟩
    · cases h

theorem setLimit_eq {limit : Limit} (hnone : reading.maxLexeme = none)
    (hlimit : readLimit value = .ok limit) :
    reading.setLimit value = .ok { reading with maxLexeme := some limit } := by
  simp [setLimit, hnone, hlimit]

theorem setLimit_turnOn (switch : Switch) (h : reading.setLimit value = .ok next) :
    (switch.turnOn reading).setLimit value = .ok (switch.turnOn next) := by
  obtain ⟨limit, hnone, hlimit, rfl⟩ := exists_of_setLimit h
  have hsame : (switch.turnOn reading).maxLexeme = none := by rw [switch.maxLexeme_turnOn, hnone]
  rw [setLimit_eq hsame hlimit]
  cases switch <;> rfl

/-- Checking the value that was read last sets the file or the limit, or nothing if there is no such
value.  It looks at these three and leaves everything else as it is. -/
theorem exists_of_settle (h : reading.settle = .ok settled) :
    ∃ file maxLexeme, settled = { reading with file, maxLexeme, unchecked := none } ∧
      (file = reading.file ∨ ∃ path, reading.unchecked = some (.file path)) ∧
      ∀ other : Reading, other.file = reading.file → other.maxLexeme = reading.maxLexeme →
        other.unchecked = reading.unchecked →
          other.settle = .ok { other with file, maxLexeme, unchecked := none } := by
  dsimp only [settle] at h
  split at h
  · next hnone =>
    cases h
    refine ⟨_, _, rfl, .inl rfl, fun other hfile hlimit hsame => ?_⟩
    rw [settle, hsame, hnone, ← hfile, ← hlimit]
  · next path hpath =>
    split at h
    · cases h
    · next hnamed =>
      cases h
      refine ⟨_, _, rfl, .inr ⟨path, hpath⟩, fun other _ hlimit hsame => ?_⟩
      rw [settle, hsame, hpath, ← hlimit]
      exact if_neg hnamed
  · cases h
  · next value hvalue =>
    obtain ⟨limit, hfirst, hlimit, rfl⟩ := exists_of_setLimit h
    refine ⟨_, _, rfl, .inl rfl, fun other hfile hsameLimit hsame => ?_⟩
    rw [settle, hsame, hvalue, ← hfile]
    exact setLimit_eq (hsameLimit.trans hfirst) hlimit

theorem settle_turnOn (switch : Switch) (h : reading.settle = .ok settled) :
    (switch.turnOn reading).settle = .ok (switch.turnOn settled) := by
  obtain ⟨file, maxLexeme, rfl, -, hother⟩ := exists_of_settle h
  rw [hother (switch.turnOn reading) (switch.file_turnOn reading) (switch.maxLexeme_turnOn reading)
    (switch.unchecked_turnOn reading)]
  cases switch <;> rfl

theorem unchecked_of_settle (h : reading.settle = .ok settled) : settled.unchecked = none := by
  obtain ⟨file, maxLexeme, rfl, -, -⟩ := exists_of_settle h
  rfl

theorem fileSeen_of_settle (h : reading.settle = .ok settled) :
    settled.fileSeen = reading.fileSeen := by
  obtain ⟨file, maxLexeme, rfl, -, -⟩ := exists_of_settle h
  rfl

theorem isOn_of_settle (switch : Switch) (h : reading.settle = .ok settled) :
    switch.isOn settled = switch.isOn reading := by
  obtain ⟨file, maxLexeme, rfl, -, -⟩ := exists_of_settle h
  cases switch <;> rfl

/-- A value is checked once. -/
theorem settle_of_settle (h : reading.settle = .ok settled) : settled.settle = .ok settled := by
  obtain ⟨file, maxLexeme, rfl, -, -⟩ := exists_of_settle h
  rfl

/-! ## Reading an argument -/

theorem set_eq_ok_iff :
    switch.set reading = .ok next ↔
      ∃ settled, reading.settle = .ok settled ∧ switch.isOn settled = false ∧
        next = switch.turnOn settled := by
  constructor
  · intro h
    cases switch with
    | verbose =>
      obtain ⟨settled, hsettle, h⟩ := exists_of_bind_eq_ok h
      split at h
      · cases h
      · next hoff =>
        cases h
        exact ⟨settled, hsettle, Bool.eq_false_iff.mpr hoff, rfl⟩
    | hideComments =>
      obtain ⟨settled, hsettle, h⟩ := exists_of_bind_eq_ok h
      split at h
      · cases h
      · next hoff =>
        cases h
        exact ⟨settled, hsettle, Bool.eq_false_iff.mpr hoff, rfl⟩
  · rintro ⟨settled, hsettle, hoff, rfl⟩
    cases switch with
    | verbose =>
      have hoff : settled.verbose = false := hoff
      simp [Switch.set, setVerbose, hsettle, hoff, Switch.turnOn, bind, Except.bind, pure,
        Except.pure]
    | hideComments =>
      have hoff : settled.hideComments = false := hoff
      simp [Switch.set, setHideComments, hsettle, hoff, Switch.turnOn, bind, Except.bind, pure,
        Except.pure]

/-- Help and version end the reading. -/
theorem answer_ne_ok (command : Command) : reading.answer command ≠ .ok next := by
  intro h
  obtain ⟨settled, -, h⟩ := exists_of_bind_eq_ok h
  cases h

/-- Behind one hyphen, only the letter of verbosity goes on with the reading, and it can be written
once. -/
theorem set_of_readLetters {letter : Char} {letters : List Char}
    (h : reading.readLetters (letter :: letters) = .ok next) :
    letter = 'v' ∧ letters = [] ∧ Switch.verbose.set reading = .ok next := by
  unfold readLetters at h
  split at h
  · next hletter =>
    obtain ⟨on, hset, hmore⟩ := exists_of_bind_eq_ok h
    have hset : Switch.verbose.set reading = .ok on := hset
    cases letters with
    | nil =>
      cases hmore
      exact ⟨by simpa using hletter, rfl, hset⟩
    | cons letter letters =>
      obtain ⟨settled, hsettle, -, rfl⟩ := set_eq_ok_iff.mp hset
      unfold readLetters at hmore
      split at hmore
      · obtain ⟨again, hagain, -⟩ := exists_of_bind_eq_ok hmore
        obtain ⟨resettled, hresettle, hoff, -⟩ :=
          set_eq_ok_iff.mp (show Switch.verbose.set _ = .ok again from hagain)
        rw [isOn_of_settle Switch.verbose hresettle, Switch.isOn_turnOn_self] at hoff
        cases hoff
      · split at hmore
        · exact absurd hmore (answer_ne_ok _)
        · split at hmore
          · exact absurd hmore (answer_ne_ok _)
          · cases hmore
  · split at h
    · exact absurd h (answer_ne_ok _)
    · split at h
      · exact absurd h (answer_ne_ok _)
      · cases h

end Reading

/-! ## Arguments that are accepted -/

/-- An argument that is neither an option nor the end of the options. -/
def IsFree (argument : String) : Prop :=
  ∀ letter letters, argument.toList ≠ '-' :: letter :: letters

/-- One argument is accepted.  The cases are the kinds of argument: the end of the options, a switch,
a limit with its value, a limit whose value follows, that value, and the file.  Each says what the
argument makes of the reading. -/
inductive Accepts (reading : Reading) (argument : String) : Reading → Prop
  | endOfOptions (hopen : reading.optionsEnded = false) (hargument : argument = "--") :
      Accepts reading argument { reading with optionsEnded := true }
  | switch (switch : Switch) {settled : Reading} (hopen : reading.optionsEnded = false)
      (hargument : argument ∈ switch.words) (hsettle : reading.settle = .ok settled)
      (hoff : switch.isOn settled = false) : Accepts reading argument (switch.turnOn settled)
  | limit (value : String) {settled next : Reading} (hopen : reading.optionsEnded = false)
      (hargument : argument = "--max-lexeme=" ++ value) (hsettle : reading.settle = .ok settled)
      (hlimit : settled.setLimit value = .ok next) : Accepts reading argument next
  | limitAhead {settled : Reading} (hopen : reading.optionsEnded = false)
      (hargument : argument = "--max-lexeme") (hsettle : reading.settle = .ok settled) :
      Accepts reading argument { settled with unchecked := some (.maxLexeme none) }
  | value (hopen : reading.optionsEnded = false) (hargument : IsFree argument)
      (hwaiting : reading.unchecked = some (.maxLexeme none)) :
      Accepts reading argument { reading with unchecked := some (.maxLexeme (some argument)) }
  | file {settled : Reading}
      (hargument : reading.optionsEnded = false →
        IsFree argument ∧ reading.unchecked ≠ some (.maxLexeme none))
      (hfirst : reading.fileSeen = false) (hsettle : reading.settle = .ok settled) :
      Accepts reading argument { settled with unchecked := some (.file argument), fileSeen := true }

section

variable {reading next : Reading} {argument : String}

theorem accepts_of_readFile
    (hargument : reading.optionsEnded = false →
      IsFree argument ∧ reading.unchecked ≠ some (.maxLexeme none))
    (h : reading.readFile argument = .ok next) : Accepts reading argument next := by
  unfold Reading.readFile at h
  split at h
  · cases h
  · next hfirst =>
    obtain ⟨settled, hsettle, h⟩ := exists_of_bind_eq_ok h
    cases h
    exact .file hargument (by simpa using hfirst) hsettle

theorem accepts_of_set (switch : Switch) (hopen : reading.optionsEnded = false)
    (hargument : argument ∈ switch.words) (h : switch.set reading = .ok next) :
    Accepts reading argument next := by
  obtain ⟨settled, hsettle, hoff, rfl⟩ := Reading.set_eq_ok_iff.mp h
  exact .switch switch hopen hargument hsettle hoff

theorem accepts_of_readName {name : String} {value : Option String}
    (hopen : reading.optionsEnded = false)
    (hargument : argument = "--" ++ name ++ (value.elim "" ("=" ++ ·)))
    (h : reading.readName name value = .ok next) : Accepts reading argument next := by
  unfold Reading.readName at h
  split at h
  · cases value with
    | none => exact accepts_of_set .verbose hopen (by simp [hargument, Switch.words]) h
    | some value => cases h
  · cases value with
    | none => exact accepts_of_set .hideComments hopen (by simp [hargument, Switch.words]) h
    | some value => cases h
  · cases value with
    | none => exact absurd h (Reading.answer_ne_ok _)
    | some value => cases h
  · cases value with
    | none => exact absurd h (Reading.answer_ne_ok _)
    | some value => cases h
  · obtain ⟨settled, hsettle, h⟩ := exists_of_bind_eq_ok h
    cases value with
    | none =>
      cases h
      exact .limitAhead hopen hargument hsettle
    | some value =>
      have hargument : argument = "--max-lexeme" ++ ("=" ++ value) := hargument
      rw [← String.append_assoc] at hargument
      exact .limit value hopen hargument hsettle h
  · cases h

/-- A name and the value behind its equals sign make up what is written behind two hyphens. -/
theorem eq_append_of_option {option : List Char} {value : Option String}
    (hlist : argument.toList = '-' :: '-' :: option)
    (hvalue : option.dropWhile (· != '=') =
      (value.elim [] fun value => '=' :: value.toList)) :
    argument = "--" ++ String.ofList (option.takeWhile (· != '=')) ++ value.elim "" ("=" ++ ·) := by
  have hsplit := List.takeWhile_append_dropWhile (p := (· != '=')) (l := option)
  rw [hvalue] at hsplit
  generalize option.takeWhile (· != '=') = name at hsplit ⊢
  subst hsplit
  apply String.toList_inj.mp
  rw [hlist]
  cases value <;> simp

/-- The value of an option begins behind the first equals sign. -/
theorem eq_of_dropWhile_eq_cons {option rest : List Char} {c : Char}
    (h : option.dropWhile (· != '=') = c :: rest) : c = '=' := by
  have hhead := List.head?_dropWhile_not (· != '=') option
  rw [h] at hhead
  simpa using hhead

theorem accepts_of_read (h : reading.read argument = .ok next) :
    Accepts reading argument next := by
  unfold Reading.read at h
  split at h
  · next hended => exact accepts_of_readFile (fun hopen => by rw [hended] at hopen; cases hopen) h
  · next hended =>
    have hopen : reading.optionsEnded = false := by simpa using hended
    split at h
    · next hlist =>
      cases h
      exact .endOfOptions hopen (String.toList_inj.mp hlist)
    · next option _ hlist =>
      dsimp only at h
      split at h
      · next hvalue =>
        have hargument := @eq_append_of_option argument option none hlist hvalue
        exact accepts_of_readName hopen hargument h
      · next c value hvalue =>
        obtain rfl := eq_of_dropWhile_eq_cons hvalue
        have hrest : option.dropWhile (· != '=') = '=' :: (String.ofList value).toList := by
          rw [hvalue, String.toList_ofList]
        have hargument := @eq_append_of_option argument option (some (String.ofList value)) hlist
          hrest
        exact accepts_of_readName hopen hargument h
    · next letter letters _ hlist =>
      obtain ⟨rfl, rfl, hset⟩ := Reading.set_of_readLetters h
      obtain rfl : argument = "-v" := String.toList_inj.mp hlist
      exact accepts_of_set .verbose hopen (by simp [Switch.words]) hset
    · next hletters =>
      have hfree : IsFree argument := hletters
      split at h
      · next hwaiting =>
        cases h
        exact .value hopen hfree hwaiting
      · next hwaiting => exact accepts_of_readFile (fun _ => ⟨hfree, hwaiting⟩) h

theorem read_of_mem_words {switch : Switch} (hopen : reading.optionsEnded = false)
    (hargument : argument ∈ switch.words) : reading.read argument = switch.set reading := by
  have hended : ¬reading.optionsEnded = true := Bool.eq_false_iff.mp hopen
  unfold Reading.read
  rw [if_neg hended]
  cases switch with
  | verbose =>
    obtain rfl | rfl : argument = "-v" ∨ argument = "--verbose" := by
      simpa [Switch.words] using hargument
    · show (reading.setVerbose >>= fun on => on.readLetters []) = reading.setVerbose
      cases reading.setVerbose <;> rfl
    · rfl
  | hideComments =>
    obtain rfl := List.mem_singleton.mp hargument
    rfl

theorem read_of_isFree (hopen : reading.optionsEnded = false) (hargument : IsFree argument) :
    reading.read argument =
      if reading.unchecked = some (.maxLexeme none) then
        .ok { reading with unchecked := some (.maxLexeme (some argument)) }
      else reading.readFile argument := by
  have hended : ¬reading.optionsEnded = true := Bool.eq_false_iff.mp hopen
  unfold Reading.read
  rw [if_neg hended]
  split
  · next hlist => exact absurd hlist (hargument '-' [])
  · next option _ hlist => exact absurd hlist (hargument '-' option)
  · next letter letters hlist => exact absurd hlist (hargument _ _)
  · rfl

theorem readFile_eq {settled : Reading} (hfirst : reading.fileSeen = false)
    (hsettle : reading.settle = .ok settled) :
    reading.readFile argument =
      .ok { settled with unchecked := some (.file argument), fileSeen := true } := by
  simp [Reading.readFile, hfirst, hsettle, bind, Except.bind, pure, Except.pure]

theorem read_of_accepts (h : Accepts reading argument next) : reading.read argument = .ok next := by
  cases h with
  | endOfOptions hopen hargument =>
    subst hargument
    unfold Reading.read
    rw [if_neg (Bool.eq_false_iff.mp hopen)]
    rfl
  | switch switch hopen hargument hsettle hoff =>
    rw [read_of_mem_words hopen hargument]
    exact Reading.set_eq_ok_iff.mpr ⟨_, hsettle, hoff, rfl⟩
  | limit value hopen hargument hsettle hlimit =>
    subst hargument
    unfold Reading.read
    rw [if_neg (Bool.eq_false_iff.mp hopen)]
    have hlist : ("--max-lexeme=" ++ value).toList =
        '-' :: '-' :: ("max-lexeme".toList ++ '=' :: value.toList) := by
      rw [String.toList_append]
      rfl
    rw [hlist]
    show reading.readName "max-lexeme" (some (String.ofList value.toList)) = _
    simp [Reading.readName, hsettle, hlimit, bind, Except.bind]
  | limitAhead hopen hargument hsettle =>
    subst hargument
    unfold Reading.read
    rw [if_neg (Bool.eq_false_iff.mp hopen)]
    show reading.readName "max-lexeme" none = _
    simp [Reading.readName, hsettle, bind, Except.bind, pure, Except.pure]
  | value hopen hargument hwaiting =>
    rw [read_of_isFree hopen hargument, if_pos hwaiting]
  | file hargument hfirst hsettle =>
    cases hopen : reading.optionsEnded with
    | true =>
      rw [Reading.read, if_pos hopen]
      exact readFile_eq hfirst hsettle
    | false =>
      obtain ⟨hfree, hidle⟩ := hargument hopen
      rw [read_of_isFree hopen hfree, if_neg hidle]
      exact readFile_eq hfirst hsettle

/-- An argument is read successfully exactly if it is accepted. -/
theorem read_eq_ok_iff : reading.read argument = .ok next ↔ Accepts reading argument next :=
  ⟨accepts_of_read, read_of_accepts⟩

end

end CcxLexis.CommandLine
