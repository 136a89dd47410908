import CcxLexis.Fault

/-!
# Buffered output

Output passes through two buffers on its way to a device.  The block buffer collects portions
until the next one does not fit.  The line buffer in front of the device holds back a short text
without a line feed and lets everything else through.

A device may refuse what reaches it.  Then nothing more is written, and the refusal shows when
the buffers let text through, at the latest when they are flushed.  A device is never handed an
empty text, so output that stays empty cannot be refused.
-/

namespace CcxLexis.CommandLine

/-- Two steps in a row succeed only if both do. -/
theorem exists_of_bind_eq_ok {ε α β : Type} {first : Except ε α} {next : α → Except ε β}
    {result : β} (h : first >>= next = .ok result) :
    ∃ middle, first = .ok middle ∧ next middle = .ok result := by
  cases first with
  | error fault => cases h
  | ok middle => exact ⟨middle, rfl, h⟩

/-- Where output goes. -/
inductive Device where
  | accepting
  | refusing (fault : Fault)
deriving DecidableEq, Repr

/-- Output on its way: what the device has taken, and what waits in the two buffers. -/
structure Output where
  device : Device
  taken : String := ""
  line : String := ""
  block : String := ""
deriving DecidableEq, Repr

namespace Output

/-- The size of the block buffer, in bytes. -/
def blockSize : Nat := 8192

/-- The size of the line buffer, in bytes. -/
def lineSize : Nat := 1024

/-- Everything written so far, wherever it is. -/
def text (output : Output) : String :=
  output.taken ++ output.line ++ output.block

/-- Hands the line buffer to the device, if there is something in it. -/
def flushLine (output : Output) : Except Fault Output :=
  if output.line.isEmpty then .ok output
  else
    match output.device with
    | .accepting => .ok { output with taken := output.taken ++ output.line, line := "" }
    | .refusing fault => .error fault

/-- Lets the block buffer through to the line buffer, which keeps it only if it is short and
ends no line. -/
def flushBlock (output : Output) : Except Fault Output :=
  let passed := { output with line := output.line ++ output.block, block := "" }
  if output.block.contains '\n' || lineSize ≤ passed.line.utf8ByteSize then passed.flushLine
  else .ok passed

/-- Lets the block buffer through if the portion does not fit behind what it holds. -/
def makeRoom (output : Output) (portion : String) : Except Fault Output :=
  if blockSize < output.block.utf8ByteSize + portion.utf8ByteSize then output.flushBlock
  else .ok output

/-- Writes one portion.  A portion that fills the block buffer by itself does not wait there. -/
def write (output : Output) (portion : String) : Except Fault Output := do
  let ready ← output.makeRoom portion
  let added := { ready with block := ready.block ++ portion }
  if blockSize ≤ portion.utf8ByteSize then added.flushBlock else return added

/-- Writes portions in order. -/
def writeAll (output : Output) (portions : List String) : Except Fault Output :=
  portions.foldlM write output

/-- Hands everything over to the device. -/
def flush (output : Output) : Except Fault Output := do
  (← output.flushBlock).flushLine

/-! ## What was written -/

theorem text_flushLine {output flushed : Output} (h : output.flushLine = .ok flushed) :
    flushed.text = output.text := by
  unfold flushLine at h
  split at h
  · cases h
    rfl
  · split at h
    · cases h
      simp [text]
    · cases h

theorem text_flushBlock {output flushed : Output} (h : output.flushBlock = .ok flushed) :
    flushed.text = output.text := by
  have hpassed : ({ output with line := output.line ++ output.block, block := "" } : Output).text =
      output.text := by
    simp [text, String.append_assoc]
  unfold flushBlock at h
  dsimp only at h
  split at h
  · rw [text_flushLine h, hpassed]
  · cases h
    exact hpassed

theorem text_makeRoom {output ready : Output} {portion : String}
    (h : output.makeRoom portion = .ok ready) : ready.text = output.text := by
  unfold makeRoom at h
  split at h
  · exact text_flushBlock h
  · cases h
    rfl

/-- Writing a portion adds it to the text, wherever the buffers put it. -/
theorem text_write {output written : Output} {portion : String}
    (h : output.write portion = .ok written) : written.text = output.text ++ portion := by
  have hadd (ready : Output) :
      ({ ready with block := ready.block ++ portion } : Output).text = ready.text ++ portion := by
    simp [text, String.append_assoc]
  obtain ⟨ready, hroom, h⟩ := exists_of_bind_eq_ok h
  dsimp only at h
  split at h
  · rw [text_flushBlock h, hadd, text_makeRoom hroom]
  · cases h
    rw [hadd, text_makeRoom hroom]

theorem text_writeAll {output written : Output} {portions : List String}
    (h : output.writeAll portions = .ok written) :
    written.text = output.text ++ String.join portions := by
  induction portions generalizing output with
  | nil =>
    obtain rfl : output = written := Except.ok.inj h
    simp
  | cons portion portions ih =>
    rw [writeAll, List.foldlM_cons] at h
    obtain ⟨next, hwrite, h⟩ := exists_of_bind_eq_ok h
    rw [ih h, text_write hwrite, String.join_cons, String.append_assoc]

theorem line_flushLine {output flushed : Output} (h : output.flushLine = .ok flushed) :
    flushed.line = "" ∧ flushed.block = output.block := by
  unfold flushLine at h
  split at h
  · next hempty =>
    cases h
    exact ⟨String.isEmpty_iff.mp hempty, rfl⟩
  · split at h
    · cases h
      exact ⟨rfl, rfl⟩
    · cases h

theorem block_flushBlock {output flushed : Output} (h : output.flushBlock = .ok flushed) :
    flushed.block = "" := by
  unfold flushBlock at h
  dsimp only at h
  split at h
  · exact (line_flushLine h).2
  · cases h
    rfl

/-- Flushing leaves nothing in the buffers: the device has taken all that was written. -/
theorem taken_flush {output flushed : Output} (h : output.flush = .ok flushed) :
    flushed.taken = output.text := by
  obtain ⟨passed, hblock, hline⟩ := exists_of_bind_eq_ok h
  obtain ⟨hnoLine, hnoBlock⟩ := line_flushLine hline
  rw [block_flushBlock hblock] at hnoBlock
  have htext : flushed.text = output.text := (text_flushLine hline).trans (text_flushBlock hblock)
  rw [← htext, text, hnoLine, hnoBlock, String.append_empty, String.append_empty]

end Output

end CcxLexis.CommandLine
