import CcxLexis.Scanner.Scanned
import CcxLexis.ScanFailure

/-!
# Streams of tokens

The ways to get at the tokens of a scanner: one at a time with the end reported as a token, one
at a time with the end reported as the absence of a token, or all that are left.  They share the
scanner's position, so they can be mixed freely, and a scanner stays usable after its end.

The events of a token are those reported while it was scanned.  The scan that finds the end has
events as well, whichever way the end is reported.
-/

namespace CcxLexis.Scanner

/-! ## One token at a time -/

/-- The next token, or nothing at the end. -/
def next? (scanner : Scanner) : Logged (Option Token × Scanner) :=
  let result := scanner.next
  let token := result.1.token
  ⟨(if token.isEndOfInput then none else some token, result.2), result.1.events⟩

/-! ## All that is left -/

theorem ne_endOfInput_of_not {token : Token} (h : ¬token.isEndOfInput = true) :
    token ≠ Token.endOfInput :=
  fun hend => h (hend ▸ rfl)

/-- Scans to the end, adding to the tokens already handed out. -/
def drainInto (handed : Array Scanned) (scanner : Scanner) : Array Scanned × Scanner :=
  let result := scanner.next
  if _hend : result.1.token.isEndOfInput then (handed.push result.1, result.2)
  else drainInto (handed.push result.1) result.2
termination_by scanner.remaining.length
decreasing_by
  exact remaining_next_lt (ne_endOfInput_of_not _hend)

theorem drainInto_of_end {scanner : Scanner} (handed : Array Scanned)
    (h : scanner.next.1.token.isEndOfInput = true) :
    scanner.drainInto handed = (handed.push scanner.next.1, scanner.next.2) := by
  rw [drainInto]
  exact dif_pos h

theorem drainInto_of_not_end {scanner : Scanner} (handed : Array Scanned)
    (h : ¬scanner.next.1.token.isEndOfInput = true) :
    scanner.drainInto handed =
      scanner.next.2.drainInto (handed.push scanner.next.1) := by
  rw [drainInto]
  exact dif_neg h

theorem drainInto_eq (scanner : Scanner) (handed : Array Scanned) :
    scanner.drainInto handed =
      (handed ++ (scanner.drainInto #[]).1, (scanner.drainInto #[]).2) := by
  induction hn : scanner.remaining.length using Nat.strongRecOn generalizing scanner handed with
  | ind n ih =>
    by_cases hend : scanner.next.1.token.isEndOfInput = true
    · rw [drainInto_of_end handed hend, drainInto_of_end #[] hend]
      simp
    · have hlt := remaining_next_lt (ne_endOfInput_of_not hend)
      rw [hn] at hlt
      rw [drainInto_of_not_end handed hend, drainInto_of_not_end #[] hend,
        ih _ hlt _ (handed.push _) rfl, ih _ hlt _ (#[].push _) rfl]
      simp

/-- All tokens that are left, the report of the end last, and the scanner at its end. -/
def drain (scanner : Scanner) : List Scanned × Scanner :=
  let result := scanner.drainInto #[]
  (result.1.toList, result.2)

/-- A scanner at its end hands out the report of it, and any other one token and then the
rest. -/
theorem drain_eq (scanner : Scanner) :
    scanner.drain =
      if scanner.next.1.token.isEndOfInput then ([scanner.next.1], scanner.next.2)
      else (scanner.next.1 :: scanner.next.2.drain.1, scanner.next.2.drain.2) := by
  unfold drain
  split
  · next h => rw [drainInto_of_end #[] h]; rfl
  · next h =>
    rw [drainInto_of_not_end #[] h, drainInto_eq]
    simp

/-- All tokens that are left, up to and including the one that reports the end. -/
def collect (scanner : Scanner) : Logged (List Token × Scanner) :=
  let result := scanner.drain
  ⟨(result.1.map Scanned.token, result.2), result.1.flatMap Scanned.events⟩

/-- All tokens that are left, without the one that reports the end. -/
def rest (scanner : Scanner) : Logged (List Token × Scanner) := do
  let (tokens, scanner) ← scanner.collect
  return (tokens.filter fun token => !token.isEndOfInput, scanner)

/-! ## The end of a scan -/

/-- Gives the scanner up.  A failure that ended the source early is handed over here. -/
def finishScan (scanner : Scanner) : Except ScanFailure Unit :=
  match scanner.failure? with
  | some fault => .error (.readFailed fault)
  | none => .ok ()

/-- All tokens of a source, from its first byte to the report of its end. -/
def scan (settings : Settings) (reader : Reader) : Logged (List Token × Scanner) := do
  let scanner ← start settings reader
  scanner.collect

/-- The tokens of a text that is already in memory. -/
def tokensOf (settings : Settings) (bytes : List Byte) : Logged (List Token) := do
  let (tokens, _) ← scan settings (Reader.ofBytes bytes)
  return tokens

end CcxLexis.Scanner
