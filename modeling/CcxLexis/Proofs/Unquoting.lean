import CcxLexis.Text.Plain
import CcxLexis.Text.Quoted
import Mathlib.Data.List.SplitBy
import Mathlib.Data.List.Basic
import Mathlib.Tactic.IntervalCases
import Mathlib.Tactic.SplitIfs

/-!
# Quoted text can be read back

A quotation shows a text on one line, and the text can be read off it again, whatever characters it
holds.  `readChar?` reads one character of a quotation.  It gives back every character that was
written (`readChar?_encodeChar`) and nothing where the quotation ends, so two quotations that are
equal, or that begin equal texts, show the same text (`quoted_append_inj`).

A quotation stays on one line (`oneLine_quoted`), and its portions, written one after the
other, are the quotation (`join_quotedPortions`).
-/

namespace CcxLexis.Text

/-! ## Hexadecimal numbers -/

/-- The number that a hexadecimal digit stands for. -/
def hexDigitValue (c : Char) : Nat :=
  if c.isDigit then c.toNat - '0'.toNat else c.toNat - 'a'.toNat + 10

/-- The number that hexadecimal digits stand for, the most significant digit first. -/
def hexValue (digits : List Char) : Nat :=
  digits.foldl (fun n c => 16 * n + hexDigitValue c) 0

theorem hexDigitValue_digitChar {n : Nat} (h : n < 16) : hexDigitValue n.digitChar = n := by
  interval_cases n <;> rfl

theorem hexValue_toDigits (n : Nat) : hexValue (Nat.toDigits 16 n) = n := by
  induction n using Nat.strongRecOn with
  | ind n ih =>
    rw [Nat.toDigits_eq_if (by decide)]
    split
    · next hlt => simp [hexValue, hexDigitValue_digitChar hlt]
    · next hle =>
      have hlast : n % 16 < 16 := Nat.mod_lt n (by decide)
      have hinit : hexValue (Nat.toDigits 16 (n / 16)) = n / 16 := ih _ (by omega)
      rw [hexValue, List.foldl_append, ← hexValue, hinit, List.foldl_cons, List.foldl_nil,
        hexDigitValue_digitChar hlast, Nat.div_add_mod]

theorem exists_digitChar_of_mem_toDigits {n : Nat} {c : Char} (h : c ∈ Nat.toDigits 16 n) :
    ∃ digit, c = Nat.digitChar digit := by
  induction n using Nat.strongRecOn with
  | ind n ih =>
    rw [Nat.toDigits_eq_if (by decide)] at h
    split at h
    · exact ⟨n, List.mem_singleton.mp h⟩
    · rcases List.mem_append.mp h with h | h
      · exact ih _ (by omega) h
      · exact ⟨_, List.mem_singleton.mp h⟩

/-! ## Characters of a quotation -/

/-- The character that is written as a backslash and the given letter. -/
def unescape? (letter : Char) : Option Char :=
  if letter == '"' then some '"'
  else if letter == '\\' then some '\\'
  else if letter == 'n' then some '\n'
  else if letter == 'r' then some '\r'
  else if letter == 't' then some '\t'
  else if letter == '0' then some '\x00'
  else none

/-- Reads one character of a quotation, and returns it with what is behind it.  There is none where
the quotation ends. -/
def readChar? : List Char → Option (Char × List Char)
  | [] => none
  | '"' :: _ => none
  | '\\' :: 'u' :: '\x7b' :: cs =>
    some (Char.ofNat (hexValue (cs.takeWhile (· != '\x7d'))), (cs.dropWhile (· != '\x7d')).tail)
  | '\\' :: letter :: cs => (unescape? letter).map fun c => (c, cs)
  | c :: cs => some (c, cs)

theorem unescape?_of_escapeLetter? {c letter : Char} (h : escapeLetter? c = some letter) :
    unescape? letter = some c ∧ letter ≠ 'u' := by
  unfold escapeLetter? at h
  split_ifs at h with hc hc hc hc hc hc <;> cases h <;> rw [eq_of_beq hc] <;> decide

theorem ne_of_escapeLetter?_eq_none {c : Char} (h : escapeLetter? c = none) :
    c ≠ '"' ∧ c ≠ '\\' ∧ c ≠ '\n' := by
  refine ⟨?_, ?_, ?_⟩ <;> rintro rfl <;> cases h

theorem brace_not_mem_toDigits (n : Nat) : '\x7d' ∉ Nat.toDigits 16 n := by
  intro h
  obtain ⟨digit, hdigit⟩ := exists_digitChar_of_mem_toDigits h
  exact Nat.digitChar_ne '\x7d' (by decide) hdigit.symm

theorem readChar?_number (n : Nat) (rest : List Char) :
    readChar? ('\\' :: 'u' :: '\x7b' :: (Nat.toDigits 16 n ++ '\x7d' :: rest)) =
      some (Char.ofNat n, rest) := by
  have hdigits : ∀ c ∈ Nat.toDigits 16 n, (c != '\x7d') = true := by
    intro c hc
    have hne : c ≠ '\x7d' := fun heq => brace_not_mem_toDigits n (heq ▸ hc)
    simpa using hne
  rw [readChar?, List.takeWhile_append_of_pos hdigits, List.dropWhile_append_of_pos hdigits]
  simp [hexValue_toDigits]

theorem readChar?_encodeChar (c : Char) (rest : List Char) :
    readChar? (encodeChar c ++ rest) = some (c, rest) := by
  unfold encodeChar
  split
  · next letter hletter =>
    obtain ⟨hread, hu⟩ := unescape?_of_escapeLetter? hletter
    have hescape : readChar? ('\\' :: letter :: rest) =
        (unescape? letter).map fun c => (c, rest) := by
      simp [readChar?, hu]
    simpa [hread] using hescape
  · next hnone =>
    obtain ⟨hmark, hbackslash, -⟩ := ne_of_escapeLetter?_eq_none hnone
    split
    · simpa using readChar?_number c.toNat rest
    · simp [readChar?, hbackslash]

theorem encode_cons (c : Char) (cs : List Char) : encode (c :: cs) = encodeChar c ++ encode cs :=
  List.flatMap_cons

/-- What a quotation shows, and what stands behind it, can be read off a text that begins with
it. -/
theorem encode_append_inj {cs ds rest rest' : List Char}
    (h : encode cs ++ '"' :: rest = encode ds ++ '"' :: rest') : cs = ds ∧ rest = rest' := by
  induction cs generalizing ds with
  | nil =>
    cases ds with
    | nil => exact ⟨rfl, (List.cons.inj h).2⟩
    | cons d ds =>
      have hread := congrArg readChar? h
      rw [encode_cons, List.append_assoc, readChar?_encodeChar] at hread
      cases hread
  | cons c cs ih =>
    have hread := congrArg readChar? h
    rw [encode_cons, List.append_assoc, readChar?_encodeChar] at hread
    cases ds with
    | nil => cases hread
    | cons d ds =>
      rw [encode_cons, List.append_assoc, readChar?_encodeChar] at hread
      obtain ⟨rfl, hbehind⟩ := Prod.mk.inj (Option.some.inj hread)
      obtain ⟨rfl, hrest⟩ := ih hbehind
      exact ⟨rfl, hrest⟩

/-! ## Quotations -/

theorem toList_quoted (text : String) :
    (quoted text).toList = '"' :: (encode text.toList ++ ['"']) := by
  rw [quoted, String.toList_ofList, List.cons_append]

theorem quoted_append_inj {text text' : String} {rest rest' : List Char}
    (h : (quoted text).toList ++ rest = (quoted text').toList ++ rest') :
    text = text' ∧ rest = rest' := by
  rw [toList_quoted, toList_quoted, List.cons_append, List.cons_append, List.append_assoc,
    List.append_assoc] at h
  obtain ⟨htext, hrest⟩ := encode_append_inj (List.cons.inj h).2
  exact ⟨String.toList_inj.mp htext, hrest⟩

theorem quoted_injective : Function.Injective quoted := by
  intro text text' h
  have hchars : (quoted text).toList ++ [] = (quoted text').toList ++ [] := by rw [h]
  exact (quoted_append_inj hchars).1

theorem lineFeed_not_mem_encodeChar (c : Char) : '\n' ∉ encodeChar c := by
  unfold encodeChar
  split
  · next letter hletter =>
    have hne : letter ≠ '\n' := by
      rintro rfl
      cases (unescape?_of_escapeLetter? hletter).1
    simpa using hne.symm
  · next hnone =>
    split
    · have hdigits : '\n' ∉ Nat.toDigits 16 c.toNat := by
        intro h
        obtain ⟨digit, hdigit⟩ := exists_digitChar_of_mem_toDigits h
        exact Nat.digitChar_ne '\n' (by decide) hdigit.symm
      simpa using hdigits
    · simpa using (ne_of_escapeLetter?_eq_none hnone).2.2.symm

/-- A quotation stays on one line. -/
theorem oneLine_quoted (text : String) : OneLine (quoted text) := by
  have hinside : '\n' ∉ encode text.toList := by
    intro h
    obtain ⟨c, -, hc⟩ := List.mem_flatMap.mp h
    exact lineFeed_not_mem_encodeChar c hc
  simpa [OneLine, toList_quoted] using hinside

/-- The portions of a quotation make it up. -/
theorem join_quotedPortions (text : String) : String.join (quotedPortions text) = quoted text := by
  apply String.toList_inj.mp
  have hstretches : ∀ stretches : List (List Char),
      (stretches.map fun stretch => String.ofList (encode stretch)).flatMap String.toList =
        encode stretches.flatten := by
    intro stretches
    induction stretches with
    | nil => rfl
    | cons stretch stretches ih =>
      rw [List.map_cons, List.flatMap_cons, ih, String.toList_ofList, List.flatten_cons, encode,
        encode, encode, List.flatMap_append]
  rw [quotedPortions, String.toList_join, List.flatMap_append, List.flatMap_cons, hstretches,
    List.flatten_splitBy, toList_quoted]
  rfl

end CcxLexis.Text
