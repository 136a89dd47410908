import CcxLexis.Lexeme

/-!
# What a lexeme holds

A lexeme takes the bytes of a token one at a time, and what it holds afterwards depends on those
bytes alone: the bytes that the settings keep of them, how many those are, and whether any were
dropped.  `Lexeme.holding` is that dependence as a function, and `value_push_holding` says that
taking one byte more preserves it.

The lexeme of no bytes is the empty one, so a lexeme that starts empty holds, after any number of
bytes, exactly what `Lexeme.holding` says of them.
-/

namespace CcxLexis

namespace Settings

variable (settings : Settings)

/-- The bytes that are kept of the bytes of a token: the first ones, up to the limit. -/
def kept (bytes : List Byte) : List Byte :=
  match settings.maxLexeme with
  | none => bytes
  | some limit => bytes.take limit.bytes

/-- Whether some of the bytes of a token are dropped. -/
def drops (bytes : List Byte) : Bool :=
  match settings.maxLexeme with
  | none => false
  | some limit => limit.bytes < bytes.length

@[simp] theorem kept_nil : settings.kept [] = [] := by
  unfold kept
  split <;> simp

@[simp] theorem drops_nil : settings.drops [] = false := by
  unfold drops
  split <;> simp

@[simp] theorem kept_unlimited (bytes : List Byte) : ({} : Settings).kept bytes = bytes := rfl

@[simp] theorem drops_unlimited (bytes : List Byte) : ({} : Settings).drops bytes = false := rfl

theorem kept_eq_of_not_drops {bytes : List Byte} (h : settings.drops bytes = false) :
    settings.kept bytes = bytes := by
  unfold drops at h
  unfold kept
  split at h
  · rfl
  · next limit _ =>
    have hle : bytes.length ≤ limit.bytes := by simpa using h
    exact List.take_of_length_le hle

/-! ### Under a limit -/

section

variable {limit : Limit} {bytes : List Byte}

theorem kept_of_le (h : bytes.length ≤ limit.bytes) :
    (Settings.mk (some limit)).kept bytes = bytes :=
  List.take_of_length_le h

theorem kept_append_of_le (h : limit.bytes ≤ bytes.length) (more : List Byte) :
    (Settings.mk (some limit)).kept (bytes ++ more) = (Settings.mk (some limit)).kept bytes :=
  List.take_append_of_le_length h

theorem drops_of_le (h : bytes.length ≤ limit.bytes) :
    (Settings.mk (some limit)).drops bytes = false :=
  decide_eq_false (Nat.not_lt.mpr h)

theorem drops_of_lt (h : limit.bytes < bytes.length) :
    (Settings.mk (some limit)).drops bytes = true :=
  decide_eq_true h

theorem length_kept_of_le (h : limit.bytes ≤ bytes.length) :
    ((Settings.mk (some limit)).kept bytes).length = limit.bytes :=
  List.length_take_of_le h

end

end Settings

/-! ## Bytes as text -/

@[simp] theorem Byte.toList_text (bytes : List Byte) :
    (Byte.text bytes).toList = bytes.map Byte.toChar := by
  rw [Byte.text, String.toList_ofList]

theorem Byte.text_append_singleton (bytes : List Byte) (byte : Byte) :
    Byte.text (bytes ++ [byte]) = (Byte.text bytes).push byte.toChar := by
  apply String.toList_inj.mp
  rw [String.toList_push, Byte.toList_text, Byte.toList_text, List.map_append, List.map_singleton]

namespace Lexeme

/-- The lexeme that has taken the given bytes. -/
def holding (settings : Settings) (bytes : List Byte) : Lexeme :=
  { text := Byte.text (settings.kept bytes)
    stored := (settings.kept bytes).length
    truncated := settings.drops bytes }

@[simp] theorem holding_nil (settings : Settings) : holding settings [] = empty := by
  simp [holding, Byte.text, empty]

/-- Taking one byte more.  As long as there is room the byte is kept.  Behind that the bytes kept
stay the same, and the first byte that is dropped is remembered. -/
theorem value_push_holding (settings : Settings) (bytes : List Byte) (byte : Byte) :
    ((holding settings bytes).push settings byte).value = holding settings (bytes ++ [byte]) := by
  obtain ⟨_ | limit⟩ := settings
  · simp [push, store, holding, Byte.text_append_singleton]
  have hlength : (bytes ++ [byte]).length = bytes.length + 1 := List.length_append
  by_cases hroom : bytes.length < limit.bytes
  · have hle : bytes.length ≤ limit.bytes := Nat.le_of_lt hroom
    have hkept := Settings.kept_of_le hle
    have hdrops := Settings.drops_of_le hle
    have hnext : (bytes ++ [byte]).length ≤ limit.bytes := by omega
    have hkept' := Settings.kept_of_le hnext
    have hdrops' := Settings.drops_of_le hnext
    simp [push, store, holding, hkept, hkept', hdrops, hdrops', hroom, Byte.text_append_singleton]
  · have hfull : limit.bytes ≤ bytes.length := Nat.not_lt.mp hroom
    have hstored := Settings.length_kept_of_le hfull
    have hkept' := Settings.kept_append_of_le hfull [byte]
    have hdrops' : (Settings.mk (some limit)).drops (bytes ++ [byte]) = true :=
      Settings.drops_of_lt (by omega)
    cases hdrops : (Settings.mk (some limit)).drops bytes with
    | true => simp [push, holding, hstored, hkept', hdrops, hdrops']
    | false => simp [push, holding, hstored, hkept', hdrops, hdrops']

end Lexeme

end CcxLexis
