import CcxLexis.Logged
import CcxLexis.Reader

/-!
# Cursors

A cursor is a position in a source that is still being read.  It holds the byte at the position
and at most one byte more, the one behind it.  A byte is demanded from the reader as soon as the
one before it is consumed, and one byte further only to tell `//`, `/*` and `*/` from their
first bytes, so a failing read shows no earlier than it has to.

A failure is final: from then on nothing is demanded from the reader.  An end is not recorded.
It shows only in the missing byte, and it is final because a scanner demands nothing where a
byte is missing.

`Cursor.remaining` is the view of a cursor as the bytes that are left, demanded or not.
-/

namespace CcxLexis

/-- A position in a source: the byte at it, the answer to the demand for the byte behind it, if
that was demanded, and the failure that has stopped the source, if one has.

There is no byte at the position once the source is used up. -/
structure Cursor where
  current? : Option Byte := none
  peeked : Option (Option Byte) := none
  failure? : Option Fault := none
  reader : Reader
deriving DecidableEq, Repr

namespace Cursor

/-- Demands one byte, unless the source has failed. -/
def demand (cursor : Cursor) : Logged (Option Byte × Cursor) :=
  match cursor.failure? with
  | some _ => pure (none, cursor)
  | none =>
    match cursor.reader.next with
    | .byte byte reader => pure (some byte, { cursor with reader })
    | .ended reader => pure (none, { cursor with reader })
    | .failed fault reader => do
      .report (.readFailed fault)
      return (none, { cursor with failure? := some fault, reader })

/-- The start of a source, its first byte demanded. -/
def start (reader : Reader) : Logged Cursor := do
  let (byte, cursor) ← demand { reader }
  return { cursor with current? := byte }

/-- The byte after the one at the cursor, as far as it was demanded. -/
def following? (cursor : Cursor) : Option Byte :=
  cursor.peeked.join

/-- Makes sure that the byte after the one at the cursor was demanded. -/
def lookFurther (cursor : Cursor) : Logged Cursor :=
  match cursor.peeked with
  | some _ => pure cursor
  | none => do
    let (byte, cursor) ← cursor.demand
    return { cursor with peeked := some byte }

/-- Consumes the byte at the cursor and makes sure that the next one was demanded. -/
def advance (cursor : Cursor) : Logged Cursor :=
  match cursor.peeked with
  | some byte => pure { cursor with current? := byte, peeked := none }
  | none => do
    let (byte, cursor) ← cursor.demand
    return { cursor with current? := byte, peeked := none }

/-- The bytes that were not demanded yet. -/
def unread (cursor : Cursor) : List Byte :=
  match cursor.failure? with
  | some _ => []
  | none => cursor.reader.remaining

/-- The bytes behind the one at the cursor. -/
def behind (cursor : Cursor) : List Byte :=
  match cursor.peeked with
  | none => cursor.unread
  | some none => []
  | some (some byte) => byte :: cursor.unread

/-- The bytes that are left. -/
def remaining (cursor : Cursor) : List Byte :=
  match cursor.current? with
  | none => []
  | some byte => byte :: cursor.behind

/-! ## Moves and the view -/

theorem current?_demand (cursor : Cursor) :
    cursor.demand.value.2.current? = cursor.current? := by
  obtain ⟨current, peeked, failure, reader⟩ := cursor
  cases failure with
  | some fault => rfl
  | none =>
    unfold demand
    dsimp only
    cases reader.next <;> rfl

theorem peeked_demand (cursor : Cursor) : cursor.demand.value.2.peeked = cursor.peeked := by
  obtain ⟨current, peeked, failure, reader⟩ := cursor
  cases failure with
  | some fault => rfl
  | none =>
    unfold demand
    dsimp only
    cases reader.next <;> rfl

/-- A demand hands out the first byte that was not demanded yet. -/
theorem unread_demand (cursor : Cursor) :
    match cursor.demand.value with
    | (some byte, after) => cursor.unread = byte :: after.unread
    | (none, _) => cursor.unread = [] := by
  obtain ⟨current, peeked, failure, reader⟩ := cursor
  cases failure with
  | some fault => rfl
  | none =>
    cases h : reader.next with
    | byte byte rest => simp [demand, unread, h, Reader.remaining_of_next_byte h]
    | ended rest => simp [demand, unread, h, Reader.remaining_of_next_ended h]
    | failed fault rest => simp [demand, unread, h, Reader.remaining_of_next_failed h]

theorem remaining_start (reader : Reader) : (start reader).value.remaining = reader.remaining := by
  have hunread := unread_demand { reader }
  simp only [start, Logged.value_bind, Logged.value_pure]
  split at hunread
  · next byte after h =>
    have hpeeked : after.peeked = none := by
      have hsame := peeked_demand { reader }
      rwa [h] at hsame
    simp only [h, remaining, behind, hpeeked]
    exact hunread.symm
  · next h => simp only [h]; exact hunread.symm

theorem head?_remaining (cursor : Cursor) : cursor.remaining.head? = cursor.current? := by
  unfold remaining
  split
  · next h => exact h.symm
  · next h => exact h.symm

theorem remaining_of_current? {cursor : Cursor} {byte : Byte} (h : cursor.current? = some byte) :
    cursor.remaining = byte :: cursor.behind := by
  simp only [remaining, h]

@[simp]
theorem current?_lookFurther (cursor : Cursor) :
    cursor.lookFurther.value.current? = cursor.current? := by
  unfold lookFurther
  split
  · rfl
  · exact current?_demand cursor

@[simp]
theorem behind_lookFurther (cursor : Cursor) :
    cursor.lookFurther.value.behind = cursor.behind := by
  have hunread := unread_demand cursor
  obtain ⟨current, peeked, failure, reader⟩ := cursor
  cases peeked with
  | some byte => rfl
  | none =>
    simp only [lookFurther, Logged.value_bind, Logged.value_pure]
    split at hunread
    · next h => simp only [h]; exact hunread.symm
    · next h => simp only [h]; exact hunread.symm

@[simp]
theorem remaining_lookFurther (cursor : Cursor) :
    cursor.lookFurther.value.remaining = cursor.remaining := by
  simp only [remaining, current?_lookFurther, behind_lookFurther]

/-- Looking further shows the byte behind the one at the cursor, or that there is none. -/
theorem following?_lookFurther (cursor : Cursor) :
    cursor.lookFurther.value.following? = cursor.behind.head? := by
  have hunread := unread_demand cursor
  obtain ⟨current, peeked, failure, reader⟩ := cursor
  cases peeked with
  | some byte => cases byte <;> rfl
  | none =>
    simp only [lookFurther, Logged.value_bind, Logged.value_pure, following?, behind]
    split at hunread
    · next h => rw [h, hunread]; rfl
    · next h => rw [h, hunread]; rfl

@[simp]
theorem remaining_advance (cursor : Cursor) :
    cursor.advance.value.remaining = cursor.behind := by
  have hunread := unread_demand cursor
  obtain ⟨current, peeked, failure, reader⟩ := cursor
  cases peeked with
  | some byte => cases byte <;> rfl
  | none =>
    simp only [advance, Logged.value_bind, Logged.value_pure]
    split at hunread
    · next h => simp only [h]; exact hunread.symm
    · next h => simp only [h]; exact hunread.symm

theorem current?_advance {cursor : Cursor} {byte : Byte} (h : cursor.following? = some byte) :
    cursor.advance.value.current? = some byte := by
  obtain ⟨current, peeked, failure, reader⟩ := cursor
  obtain rfl : peeked = some (some byte) := Option.join_eq_some_iff.1 h
  rfl

end Cursor

end CcxLexis
