import CcxLexis.Cursor
import CcxLexis.Lexeme
import CcxLexis.Scanner.Mode

/-!
# Scanners

A scanner cuts a source into tokens.  It is a position in a source together with the lexeme
being read.  This file has the moves that a scanner is made of: keeping a byte, consuming the
byte at the cursor, and looking at the byte behind it.  Keeping and consuming are moves of their
own because the order in which bytes are kept and demanded decides the order of the reported
events.

Keeping a byte and looking further leave the bytes that remain as they are, and consuming drops
the first of them.
-/

namespace CcxLexis

/-- A scanner: its settings, its position in the source, and the lexeme being read, which is
empty between tokens. -/
structure Scanner where
  settings : Settings
  cursor : Cursor
  lexeme : Lexeme := Lexeme.empty
deriving DecidableEq, Repr

/-- How a step leaves a scanner: inside a token, or with a token finished. -/
inductive Progress where
  | reading (mode : Mode) (scanner : Scanner)
  | finished (token : Token) (scanner : Scanner)

namespace Progress

def scanner : Progress → Scanner
  | reading _ scanner => scanner
  | finished _ scanner => scanner

@[simp]
theorem scanner_reading (mode : Mode) (s : Scanner) : (reading mode s).scanner = s := rfl

@[simp]
theorem scanner_finished (token : Token) (s : Scanner) : (finished token s).scanner = s := rfl

end Progress

namespace Scanner

/-- A scanner at the start of a source. -/
def start (settings : Settings) (reader : Reader) : Logged Scanner := do
  let cursor ← Cursor.start reader
  return { settings, cursor }

/-- The failure that ended the source early, if it has shown. -/
def failure? (scanner : Scanner) : Option Fault :=
  scanner.cursor.failure?

/-- The bytes that no token has consumed yet. -/
def remaining (scanner : Scanner) : List Byte :=
  scanner.cursor.remaining

/-! ## Moves -/

/-- Adds a byte to the lexeme. -/
def keep (scanner : Scanner) (byte : Byte) : Logged Scanner := do
  let lexeme ← scanner.lexeme.push scanner.settings byte
  return { scanner with lexeme }

/-- Consumes the byte at the cursor. -/
def advance (scanner : Scanner) : Logged Scanner := do
  let cursor ← scanner.cursor.advance
  return { scanner with cursor }

/-- Demands the byte after the one at the cursor. -/
def lookFurther (scanner : Scanner) : Logged Scanner := do
  let cursor ← scanner.cursor.lookFurther
  return { scanner with cursor }

/-- Adds the byte at the cursor to the lexeme and consumes it. -/
def take (scanner : Scanner) (byte : Byte) : Logged Scanner := do
  let scanner ← scanner.keep byte
  scanner.advance

/-- Finishes a token of the given kind and starts over with an empty lexeme. -/
def finish (scanner : Scanner) (kind : Kind) : Progress :=
  .finished (Token.ofLexeme kind scanner.lexeme.text) { scanner with lexeme := Lexeme.empty }

/-! ## Moves and the bytes that remain -/

theorem remaining_of_current? {scanner : Scanner} {byte : Byte}
    (h : scanner.cursor.current? = some byte) :
    scanner.remaining = byte :: scanner.remaining.tail := by
  rw [remaining, Cursor.remaining_of_current? h, List.tail_cons]

@[simp]
theorem remaining_keep (scanner : Scanner) (byte : Byte) :
    (scanner.keep byte).value.remaining = scanner.remaining := rfl

theorem remaining_advance {scanner : Scanner} {byte : Byte}
    (h : scanner.cursor.current? = some byte) :
    scanner.advance.value.remaining = scanner.remaining.tail := by
  rw [remaining, remaining, Cursor.remaining_of_current? h]
  exact Cursor.remaining_advance scanner.cursor

@[simp]
theorem remaining_lookFurther (scanner : Scanner) :
    scanner.lookFurther.value.remaining = scanner.remaining :=
  Cursor.remaining_lookFurther scanner.cursor

theorem remaining_take {scanner : Scanner} {byte : Byte}
    (h : scanner.cursor.current? = some byte) (kept : Byte) :
    (scanner.take kept).value.remaining = scanner.remaining.tail := by
  have hkept : (scanner.keep kept).value.cursor.current? = some byte := h
  exact remaining_advance hkept

@[simp]
theorem remaining_finish (scanner : Scanner) (kind : Kind) :
    (scanner.finish kind).scanner.remaining = scanner.remaining := rfl

theorem remaining_advance_advance {scanner : Scanner} {first second : Byte}
    (h₁ : scanner.cursor.current? = some first) (h₂ : scanner.cursor.following? = some second) :
    scanner.advance.value.advance.value.remaining = scanner.remaining.tail.tail := by
  rw [remaining_advance (Cursor.current?_advance h₂), remaining_advance h₁]

theorem length_tail_remaining_lt {scanner : Scanner} {byte : Byte}
    (h : scanner.cursor.current? = some byte) :
    scanner.remaining.tail.length < scanner.remaining.length := by
  rw [remaining_of_current? h]
  exact Nat.lt_succ_self _

end Scanner

end CcxLexis
