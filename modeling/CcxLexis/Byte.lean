/-!
# Byte classes

A CCX source is a sequence of bytes.  This file names the bytes that decide where a lexeme
starts and ends, and gives each byte its character: byte `n` stands for the character with
number `n`, so a lexeme never holds a character above `U+00FF` and bytes outside ASCII need no
decoding.

Every class here is an ASCII class.  A byte above `0x7f` belongs to none of them.
-/

namespace CcxLexis

/-- One byte of a source. -/
abbrev Byte := UInt8

namespace Byte

/-! ## Single bytes with a role of their own -/

def lineFeed : Byte := 0x0a

def quotationMark : Byte := 0x22

def hash : Byte := 0x23

def apostrophe : Byte := 0x27

def star : Byte := 0x2a

def dot : Byte := 0x2e

def slash : Byte := 0x2f

def underscore : Byte := 0x5f

/-! ## Classes -/

/-- Space, tab, line feed and carriage return separate lexemes and belong to none. -/
def isBlank (b : Byte) : Bool :=
  b == 0x20 || b == 0x09 || b == 0x0a || b == 0x0d

def isLetter (b : Byte) : Bool :=
  (0x41 ≤ b && b ≤ 0x5a) || (0x61 ≤ b && b ≤ 0x7a)

def isDigit (b : Byte) : Bool :=
  0x30 ≤ b && b ≤ 0x39

/-- A word starts with a letter or an underscore. -/
def isWordStart (b : Byte) : Bool :=
  b.isLetter || b == underscore

/-- A word goes on with letters, digits and underscores. -/
def isWordPart (b : Byte) : Bool :=
  b.isLetter || b.isDigit || b == underscore

/-- The bytes of operators and punctuation, in the order in which they are listed to users. -/
def operators : List Byte :=
  ['.', '(', ')', '<', '>', '=', '+', '-', '*', '/', '|', '&', ';', ',', ':', '[', ']'].map
    Char.toUInt8

def isOperator (b : Byte) : Bool :=
  operators.contains b

/-! ## Bytes as text -/

/-- The character with the number of the byte. -/
def toChar (b : Byte) : Char :=
  Char.ofUInt8 b

/-- The text that a sequence of bytes stands for, one character per byte. -/
def text (bytes : List Byte) : String :=
  String.ofList (bytes.map toChar)

end Byte

end CcxLexis
