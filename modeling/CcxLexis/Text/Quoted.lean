import CcxLexis.Text.Hidden

/-!
# Quoted text

The one-line form in which a lexeme, a path or a partial literal is shown to a reader: between
quotation marks, with every character that would end the line, end the quotation or stay
hidden written as an escape.  An apostrophe is shown as it is.
-/

namespace CcxLexis.Text

/-- The letter of the two-character escape of a character, where it has one. -/
def escapeLetter? (c : Char) : Option Char :=
  if c == '"' then some '"'
  else if c == '\\' then some '\\'
  else if c == '\n' then some 'n'
  else if c == '\r' then some 'r'
  else if c == '\t' then some 't'
  else if c == '\x00' then some '0'
  else none

/-- Whether a character stands for itself inside a quotation. -/
def isVerbatim (c : Char) : Bool :=
  (escapeLetter? c).isNone && !isHidden c

/-- How one character is written inside a quotation: by its letter, by its number in
hexadecimal, or as it is. -/
def encodeChar (c : Char) : List Char :=
  match escapeLetter? c with
  | some letter => ['\\', letter]
  | none =>
    if isHidden c then ['\\', 'u', '\x7b'] ++ Nat.toDigits 16 c.toNat ++ ['\x7d'] else [c]

/-- The inside of a quotation. -/
def encode (cs : List Char) : List Char :=
  cs.flatMap encodeChar

/-- The quoted form of a text. -/
def quoted (s : String) : String :=
  String.ofList ('"' :: encode s.toList ++ ['"'])

/-- The quoted form in the portions in which it is written out: each longest stretch of
characters that stand for themselves is one portion, and so is each escape. -/
def quotedPortions (s : String) : List String :=
  let stretches := s.toList.splitBy fun a b => isVerbatim a && isVerbatim b
  "\"" :: stretches.map (fun stretch => String.ofList (encode stretch)) ++ ["\""]

end CcxLexis.Text
