/-!
# Guarded text

Text that is shown in a log must not steer the terminal that shows the log.  Guarded text writes
the characters that could do so by their number: the bell, the backspace, the form feed, the escape
and the delete character in two hexadecimal digits, and the controls from `U+0080` to `U+009F` in
braces.  Every other character stands for itself.
-/

namespace CcxLexis.Text

def guardedChar (c : Char) : List Char :=
  if c == '\x07' then ['\\', 'x', '0', '7']
  else if c == '\x08' then ['\\', 'x', '0', '8']
  else if c == '\x0c' then ['\\', 'x', '0', 'c']
  else if c == '\x1b' then ['\\', 'x', '1', 'b']
  else if c == '\x7f' then ['\\', 'x', '7', 'f']
  else if 0x80 ≤ c.toNat && c.toNat ≤ 0x9f then
    ['\\', 'u', '\x7b'] ++ Nat.toDigits 16 c.toNat ++ ['\x7d']
  else [c]

def guarded (text : String) : String :=
  String.ofList (text.toList.flatMap guardedChar)

end CcxLexis.Text
