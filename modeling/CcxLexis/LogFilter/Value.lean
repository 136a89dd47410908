import CcxLexis.Pattern.Expression

/-!
# Values of fields

A log filter may compare a field with a value: with a number, or with a pattern that the field has
to match.  Such a comparison is only ever made for spans, so all that matters here is whether the
value can be read as one of the two.
-/

namespace CcxLexis.LogFilter

/-- A text without the plus or minus sign in front of it. -/
def unsigned : List Char → List Char
  | '+' :: cs | '-' :: cs => cs
  | cs => cs

/-- Whether a text is nothing, or a power of ten to multiply with. -/
def isExponent : List Char → Bool
  | [] => true
  | e :: power =>
    (e == 'e' || e == 'E') && !(unsigned power).isEmpty && (unsigned power).all Char.isDigit

/-- Whether a text without a sign is a number in decimal digits, which may have a point among them
and an exponent behind them. -/
def isDecimal (text : List Char) : Bool :=
  let behindWhole := text.dropWhile Char.isDigit
  let places :=
    match behindWhole with
    | '.' :: places => places
    | places => places
  (text.head?.any Char.isDigit || places.head?.any Char.isDigit) &&
    isExponent (places.dropWhile Char.isDigit)

/-- Whether a text is a number.  Besides the decimal numbers there are an infinite one and one for
results that are none. -/
def isNumber (text : List Char) : Bool :=
  let magnitude := unsigned text
  isDecimal magnitude ||
    ["inf", "infinity", "nan"].contains (String.ofList (magnitude.map Char.toLower))

/-- Whether a field can be compared with a text. -/
def isComparable (text : String) : Bool :=
  isNumber text.toList || Pattern.isReadable text

end CcxLexis.LogFilter
