/-!
# Elapsed time

The text of a span of time: the largest unit that leaves a whole part, with as many decimal
places as the span has and none that only repeat zero.
-/

namespace CcxLexis.CommandLine

/-- The power of ten with the given count of zeros. -/
def powerOfTen (zeros : Nat) : Nat :=
  Nat.pow 10 zeros

/-- A number of the given count of digits as decimal places, without the zeros at the end. -/
def decimalPlaces (digits n : Nat) : String :=
  let text := (toString (powerOfTen digits + n)).toList.drop 1
  let places := (text.reverse.dropWhile (· == '0')).reverse
  if places.isEmpty then "" else "." ++ String.ofList places

/-- The text of a span of time given in nanoseconds. -/
def elapsedText (nanoseconds : Nat) : String :=
  let inUnit (digits : Nat) (unit : String) : String :=
    toString (nanoseconds / powerOfTen digits) ++
      decimalPlaces digits (nanoseconds % powerOfTen digits) ++ unit
  if powerOfTen 9 ≤ nanoseconds then inUnit 9 "s"
  else if powerOfTen 6 ≤ nanoseconds then inUnit 6 "ms"
  else if powerOfTen 3 ≤ nanoseconds then inUnit 3 "µs"
  else inUnit 0 "ns"

end CcxLexis.CommandLine
