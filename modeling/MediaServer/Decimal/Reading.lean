import MediaServer.Text.Digits

namespace MediaServer

/-- The number nearest to `digits * 10 ^ exponent`. Exponents far outside the range of
64-bit numbers are answered at once: every such number is infinite or zero. -/
def floatOfDecimal (digits : Nat) (exponent : Int) : Float :=
  let whole := (toString digits).length + exponent
  if digits = 0 then 0
  else if 400 < whole then 1 / 0
  else if whole < -400 then 0
  else if exponent < 0 then Float.ofScientific digits true exponent.natAbs
  else Float.ofScientific digits false exponent.toNat

/-- The number behind the sign of an exponent. One that 64 bits do not hold is as good as the
largest that they do: no text has digits enough to outweigh it. -/
def exponentSize (digits : List Char) : Nat :=
  (ofDigitsUpTo? max64 digits).getD max64

/-- How many digits are read one by one. The number half way between two neighbours of 64 bits
never has that many. -/
def weighedDigits : Nat := 800

/-- Digits as a number and a power of ten. Those that are not read one by one can only make the
number a little larger, so they count as a single one unless all of them are zeros. -/
def shortenDigits (digits : List Char) (exponent : Int) : Nat × Int :=
  let digits := digits.dropWhile (· == '0')
  let others := digits.drop weighedDigits
  let number := ofDigits (digits.take weighedDigits)
  if others.all (· == '0') then (number, exponent + others.length)
  else (number * 10 + 1, exponent + others.length - 1)

/-- Reads digits with an optional fraction and an optional exponent, all of them plain digits. -/
def readFloat (negative : Bool) (whole fraction : List Char) (exponent : Int) : Float :=
  let (number, power) := shortenDigits (whole ++ fraction) (exponent - fraction.length)
  let magnitude := floatOfDecimal number power
  if negative then -magnitude else magnitude

end MediaServer
