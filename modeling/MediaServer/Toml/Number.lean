import MediaServer.Toml.Basic
import MediaServer.Text.Digits
import MediaServer.Decimal.Reading

namespace MediaServer

/-- Digits and single underscores that stand between two digits. -/
def Toml.moreDigits (isOne : Char → Bool) : List Char → Option (List Char × List Char)
  | [] => some ([], [])
  | '_' :: rest =>
    match rest with
    | c :: others =>
      if isOne c then (moreDigits isOne others).map fun (digits, after) => (c :: digits, after)
      else none
    | [] => none
  | c :: rest =>
    if isOne c then (moreDigits isOne rest).map fun (digits, after) => (c :: digits, after)
    else some ([], c :: rest)

def Toml.readDigits (isOne : Char → Bool) : List Char → Option (List Char × List Char)
  | c :: rest =>
    if isOne c then (Toml.moreDigits isOne rest).map fun (digits, after) => (c :: digits, after)
    else none
  | [] => none

def Toml.isHexDigit (c : Char) : Bool :=
  (hexValue? c).isSome

/-- The largest whole number: there are 64 bits, one of them for the sign. -/
def Toml.maxInteger : Nat := 9223372036854775807

def Toml.readBased (base : Nat) (isOne : Char → Bool) (chars : List Char) :
    Option (Toml × List Char) := do
  let (digits, rest) ← Toml.readDigits isOne chars
  let values ← digits.mapM hexValue?
  let value ← numberUpTo? base Toml.maxInteger values
  some (.integer value, rest)

/-- The digits before the point: a zero stands alone. -/
def Toml.readWhole : List Char → Option (List Char × List Char)
  | '0' :: rest => some (['0'], rest)
  | chars => Toml.readDigits isDigit chars

def Toml.readFraction : List Char → Option (Option (List Char) × List Char)
  | '.' :: rest => (Toml.readDigits isDigit rest).map fun (digits, after) => (some digits, after)
  | chars => some (none, chars)

def Toml.readSign : List Char → Bool × List Char
  | '-' :: rest => (true, rest)
  | '+' :: rest => (false, rest)
  | chars => (false, chars)

def Toml.readExponent : List Char → Option (Option Int × List Char)
  | [] => some (none, [])
  | c :: rest =>
    if c == 'e' || c == 'E' then
      let (negative, rest) := Toml.readSign rest
      (Toml.readDigits isDigit rest).map fun (digits, after) =>
        let size : Int := exponentSize digits
        (some (if negative then -size else size), after)
    else some (none, c :: rest)

/-- Infinity has a spelling of its own, so a number that is too large is refused. -/
def Toml.float? (value : Float) : Option Toml :=
  if value.isInf && 0 < value then none else some (.float value)

def Toml.readDecimal (negative : Bool) (chars : List Char) : Option (Toml × List Char) := do
  let (whole, rest) ← Toml.readWhole chars
  let (fraction, rest) ← Toml.readFraction rest
  let (exponent, rest) ← Toml.readExponent rest
  if fraction.isSome || exponent.isSome then
    let value ← Toml.float? (readFloat negative whole (fraction.getD []) (exponent.getD 0))
    some (value, rest)
  else if negative then
    let size ← ofDigitsUpTo? (Toml.maxInteger + 1) whole
    some (.integer (-(size : Int)), rest)
  else
    let size ← ofDigitsUpTo? Toml.maxInteger whole
    some (.integer size, rest)

/-- Reads a whole number, in base ten or without a sign in base 16, 8 or 2, or a floating-point one. -/
def Toml.readNumber (chars : List Char) : Option (Toml × List Char) :=
  match chars with
  | '0' :: 'x' :: rest => Toml.readBased 16 Toml.isHexDigit rest
  | '0' :: 'o' :: rest => Toml.readBased 8 (fun c => '0' ≤ c && c ≤ '7') rest
  | '0' :: 'b' :: rest => Toml.readBased 2 (fun c => c == '0' || c == '1') rest
  | chars =>
    let (negative, rest) := Toml.readSign chars
    match rest with
    | 'i' :: 'n' :: 'f' :: rest => some (.float (if negative then -(1 / 0) else 1 / 0), rest)
    | 'n' :: 'a' :: 'n' :: rest => some (.float (if negative then -(0 / 0) else 0 / 0), rest)
    | rest => Toml.readDecimal negative rest

end MediaServer
