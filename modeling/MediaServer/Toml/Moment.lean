import MediaServer.Toml.Basic
import MediaServer.Text.Digits

namespace MediaServer

/-- Reads a number of as many digits as are asked for that lies between two bounds. -/
def Toml.readField (count low high : Nat) (chars : List Char) : Option (Nat × List Char) :=
  let digits := chars.take count
  if digits.length < count || !digits.all isDigit then none
  else
    let value := ofDigits digits
    if low ≤ value && value ≤ high then some (value, chars.drop count) else none

def Toml.readChar (isOne : Char → Bool) : List Char → Option (List Char)
  | c :: rest => if isOne c then some rest else none
  | [] => none

def isLeapYear (year : Nat) : Bool :=
  year % 4 = 0 && (year % 100 ≠ 0 || year % 400 = 0)

def daysInMonth (year month : Nat) : Nat :=
  if month = 2 then if isLeapYear year then 29 else 28
  else if month = 4 || month = 6 || month = 9 || month = 11 then 30
  else 31

def Toml.readDate (chars : List Char) : Option (List Char) := do
  let (year, rest) ← Toml.readField 4 0 9999 chars
  let rest ← Toml.readChar (· == '-') rest
  let (month, rest) ← Toml.readField 2 1 12 rest
  let rest ← Toml.readChar (· == '-') rest
  let (_, rest) ← Toml.readField 2 1 (daysInMonth year month) rest
  some rest

def Toml.readClock (chars : List Char) : Option (List Char) := do
  let (_, rest) ← Toml.readField 2 0 23 chars
  let rest ← Toml.readChar (· == ':') rest
  let (_, rest) ← Toml.readField 2 0 59 rest
  some rest

/-- Reads a time of day: the seconds may be 60 and may have a fraction. -/
def Toml.readTime (chars : List Char) : Option (List Char) := do
  let rest ← Toml.readClock chars
  let rest ← Toml.readChar (· == ':') rest
  let (_, rest) ← Toml.readField 2 0 60 rest
  match rest with
  | '.' :: digits => if (digits.takeWhile isDigit).isEmpty then none else some (digits.dropWhile isDigit)
  | rest => some rest

def Toml.readOffset (chars : List Char) : Option (List Char) :=
  match chars with
  | [] => some []
  | c :: rest =>
    if c == 'Z' || c == 'z' then some rest
    else if c == '+' || c == '-' then Toml.readClock rest
    else some (c :: rest)

/-- Reads a date, a date with a time, or a time. -/
def Toml.readMoment (chars : List Char) : Option (Toml × List Char) :=
  match Toml.readDate chars with
  | none => (Toml.readTime chars).map fun rest => (.moment, rest)
  | some day =>
    let time := do
      let rest ← Toml.readChar (fun c => c == 'T' || c == 't' || c == ' ') day
      let rest ← Toml.readTime rest
      Toml.readOffset rest
    some (.moment, time.getD day)

end MediaServer
