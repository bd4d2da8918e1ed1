import MediaServer.Decimal.Shortest

namespace MediaServer

/-- How a number is spelled: where a half goes, whether a whole number keeps `.0`, and for
which counts of digits before the point it is written without an exponent. -/
structure NumberStyle where
  half : HalfRule
  keepsPoint : Bool
  positional : Int → Bool

/-- No exponent and no point that is not needed. -/
def NumberStyle.plain : NumberStyle := ⟨.up, false, fun _ => true⟩

/-- No exponent, and a point in every number. -/
def NumberStyle.pointed : NumberStyle := ⟨.up, true, fun _ => true⟩

/-- A point in every number from 0.00001 up to, but not including, 10 to the 16th. -/
def NumberStyle.compact : NumberStyle := ⟨.toEven, true, fun whole => -5 < whole && whole ≤ 16⟩

def zeros (count : Int) : List Char :=
  List.replicate count.toNat '0'

/-- The digits with a point after the first `whole` of them. -/
def Decimal.positional (keepsPoint : Bool) (digits : List Char) (whole : Int) : List Char :=
  if whole ≤ 0 then ['0', '.'] ++ zeros (-whole) ++ digits
  else if whole < digits.length then digits.take whole.toNat ++ '.' :: digits.drop whole.toNat
  else digits ++ zeros (whole - digits.length) ++ if keepsPoint then ['.', '0'] else []

/-- A number with its sign, a plus sign too. -/
def writeSigned (n : Int) : List Char :=
  (if n < 0 then '-' else '+') :: (toString n.natAbs).toList

/-- The first digit, a point before the others, and the power of ten it stands for. -/
def Decimal.withExponent (digits : List Char) (whole : Int) : List Char :=
  let fraction := match digits.drop 1 with
    | [] => []
    | others => '.' :: others
  digits.take 1 ++ fraction ++ 'e' :: writeSigned (whole - 1)

def Decimal.write (style : NumberStyle) (d : Decimal) : List Char :=
  let digits := (toString d.digits).toList
  let whole := digits.length + d.exponent
  if style.positional whole then Decimal.positional style.keepsPoint digits whole
  else Decimal.withExponent digits whole

/-- The highest of 64 bits, which tells the sign. -/
def signBit : Nat := 9223372036854775808

def isNegativeBits (bits : UInt64) : Bool :=
  signBit ≤ bits.toNat

/-- The shortest text that is read back as the number. Zero keeps its sign. -/
def writeFloat (style : NumberStyle) (x : Float) : String :=
  if x.isNaN then "NaN"
  else
    let bits := x.toBits
    let magnitude :=
      if x.isInf then ['i', 'n', 'f']
      else if bits.toNat % signBit = 0 then '0' :: if style.keepsPoint then ['.', '0'] else []
      else ((Binary.ofBits bits).shortest style.half).write style
    String.ofList (if isNegativeBits bits then '-' :: magnitude else magnitude)

end MediaServer
