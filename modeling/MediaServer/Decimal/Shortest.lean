namespace MediaServer

/-- A finite binary number other than zero: `mantissa * 2 ^ exponent`. Where the gap
to the next smaller number is half of the gap to the next larger one, `atEdge` holds. -/
structure Binary where
  mantissa : Nat
  exponent : Int
  atEdge : Bool

/-- A decimal number: `digits * 10 ^ exponent`. -/
structure Decimal where
  digits : Nat
  exponent : Int

/-- 52 bits of a 64-bit number hold the fraction. -/
def fractionSize : Nat := 4503599627370496

/-- The magnitude that the bits of a finite 64-bit number hold. -/
def Binary.ofBits (bits : UInt64) : Binary :=
  let field : Nat := bits.toNat / fractionSize % 2048
  let fraction : Nat := bits.toNat % fractionSize
  if field = 0 then ⟨fraction, -1074, false⟩
  else ⟨fractionSize + fraction, (field : Int) - 1075, fraction = 0 && 1 < field⟩

/-- Numerator and denominator of `n * 2 ^ exponent / 10 ^ power`. -/
def scaled (n : Nat) (exponent power : Int) : Nat × Nat :=
  (n * Nat.pow 2 exponent.toNat * Nat.pow 10 (-power).toNat,
    Nat.pow 2 (-exponent).toNat * Nat.pow 10 power.toNat)

/-- How many digits stand before the decimal point; not positive if zeros follow the point. -/
def Binary.integerDigits (x : Binary) : Int :=
  let guess := Int.fdiv ((x.mantissa.log2 + x.exponent) * 30103) 100000
  let reaches (power : Int) : Bool :=
    let (top, bottom) := scaled x.mantissa x.exponent power
    bottom ≤ top
  if reaches (guess + 1) then guess + 2 else if reaches guess then guess + 1 else guess

/-- Whether the grid point `candidate * 10 ^ power` is read back as `x`: it lies no further
than half a gap away, where a half counts if the mantissa is even. -/
def Binary.reads (x : Binary) (power : Int) (candidate : Nat) : Bool :=
  let (below, bottom) := scaled (4 * x.mantissa - if x.atEdge then 1 else 2) x.exponent power
  let (above, _) := scaled (4 * x.mantissa + 2) x.exponent power
  let point := 4 * candidate * bottom
  if x.mantissa % 2 = 0 then below ≤ point && point ≤ above
  else below < point && point < above

/-- Which of two equally near points is taken: the one with an even last digit, or the upper one. -/
inductive HalfRule
  | toEven
  | up
  deriving DecidableEq, Repr

def HalfRule.roundsUp (rule : HalfRule) (floor : Nat) : Bool :=
  rule = .up || floor % 2 = 1

/-- The nearest point of the grid `10 ^ power` that is read back as `x`, if one is. -/
def Binary.onGrid? (x : Binary) (half : HalfRule) (power : Int) : Option Nat :=
  let (top, bottom) := scaled x.mantissa x.exponent power
  let floor := top / bottom
  let rest := 2 * (top % bottom)
  let roundsUp := bottom < rest || (rest = bottom && half.roundsUp floor)
  let nearest := if roundsUp then floor + 1 else floor
  let other := if roundsUp then floor else floor + 1
  if x.reads power nearest then some nearest
  else if x.reads power other then some other
  else none

/-- Takes zeros off the end of the digits; `fuel` bounds how many. -/
def Decimal.trim : Nat → Decimal → Decimal
  | 0, d => d
  | fuel + 1, d =>
    if d.digits ≠ 0 ∧ d.digits % 10 = 0 then Decimal.trim fuel ⟨d.digits / 10, d.exponent + 1⟩ else d

/-- The decimal with the fewest digits that is read back as `x`; 17 digits always are. -/
def Binary.shortest (x : Binary) (half : HalfRule) : Decimal :=
  let whole := x.integerDigits
  let found := (List.range 17).findSome? fun count =>
    let power := whole - (count + 1 : Nat)
    (x.onGrid? half power).map fun digits => Decimal.trim 17 ⟨digits, power⟩
  found.getD ⟨0, 0⟩

end MediaServer
