namespace MediaServer

/-- The arithmetic of tokens. `least` answers the smaller of two amounts. -/
class Tokens (K : Type) where
  ofNat : Nat → K
  ofNanoseconds : Nat → K
  add : K → K → K
  sub : K → K → K
  mul : K → K → K
  least : K → K → K
  reaches : K → K → Bool

def nanosecondsPerSecond : Nat := 1000000000

/-- Of two numbers of which one is undefined, the other is the smaller. -/
def leastFloat (a b : Float) : Float :=
  if a.isNaN then b
  else if b.isNaN then a
  else if a ≤ b then a
  else b

/-- Whole seconds and their fraction are converted one by one. -/
def secondsOfNanoseconds (n : Nat) : Float :=
  Float.ofNat (n / nanosecondsPerSecond) + Float.ofNat (n % nanosecondsPerSecond) / 1000000000

/-- Tokens as 64-bit numbers, the ones a server counts with. -/
instance : Tokens Float where
  ofNat := Float.ofNat
  ofNanoseconds := secondsOfNanoseconds
  add := (· + ·)
  sub := (· - ·)
  mul := (· * ·)
  least := leastFloat
  reaches a b := b ≤ a

/-- Tokens without rounding. -/
instance : Tokens Rat where
  ofNat n := n
  ofNanoseconds n := (n : Rat) / 1000000000
  add := (· + ·)
  sub := (· - ·)
  mul := (· * ·)
  least a b := if a ≤ b then a else b
  reaches a b := decide (b ≤ a)

end MediaServer
