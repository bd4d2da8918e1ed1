namespace MediaServer

def isDigit (c : Char) : Bool :=
  '0' ≤ c && c ≤ '9'

def digitValue (c : Char) : Nat :=
  c.toNat - '0'.toNat

def hexValue? (c : Char) : Option Nat :=
  if isDigit c then some (digitValue c)
  else if 'a' ≤ c && c ≤ 'f' then some (c.toNat - 'a'.toNat + 10)
  else if 'A' ≤ c && c ≤ 'F' then some (c.toNat - 'A'.toNat + 10)
  else none

/-- The number that decimal digits write. -/
def ofDigits (digits : List Char) : Nat :=
  digits.foldl (fun value c => value * 10 + digitValue c) 0

/-- The number that digits write in a base, if it is at most a limit. With every digit the number
only grows, so reading ends where it is too large. -/
def numberUpTo? (base limit : Nat) (digits : List Nat) : Option Nat :=
  digits.foldlM (fun value digit =>
    if value * base + digit ≤ limit then some (value * base + digit) else none) 0

/-- The number that decimal digits write, if it is at most a limit. -/
def ofDigitsUpTo? (limit : Nat) (digits : List Char) : Option Nat :=
  numberUpTo? 10 limit (digits.map digitValue)

theorem le_foldl_number {base : Nat} (positive : 0 < base) (digits : List Nat) (start : Nat) :
    start ≤ digits.foldl (fun value digit => value * base + digit) start := by
  induction digits generalizing start with
  | nil => exact Nat.le_refl start
  | cons digit digits ih =>
    have grown : start ≤ start * base + digit :=
      Nat.le_trans (Nat.le_mul_of_pos_right start positive) (Nat.le_add_right _ digit)
    exact Nat.le_trans grown (ih _)

/-- A limit only decides whether there is a number, not which. -/
theorem numberUpTo?_eq {base : Nat} (positive : 0 < base) (limit : Nat) (digits : List Nat) :
    numberUpTo? base limit digits =
      if digits.foldl (fun value digit => value * base + digit) 0 ≤ limit then
        some (digits.foldl (fun value digit => value * base + digit) 0)
      else none := by
  have general : ∀ start ≤ limit,
      digits.foldlM (fun value digit =>
          if value * base + digit ≤ limit then some (value * base + digit) else none) start =
        if digits.foldl (fun value digit => value * base + digit) start ≤ limit then
          some (digits.foldl (fun value digit => value * base + digit) start)
        else none := by
    induction digits with
    | nil => intro start bound; simp [bound]
    | cons digit digits ih =>
      intro start _
      rw [List.foldlM_cons]
      change _ = if digits.foldl (fun value digit => value * base + digit)
          (start * base + digit) ≤ limit then
        some (digits.foldl (fun value digit => value * base + digit) (start * base + digit)) else none
      by_cases next : start * base + digit ≤ limit
      · rw [if_pos next]
        exact ih _ next
      · have above := le_foldl_number positive digits (start * base + digit)
        have tooLarge : ¬ digits.foldl (fun value digit => value * base + digit)
            (start * base + digit) ≤ limit := by omega
        rw [if_neg next, if_neg tooLarge]
        rfl
  exact general 0 (Nat.zero_le limit)

theorem ofDigitsUpTo?_eq (limit : Nat) (digits : List Char) :
    ofDigitsUpTo? limit digits = if ofDigits digits ≤ limit then some (ofDigits digits) else none := by
  rw [ofDigitsUpTo?, numberUpTo?_eq (by decide), List.foldl_map]
  rfl

/-- Reads an unsigned number of any length: one optional plus sign and then
digits alone. A number above the limit is none. -/
def readUnsigned? (limit : Nat) (text : String) : Option Nat :=
  let digits := match text.toList with
    | '+' :: rest => rest
    | digits => digits
  if digits.isEmpty || !digits.all isDigit then none else ofDigitsUpTo? limit digits

/-- The largest number of 8 bits, and below it those of 16, 32 and 64. -/
def max8 : Nat := 255
def max16 : Nat := 65535
def max32 : Nat := 4294967295
def max64 : Nat := 18446744073709551615

end MediaServer
