import MediaServer.Text.Digits
import MediaServer.Text.Split

namespace MediaServer

/-- The address of a machine: four bytes or eight groups of 16 bits. -/
inductive Address
  | four (a b c d : Nat)
  | six (groups : List Nat)
  deriving DecidableEq, Repr

/-- A number of at most three digits and at most 255, without leading zeros. -/
def Address.octet? (digits : List Char) : Option Nat :=
  if digits.isEmpty || 3 < digits.length || !digits.all isDigit then none
  else if digits.head? = some '0' && digits.length ≠ 1 then none
  else ofDigitsUpTo? max8 digits

def Address.octets? (text : List Char) : Option (Nat × Nat × Nat × Nat) :=
  match (pieces '.' text).mapM Address.octet? with
  | some [a, b, c, d] => some (a, b, c, d)
  | _ => none

/-- Reads a number of at most 32 bits, in base 16 after `0x`, in base 8 after a zero, and else in base 10. -/
def Address.number? (digits : List Char) : Option Nat :=
  let (base, digits) : Nat × List Char := match digits with
    | '0' :: 'x' :: rest => (16, rest)
    | '0' :: 'X' :: rest => (16, rest)
    | '0' :: rest => (8, '0' :: rest)
    | digits => (10, digits)
  if digits.isEmpty then none
  else
    (digits.mapM hexValue?).bind fun values =>
      if values.all (· < base) then numberUpTo? base max32 values else none

/-- Joins numbers to one of `bytes` bytes: each is a byte of its own, and the last fills
all that is left. -/
def Address.join? : (bytes : Nat) → List Nat → Option Nat
  | bytes + 1, [last] => if last < Nat.pow 256 (bytes + 1) then some last else none
  | bytes + 1, first :: others =>
    if first ≤ max8 then (join? bytes others).map fun rest => first * Nat.pow 256 bytes + rest
    else none
  | _, _ => none

/-- An address of four bytes, written as one to four numbers. -/
def Address.four? (host : List Char) : Option Address :=
  ((pieces '.' host).mapM Address.number?).bind fun numbers =>
    (Address.join? 4 numbers).map fun value =>
      .four (value / 16777216) (value / 65536 % 256) (value / 256 % 256) (value % 256)

/-- One to four hexadecimal digits. -/
def Address.group? (digits : List Char) : Option Nat :=
  if digits.isEmpty || 4 < digits.length then none
  else (digits.mapM hexValue?).map fun values => values.foldl (fun value digit => value * 16 + digit) 0

/-- Groups between colons. The last piece may be an address of four bytes, which makes two groups. -/
def Address.groups? : List (List Char) → Option (List Nat)
  | [] => some []
  | [last] =>
    match Address.octets? last with
    | some (a, b, c, d) => some [a * 256 + b, c * 256 + d]
    | none => (Address.group? last).map ([·])
  | piece :: others => do
    let group ← Address.group? piece
    let groups ← groups? others
    some (group :: groups)

/-- What stands before and after the first double colon. -/
def Address.cutAtGap : List Char → List Char × Option (List Char)
  | ':' :: ':' :: rest => ([], some rest)
  | c :: rest =>
    let (before, after) := cutAtGap rest
    (c :: before, after)
  | [] => ([], none)

def Address.side? (text : List Char) : Option (List Nat) :=
  if text.isEmpty then some [] else Address.groups? (pieces ':' text)

/-- A double colon stands for one group of zeros or more. -/
def Address.six? (text : List Char) : Option Address :=
  match Address.cutAtGap text with
  | (all, none) => do
    let groups ← Address.side? all
    if groups.length = 8 then some (.six groups) else none
  | (before, some after) => do
    if before.contains '.' then none
    else
      let front ← Address.side? before
      let back ← Address.side? after
      if 7 < front.length + back.length then none
      else some (.six (front ++ List.replicate (8 - front.length - back.length) 0 ++ back))

/-- The digits of a port, which may have leading zeros. -/
def Address.port? (digits : List Char) : Option Nat :=
  if digits.isEmpty || !digits.all isDigit then none else ofDigitsUpTo? max16 digits

/-- Reads an address and a port; eight groups stand in brackets, where a zone may follow them. -/
def Address.withPort? (text : String) : Option (Address × Nat) :=
  match text.toList with
  | '[' :: rest =>
    match cutAt ']' rest with
    | (inside, some (':' :: digits)) => do
      let (groups, zone) := cutAt '%' inside
      let address ← Address.six? groups
      let port ← Address.port? digits
      match zone with
      | some zone =>
        if zone.isEmpty || !zone.all isDigit then none
        else (ofDigitsUpTo? max32 zone).map fun _ => (address, port)
      | none => some (address, port)
    | _ => none
  | chars =>
    match cutAt ':' chars with
    | (host, some digits) => do
      let (a, b, c, d) ← Address.octets? host
      let port ← Address.port? digits
      some (.four a b c d, port)
    | _ => none

/-- The zeros at the front of a list of groups. -/
def Address.zeroRun : List Nat → Nat
  | 0 :: rest => zeroRun rest + 1
  | _ => 0

/-- Start and length of the longest run of zeros; of equally long ones the first. -/
def Address.longestGap : List Nat → Nat × Nat
  | [] => (0, 0)
  | group :: rest =>
    let (start, length) := longestGap rest
    let here := Address.zeroRun (group :: rest)
    if length ≤ here then (0, here) else (start + 1, length)

def Address.showOctets (a b c d : Nat) : List Char :=
  ['.'].intercalate ([a, b, c, d].map fun octet => (toString octet).toList)

def Address.showGroups (groups : List Nat) : List Char :=
  [':'].intercalate (groups.map (Nat.toDigits 16))

/-- The canonical text of an address: groups in lower case without leading zeros, and the
longest run of two or more zero groups shown as a double colon. -/
def Address.show : Address → String
  | .four a b c d => String.ofList (Address.showOctets a b c d)
  | .six [0, 0, 0, 0, 0, 0xFFFF, high, low] =>
    "::ffff:" ++
      String.ofList (Address.showOctets (high / 256) (high % 256) (low / 256) (low % 256))
  | .six groups =>
    let (start, length) := Address.longestGap groups
    if length < 2 then String.ofList (Address.showGroups groups)
    else
      String.ofList (Address.showGroups (groups.take start) ++ [':', ':'] ++
        Address.showGroups (groups.drop (start + length)))

end MediaServer
