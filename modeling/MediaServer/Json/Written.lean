import MediaServer.Text.Percent
import MediaServer.Text.Digits

namespace MediaServer

/-- A JSON value as it is written: numbers and texts keep their spelling,
so that reading a file does not depend on values nobody looks at. -/
inductive Written
  | null
  | bool (value : Bool)
  | number (spelling : Bytes)
  | text (body : Bytes)
  | list (items : List Written)
  | object (members : List (Bytes × Written))

/-- Space, tab, line feed and carriage return. -/
def Written.isBlank (byte : UInt8) : Bool :=
  byte == 0x20 || byte == 0x09 || byte == 0x0A || byte == 0x0D

def Written.skipBlanks (bytes : Bytes) : Bytes :=
  bytes.dropWhile Written.isBlank

/-- What may follow a backslash, apart from `u`: the quote, the backslash, the slash, and `bfnrt`. -/
def Written.isShortEscape (byte : UInt8) : Bool :=
  byte == 0x22 || byte == 0x5C || byte == 0x2F || byte == 0x62 || byte == 0x66 || byte == 0x6E ||
    byte == 0x72 || byte == 0x74

/-- Reads the body of a text and the quote that ends it. Escapes stay as they are. -/
def Written.readBody : Bytes → Option (Bytes × Bytes)
  | [] => none
  | a :: rest =>
    if a == 0x22 then some ([], rest)
    else if a == 0x5C then
      match rest with
      | [] => none
      | b :: rest₂ =>
        if b == 0x75 then
          match rest₂ with
          | h₁ :: h₂ :: h₃ :: h₄ :: rest₃ =>
            if [h₁, h₂, h₃, h₄].all (hexDigit? · |>.isSome) then
              (readBody rest₃).map fun (body, after) => ([a, b, h₁, h₂, h₃, h₄] ++ body, after)
            else none
          | _ => none
        else if Written.isShortEscape b then
          (readBody rest₂).map fun (body, after) => (a :: b :: body, after)
        else none
    else if a < 0x20 then none
    else (readBody rest).map fun (body, after) => (a :: body, after)

def isDigitByte (byte : UInt8) : Bool :=
  0x30 ≤ byte && byte ≤ 0x39

def Written.readDigits (bytes : Bytes) : Option (Bytes × Bytes) :=
  match bytes.span isDigitByte with
  | ([], _) => none
  | found => some found

/-- The fraction of a number, if a point begins one here. -/
def Written.readFraction (bytes : Bytes) : Option (Bytes × Bytes) :=
  match bytes with
  | 0x2E :: rest => (Written.readDigits rest).map fun (digits, after) => (0x2E :: digits, after)
  | _ => some ([], bytes)

/-- The exponent of a number, if the letter begins one here. -/
def Written.readExponent (bytes : Bytes) : Option (Bytes × Bytes) :=
  match bytes with
  | letter :: rest =>
    if letter == 0x65 || letter == 0x45 then
      match rest with
      | sign :: rest₂ =>
        if sign == 0x2B || sign == 0x2D then
          (Written.readDigits rest₂).map fun (digits, after) => (letter :: sign :: digits, after)
        else (Written.readDigits rest).map fun (digits, after) => (letter :: digits, after)
      | [] => none
    else some ([], bytes)
  | [] => some ([], [])

/-- The digits before the point: a zero stands alone. -/
def Written.readWhole (bytes : Bytes) : Option (Bytes × Bytes) :=
  match bytes with
  | 0x30 :: rest => some ([0x30], rest)
  | _ => Written.readDigits bytes

def Written.readNumber (bytes : Bytes) : Option (Bytes × Bytes) :=
  let (sign, unsigned) : Bytes × Bytes := match bytes with
    | 0x2D :: rest => ([0x2D], rest)
    | _ => ([], bytes)
  (Written.readWhole unsigned).bind fun (whole, rest) =>
  (Written.readFraction rest).bind fun (fraction, rest) =>
  (Written.readExponent rest).bind fun (exponent, rest) =>
  some (sign ++ whole ++ fraction ++ exponent, rest)

mutual

/-- Reads one value after any blanks; `fuel` bounds the nesting of calls. -/
def Written.readValue : Nat → Bytes → Option (Written × Bytes)
  | 0, _ => none
  | fuel + 1, bytes =>
    match Written.skipBlanks bytes with
    | 0x22 :: rest => (Written.readBody rest).map fun (body, after) => (.text body, after)
    | 0x5B :: rest =>
      match Written.skipBlanks rest with
      | 0x5D :: after => some (.list [], after)
      | rest => (Written.readItems fuel rest).map fun (items, after) => (.list items, after)
    | 0x7B :: rest =>
      match Written.skipBlanks rest with
      | 0x7D :: after => some (.object [], after)
      | rest => (Written.readMembers fuel rest).map fun (members, after) => (.object members, after)
    | 0x6E :: 0x75 :: 0x6C :: 0x6C :: rest => some (.null, rest)
    | 0x74 :: 0x72 :: 0x75 :: 0x65 :: rest => some (.bool true, rest)
    | 0x66 :: 0x61 :: 0x6C :: 0x73 :: 0x65 :: rest => some (.bool false, rest)
    | rest => (Written.readNumber rest).map fun (spelling, after) => (.number spelling, after)

/-- Reads the items of a list that has one, and the bracket that ends it. -/
def Written.readItems : Nat → Bytes → Option (List Written × Bytes)
  | 0, _ => none
  | fuel + 1, bytes =>
    (Written.readValue fuel bytes).bind fun (item, rest) =>
    match Written.skipBlanks rest with
    | 0x2C :: rest => (Written.readItems fuel rest).map fun (items, after) => (item :: items, after)
    | 0x5D :: after => some ([item], after)
    | _ => none

/-- Reads the members of an object that has one, and the brace that ends it. -/
def Written.readMembers : Nat → Bytes → Option (List (Bytes × Written) × Bytes)
  | 0, _ => none
  | fuel + 1, bytes =>
    match Written.skipBlanks bytes with
    | 0x22 :: rest =>
      (Written.readBody rest).bind fun (name, rest) =>
      match Written.skipBlanks rest with
      | 0x3A :: rest =>
        (Written.readValue fuel rest).bind fun (value, rest) =>
        match Written.skipBlanks rest with
        | 0x2C :: rest =>
          (Written.readMembers fuel rest).map fun (members, after) => ((name, value) :: members, after)
        | 0x7D :: after => some ([(name, value)], after)
        | _ => none
      | _ => none
    | _ => none

end

/-- Reads a value with nothing but blanks around it. Each byte opens at most two calls. -/
def Written.read? (bytes : Bytes) : Option Written :=
  (Written.readValue (2 * bytes.length + 2) bytes).bind fun (value, rest) =>
  if (Written.skipBlanks rest).isEmpty then some value else none

def hexNumber? (h₁ h₂ h₃ h₄ : UInt8) : Option Nat :=
  match hexDigit? h₁, hexDigit? h₂, hexDigit? h₃, hexDigit? h₄ with
  | some a, some b, some c, some d => some (((a.toNat * 16 + b.toNat) * 16 + c.toNat) * 16 + d.toNat)
  | _, _, _, _ => none

def Written.shortEscape? (byte : UInt8) : Option UInt8 :=
  if byte == 0x22 || byte == 0x5C || byte == 0x2F then some byte
  else if byte == 0x62 then some 0x08
  else if byte == 0x66 then some 0x0C
  else if byte == 0x6E then some 0x0A
  else if byte == 0x72 then some 0x0D
  else if byte == 0x74 then some 0x09
  else none

/-- The bytes the body of a text stands for. A character outside the first 65536 is escaped
as two halves; a half without the other stands for nothing. -/
def Written.unescape? : Bytes → Option Bytes
  | [] => some []
  | a :: rest =>
    if a == 0x5C then
      match rest with
      | [] => none
      | b :: rest₂ =>
        if b == 0x75 then
          match rest₂ with
          | h₁ :: h₂ :: h₃ :: h₄ :: rest₃ =>
            match hexNumber? h₁ h₂ h₃ h₄ with
            | none => none
            | some n =>
              if 0xDC00 ≤ n && n ≤ 0xDFFF then none
              else if 0xD800 ≤ n && n ≤ 0xDBFF then
                match rest₃ with
                | 0x5C :: 0x75 :: g₁ :: g₂ :: g₃ :: g₄ :: rest₄ =>
                  match hexNumber? g₁ g₂ g₃ g₄ with
                  | none => none
                  | some m =>
                    if 0xDC00 ≤ m && m ≤ 0xDFFF then
                      let c := Char.ofNat (0x10000 + (n - 0xD800) * 0x400 + (m - 0xDC00))
                      (unescape? rest₄).map (String.utf8EncodeChar c ++ ·)
                    else none
                | _ => none
              else (unescape? rest₃).map (String.utf8EncodeChar (Char.ofNat n) ++ ·)
          | _ => none
        else
          match Written.shortEscape? b with
          | none => none
          | some byte => (unescape? rest₂).map (byte :: ·)
    else (unescape? rest).map (a :: ·)

def Written.decodeBody? (body : Bytes) : Option String :=
  (Written.unescape? body).bind Utf8.decode?

def Written.text? : Written → Option String
  | .text body => Written.decodeBody? body
  | _ => none

/-- The value of a whole number that is spelled with digits alone and is not above the limit. -/
def Written.natural? (limit : Nat) : Written → Option Nat
  | .number spelling =>
    if spelling.all isDigitByte then
      ofDigitsUpTo? limit (spelling.map fun byte => Char.ofNat byte.toNat)
    else none
  | _ => none

end MediaServer
