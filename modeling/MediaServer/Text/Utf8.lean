namespace MediaServer

abbrev Bytes := List UInt8

def Utf8.encode (text : String) : Bytes :=
  text.toList.flatMap String.utf8EncodeChar

/-- Bytes of the form `10xxxxxx`, which only continue a character. -/
def Utf8.isTrailing (byte : UInt8) : Bool :=
  0x80 ≤ byte && byte ≤ 0xBF

/-- How many bytes a character starting with this non-ASCII byte takes; 0 if none does. -/
def Utf8.width (lead : UInt8) : Nat :=
  if 0xC2 ≤ lead && lead ≤ 0xDF then 2
  else if 0xE0 ≤ lead && lead ≤ 0xEF then 3
  else if 0xF0 ≤ lead && lead ≤ 0xF4 then 4
  else 0

/-- The second byte decides overlong forms, surrogates and values above the last character. -/
def Utf8.isSecond (lead second : UInt8) : Bool :=
  if lead == 0xE0 then 0xA0 ≤ second && second ≤ 0xBF
  else if lead == 0xED then 0x80 ≤ second && second ≤ 0x9F
  else if lead == 0xF0 then 0x90 ≤ second && second ≤ 0xBF
  else if lead == 0xF4 then 0x80 ≤ second && second ≤ 0x8F
  else Utf8.isTrailing second

/-- The value of the bits that a lead byte of the given width leaves over. -/
def Utf8.payload (byte : UInt8) (modulus : Nat) : Nat :=
  byte.toNat % modulus

/-- Reads bytes as characters. A maximal piece that starts no character is `none`,
so a strict and a forgiving reader differ only in what they make of it. -/
def Utf8.scan : Bytes → List (Option Char)
  | [] => []
  | a :: rest =>
    if a < 0x80 then some (Char.ofNat a.toNat) :: scan rest
    else match rest with
      | [] => [none]
      | b :: rest₂ =>
        if Utf8.width a == 0 || !Utf8.isSecond a b then none :: scan (b :: rest₂)
        else if Utf8.width a == 2 then
          some (Char.ofNat (payload a 32 * 64 + payload b 64)) :: scan rest₂
        else match rest₂ with
          | [] => [none]
          | c :: rest₃ =>
            if !Utf8.isTrailing c then none :: scan (c :: rest₃)
            else if Utf8.width a == 3 then
              some (Char.ofNat (payload a 16 * 4096 + payload b 64 * 64 + payload c 64)) :: scan rest₃
            else match rest₃ with
              | [] => [none]
              | d :: rest₄ =>
                if !Utf8.isTrailing d then none :: scan (d :: rest₄)
                else
                  some (Char.ofNat (payload a 8 * 262144 + payload b 64 * 4096 + payload c 64 * 64
                    + payload d 64)) :: scan rest₄

def Utf8.decode? (bytes : Bytes) : Option String :=
  ((Utf8.scan bytes).mapM id).map String.ofList

/-- The text these bytes write, each piece that is none shown as U+FFFD. -/
def Utf8.decodeLossy (bytes : Bytes) : String :=
  String.ofList ((Utf8.scan bytes).map (·.getD '\uFFFD'))

end MediaServer
