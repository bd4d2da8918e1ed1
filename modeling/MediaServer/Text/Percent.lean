import MediaServer.Text.Utf8

namespace MediaServer

def hexDigit? (byte : UInt8) : Option UInt8 :=
  if 0x30 ≤ byte && byte ≤ 0x39 then some (byte - 0x30)
  else if 0x41 ≤ byte && byte ≤ 0x46 then some (byte - 0x37)
  else if 0x61 ≤ byte && byte ≤ 0x66 then some (byte - 0x57)
  else none

def hexDigit (value : UInt8) : UInt8 :=
  if value < 10 then value + 0x30 else value + 0x37

/-- A percent sign and two hexadecimal digits write one byte; a percent sign
that is not followed by two such digits stands for itself. -/
def Percent.decode : Bytes → Bytes
  | [] => []
  | a :: rest =>
    if a == 0x25 then
      match rest with
      | high :: low :: rest₂ =>
        match hexDigit? high, hexDigit? low with
        | some x, some y => (x * 16 + y) :: decode rest₂
        | _, _ => a :: decode (high :: low :: rest₂)
      | [b] => [a, b]
      | [] => [a]
    else a :: decode rest

def Percent.encodeByte (byte : UInt8) : Bytes :=
  [0x25, hexDigit (byte / 16), hexDigit (byte % 16)]

/-- The text a percent-encoded text stands for, if the decoded bytes write one. -/
def Percent.decodeText? (text : String) : Option String :=
  Utf8.decode? (Percent.decode (Utf8.encode text))

end MediaServer
