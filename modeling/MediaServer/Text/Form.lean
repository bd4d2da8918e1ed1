import MediaServer.Text.Percent
import MediaServer.Text.Split

namespace MediaServer

/-- Decodes one side of a pair: a plus sign is a space, percent sequences are
bytes, and what is not UTF-8 then is shown as U+FFFD. -/
def Form.decodePart (part : Bytes) : String :=
  Utf8.decodeLossy (Percent.decode (part.map fun byte => if byte == 0x2B then 0x20 else byte))

/-- A pair without an equals sign has an empty value. -/
def Form.decodePair (pair : Bytes) : String × String :=
  let (name, value) := cutAt 0x3D pair
  (Form.decodePart name, Form.decodePart (value.getD []))

/-- The name-value pairs of a form-encoded text, in order. Pairs of no bytes are skipped. -/
def Form.decode (text : String) : List (String × String) :=
  ((pieces 0x26 (Utf8.encode text)).filter (!·.isEmpty)).map Form.decodePair

/-- Letters, digits and `*-._` are sent as they are. -/
def Form.isPlain (byte : UInt8) : Bool :=
  (0x30 ≤ byte && byte ≤ 0x39) || (0x41 ≤ byte && byte ≤ 0x5A) || (0x61 ≤ byte && byte ≤ 0x7A) ||
    byte == 0x2A || byte == 0x2D || byte == 0x2E || byte == 0x5F

def Form.encodeByte (byte : UInt8) : Bytes :=
  if Form.isPlain byte then [byte]
  else if byte == 0x20 then [0x2B]
  else Percent.encodeByte byte

def Form.encodePart (part : String) : Bytes :=
  (Utf8.encode part).flatMap Form.encodeByte

def Form.encodePair (pair : String × String) : Bytes :=
  Form.encodePart pair.1 ++ 0x3D :: Form.encodePart pair.2

def Form.encodeBytes (pairs : List (String × String)) : Bytes :=
  [0x26].intercalate (pairs.map Form.encodePair)

/-- Each encoded byte is ASCII, so it is also a character. -/
def Form.encode (pairs : List (String × String)) : String :=
  String.ofList ((Form.encodeBytes pairs).map fun byte => Char.ofNat byte.toNat)

end MediaServer
