namespace MediaServer

/-- The characters with the Unicode property White_Space. -/
def isSpace (c : Char) : Bool :=
  ('\t' ≤ c && c ≤ '\r') || c == ' ' || c == '\u0085' || c == '\u00A0' || c == '\u1680' ||
    ('\u2000' ≤ c && c ≤ '\u200A') || c == '\u2028' || c == '\u2029' || c == '\u202F' ||
    c == '\u205F' || c == '\u3000'

/-- A text that shows nothing: it is empty or white space throughout. -/
def isBlank (text : String) : Bool :=
  text.toList.all isSpace

/-- The control characters: the first 32, DEL and the 32 after it. -/
def isControl (c : Char) : Bool :=
  c.toNat < 0x20 || (0x7F ≤ c.toNat && c.toNat ≤ 0x9F)

end MediaServer
