import MediaServer.Text.Unseen

namespace MediaServer

def Escaped.number (c : Char) : List Char :=
  ['\\', 'u', '\x7b'] ++ Nat.toDigits 16 c.toNat ++ ['\x7d']

def Escaped.char (c : Char) : List Char :=
  if c == '\x00' then ['\\', '0']
  else if c == '\t' then ['\\', 't']
  else if c == '\n' then ['\\', 'n']
  else if c == '\r' then ['\\', 'r']
  else if c == '\\' || c == '"' then ['\\', c]
  else if isUnseen c then Escaped.number c
  else [c]

/-- A text between double quotes in which every character can be seen. -/
def Escaped.quote (text : String) : String :=
  "\"" ++ String.ofList (text.toList.flatMap Escaped.char) ++ "\""

end MediaServer
