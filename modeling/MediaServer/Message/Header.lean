import MediaServer.Text.Utf8

namespace MediaServer

/-- Names in lower case with their values, in the order in which they were given. -/
abbrev Headers := List (String × Bytes)

/-- A value may hold any byte from the space on except DEL, and tabs. -/
def Headers.isLegal (value : Bytes) : Bool :=
  value.all fun byte => byte == 0x09 || (0x20 ≤ byte && byte != 0x7F)

/-- A value is text if it is made of printable ASCII characters and tabs. -/
def Headers.isText (value : Bytes) : Bool :=
  value.all fun byte => byte == 0x09 || (0x20 ≤ byte && byte ≤ 0x7E)

/-- Names are the same in either case. -/
def Headers.ofList (entries : List (String × Bytes)) : Headers :=
  entries.map fun (name, value) => (name.map Char.toLower, value)

def Headers.first? (headers : Headers) (name : String) : Option Bytes :=
  headers.lookup name

/-- The first of the values of a name, if it is text. -/
def Headers.text? (headers : Headers) (name : String) : Option String :=
  (headers.first? name).bind fun value =>
    if Headers.isText value then some (String.ofList (value.map fun byte => Char.ofNat byte.toNat))
    else none

/-- Replaces all values of a name by one. -/
def Headers.insert (headers : Headers) (name : String) (value : Bytes) : Headers :=
  headers.filter (·.1 != name) ++ [(name, value)]

def Headers.insert? (headers : Headers) (name value : String) : Option Headers :=
  if Headers.isLegal (Utf8.encode value) then some (headers.insert name (Utf8.encode value)) else none

def Headers.contains (headers : Headers) (name : String) : Bool :=
  headers.any (·.1 == name)

end MediaServer
