import MediaServer.Decimal.Notation

namespace MediaServer

inductive Json
  | null
  | bool (value : Bool)
  | int (value : Int)
  | float (value : Float)
  | text (value : String)
  | list (items : List Json)
  | object (members : List (String × Json))

instance : Inhabited Json := ⟨.null⟩

/-- Quotes, backslashes and controls are escaped inside a JSON text; all else stands for itself. -/
def Json.escapeChar (c : Char) : List Char :=
  if c == '"' || c == '\\' then ['\\', c]
  else if c == '\x08' then ['\\', 'b']
  else if c == '\t' then ['\\', 't']
  else if c == '\n' then ['\\', 'n']
  else if c == '\x0c' then ['\\', 'f']
  else if c == '\r' then ['\\', 'r']
  else if c.toNat < 0x20 then
    ['\\', 'u', '0', '0', Nat.digitChar (c.toNat / 16), Nat.digitChar (c.toNat % 16)]
  else [c]

def Json.quote (text : String) : List Char :=
  '"' :: text.toList.flatMap Json.escapeChar ++ ['"']

/-- A number that is not finite has no JSON form and is written as null. -/
def Json.renderFloat (x : Float) : List Char :=
  if x.isNaN || x.isInf then ['n', 'u', 'l', 'l'] else (writeFloat .compact x).toList

mutual

/-- The text of a value, without any blanks. Members are written in their order. -/
def Json.render : Json → List Char
  | .null => ['n', 'u', 'l', 'l']
  | .bool true => ['t', 'r', 'u', 'e']
  | .bool false => ['f', 'a', 'l', 's', 'e']
  | .int n => (toString n).toList
  | .float x => Json.renderFloat x
  | .text s => Json.quote s
  | .list [] => ['[', ']']
  | .list (item :: items) => '[' :: item.render ++ Json.renderItems items
  | .object [] => ['\x7b', '\x7d']
  | .object ((name, value) :: members) =>
    '\x7b' :: Json.quote name ++ ':' :: value.render ++ Json.renderMembers members

/-- What follows the first item of a list. -/
def Json.renderItems : List Json → List Char
  | [] => [']']
  | item :: items => ',' :: item.render ++ Json.renderItems items

/-- What follows the first member of an object. -/
def Json.renderMembers : List (String × Json) → List Char
  | [] => ['\x7d']
  | (name, value) :: members =>
    ',' :: Json.quote name ++ ':' :: value.render ++ Json.renderMembers members

end

def Json.toText (value : Json) : String :=
  String.ofList value.render

def Json.memberLine (member : String × Json) : List Char :=
  ' ' :: ' ' :: Json.quote member.1 ++ ':' :: ' ' :: member.2.render

/-- An object with one member per line. -/
def Json.sheet (members : List (String × Json)) : String :=
  String.ofList
    ('\x7b' :: '\n' :: [',', '\n'].intercalate (members.map Json.memberLine) ++ ['\n', '\x7d'])

end MediaServer
