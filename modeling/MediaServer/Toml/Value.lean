import MediaServer.Toml.Text
import MediaServer.Toml.Number
import MediaServer.Toml.Moment

namespace MediaServer

/-- How far values may be nested, and how many parts a key may have. -/
def Toml.depthLimit : Nat := 79

/-- How a table came to be: by a header of its own, because the header of another table names it
on its way, or by a key with dots. -/
inductive TableOrigin
  | header
  | implied
  | dotted
  deriving DecidableEq, Repr

/-- What a key of an unfinished document holds. Only tables that are not values can still grow,
and of a list of tables only the latest; the earlier ones stand in reverse order. -/
inductive Toml.Entry
  | value (value : Toml)
  | table (origin : TableOrigin) (members : List (String × Toml.Entry))
  | tables (latest : List (String × Toml.Entry)) (earlier : List (List (String × Toml.Entry)))

abbrev Toml.Entries := List (String × Toml.Entry)

def Toml.Entries.set (entries : Toml.Entries) (key : String) (entry : Toml.Entry) : Toml.Entries :=
  entries.map fun (name, old) => if name == key then (name, entry) else (name, old)

/-- Adds a value under the last part of a dotted key. The parts before it name tables that
only dotted keys have made; a key that is already there is refused. -/
def Toml.Entries.add (key : String) (value : Toml) : List String → Toml.Entries → Option Toml.Entries
  | [], entries =>
    if (entries.lookup key).isSome then none else some (entries ++ [(key, .value value)])
  | part :: path, entries =>
    match entries.lookup part with
    | none => (add key value path []).map fun inner => entries ++ [(part, .table .dotted inner)]
    | some (.value _) => none
    | some (.table origin inner) =>
      if origin = .header || (path.isEmpty && origin ≠ .dotted) then none
      else (add key value path inner).map fun inner => Toml.Entries.set entries part (.table origin inner)
    | some (.tables latest earlier) =>
      if path.isEmpty then none
      else
        (add key value path latest).map fun latest =>
          Toml.Entries.set entries part (.tables latest earlier)

mutual

def Toml.Entry.finish : Toml.Entry → Toml
  | .value value => value
  | .table _ members => .table (Toml.finishMembers members)
  | .tables latest earlier =>
    .list (Toml.finishElements earlier [.table (Toml.finishMembers latest)])

def Toml.finishMembers : List (String × Toml.Entry) → List (String × Toml)
  | [] => []
  | (key, entry) :: others => (key, entry.finish) :: finishMembers others

/-- Puts finished tables, of which the first comes last, in front of others. -/
def Toml.finishElements : List (List (String × Toml.Entry)) → List Toml → List Toml
  | [], later => later
  | members :: earlier, later => finishElements earlier (.table (Toml.finishMembers members) :: later)

end

def Toml.isKeyChar (c : Char) : Bool :=
  ('a' ≤ c && c ≤ 'z') || ('A' ≤ c && c ≤ 'Z') || isDigit c || c == '_' || c == '-'

/-- Reads one part of a key: a text of one line, or letters, digits, underscores and hyphens. -/
def Toml.readPart (chars : List Char) : Option (String × List Char) :=
  match chars with
  | '"' :: rest =>
    (Toml.readQuoted rest rest).map fun (part, after) => (String.ofList part, after)
  | '\x27' :: rest => (Toml.readLiteral rest).map fun (part, after) => (String.ofList part, after)
  | chars =>
    let part := chars.takeWhile Toml.isKeyChar
    if part.isEmpty then none else some (String.ofList part, chars.dropWhile Toml.isKeyChar)

/-- Reads the parts of a key, between which stand dots and blanks. -/
def Toml.readParts : Nat → List Char → Option (List String × List Char)
  | 0, _ => none
  | fuel + 1, chars => do
    let (part, rest) ← Toml.readPart (Toml.skipBlanks chars)
    match Toml.skipBlanks rest with
    | '.' :: rest => do
      let (parts, rest) ← readParts fuel rest
      some (part :: parts, rest)
    | rest => some ([part], rest)

/-- Reads a key: the path to a table, and the name in it. -/
def Toml.readKey (chars : List Char) : Option (List String × String × List Char) := do
  let (parts, rest) ← Toml.readParts Toml.depthLimit chars
  let name ← parts.getLast?
  some (parts.dropLast, name, rest)

/-- Skips blanks, comments and line ends. Each line takes a character of the first list. -/
def Toml.skipLines : (bound : List Char) → List Char → List Char
  | [], chars => chars
  | _ :: bound, chars =>
    match Toml.newline? (Toml.skipComment (Toml.skipBlanks chars)) with
    | some rest => skipLines bound rest
    | none => Toml.skipBlanks chars

def Toml.skipAllLines (chars : List Char) : List Char :=
  Toml.skipLines chars chars

/-- Reads the items of a list and the bracket that closes it. Each item takes a character of the
first list. -/
def Toml.readItems (read : List Char → Option (Toml × List Char)) :
    (bound : List Char) → List Char → Option (List Toml × List Char)
  | [], _ => none
  | _ :: bound, chars =>
    match Toml.skipAllLines chars with
    | ']' :: after => some ([], after)
    | rest =>
      (read rest).bind fun (item, rest) =>
      match Toml.skipAllLines rest with
      | ',' :: rest => (readItems read bound rest).map fun (items, after) => (item :: items, after)
      | ']' :: after => some ([item], after)
      | _ => none

/-- Reads the members of a table that stands in one line, and the brace that closes it. Each
member takes a character of the first list. -/
def Toml.readMembers (read : List Char → Option (Toml × List Char)) :
    (bound : List Char) → Toml.Entries → List Char → Option (Toml × List Char)
  | [], _, _ => none
  | _ :: bound, entries, chars =>
    (Toml.readKey chars).bind fun (path, name, rest) =>
    match rest with
    | '=' :: rest =>
      (read (Toml.skipBlanks rest)).bind fun (value, rest) =>
      (Toml.Entries.add name value path entries).bind fun entries =>
      match Toml.skipBlanks rest with
      | ',' :: rest => readMembers read bound entries rest
      | '\x7d' :: after => some (.table (Toml.finishMembers entries), after)
      | _ => none
    | _ => none

/-- Reads a value that holds no other. -/
def Toml.readSimple (chars : List Char) : Option (Toml × List Char) :=
  match chars with
  | 't' :: 'r' :: 'u' :: 'e' :: rest => some (.boolean true, rest)
  | 'f' :: 'a' :: 'l' :: 's' :: 'e' :: rest => some (.boolean false, rest)
  | chars =>
    match Toml.readText chars with
    | some (body, rest) => some (.text (String.ofList body), rest)
    | none => (Toml.readMoment chars).or (Toml.readNumber chars)

/-- Reads a value in which others may be nested up to a depth. -/
def Toml.readValue : (depth : Nat) → List Char → Option (Toml × List Char)
  | 0, chars => Toml.readSimple chars
  | depth + 1, chars =>
    match chars with
    | '[' :: rest =>
      (Toml.readItems (readValue depth) rest rest).map fun (items, after) => (.list items, after)
    | '\x7b' :: rest =>
      match Toml.skipBlanks rest with
      | '\x7d' :: after => some (.table [], after)
      | rest => Toml.readMembers (readValue depth) rest [] rest
    | chars => Toml.readSimple chars

end MediaServer
