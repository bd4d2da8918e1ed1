import MediaServer.Toml.Value

namespace MediaServer

/-- The statements of a document: a value under a key, the header of a table, or the header of
a further element of a list of tables. -/
inductive Toml.Statement
  | pair (path : List String) (name : String) (value : Toml)
  | table (path : List String) (name : String)
  | element (path : List String) (name : String)

def Toml.readHeader (closing chars : List Char) : Option (List String × String × List Char) := do
  let (path, name, rest) ← Toml.readKey chars
  if closing.isPrefixOf rest then
    let rest ← Toml.lineEnd? (rest.drop closing.length)
    some (path, name, rest)
  else none

def Toml.readPair (chars : List Char) : Option (Toml.Statement × List Char) := do
  let (path, name, rest) ← Toml.readKey chars
  match rest with
  | '=' :: rest =>
    let (value, rest) ← Toml.readValue Toml.depthLimit (Toml.skipBlanks rest)
    let rest ← Toml.lineEnd? rest
    some (.pair path name value, rest)
  | _ => none

def Toml.readStatement : List Char → Option (Toml.Statement × List Char)
  | '[' :: '[' :: rest =>
    (Toml.readHeader [']', ']'] rest).map fun (path, name, after) => (.element path name, after)
  | '[' :: rest =>
    (Toml.readHeader [']'] rest).map fun (path, name, after) => (.table path name, after)
  | chars => Toml.readPair chars

/-- Reads statements between empty lines and comments; `fuel` bounds how many. -/
def Toml.readStatements : Nat → List Char → Option (List Toml.Statement)
  | 0, _ => none
  | fuel + 1, chars =>
    match Toml.skipAllLines chars with
    | [] => some []
    | '#' :: rest => if (Toml.skipComment ('#' :: rest)).isEmpty then some [] else none
    | rest => do
      let (statement, rest) ← Toml.readStatement rest
      let statements ← readStatements fuel rest
      some (statement :: statements)

/-- Changes the table that a header path leads to: tables on the way that are not there yet
are implied, and a list of tables stands for its latest one. -/
def Toml.Entries.within (change : Toml.Entries → Option Toml.Entries) :
    List String → Toml.Entries → Option Toml.Entries
  | [], entries => change entries
  | part :: path, entries =>
    match entries.lookup part with
    | none =>
      (within change path []).map fun inner => entries ++ [(part, .table .implied inner)]
    | some (.value _) => none
    | some (.table origin inner) =>
      (within change path inner).map fun inner => Toml.Entries.set entries part (.table origin inner)
    | some (.tables latest earlier) =>
      (within change path latest).map fun latest =>
        Toml.Entries.set entries part (.tables latest earlier)

/-- Opens a table. One that was only implied so far is taken to the end. -/
def Toml.Entries.openTable (name : String) (entries : Toml.Entries) : Option Toml.Entries :=
  match entries.lookup name with
  | none => some (entries ++ [(name, .table .header [])])
  | some (.table .implied inner) =>
    some (entries.filter (·.1 != name) ++ [(name, .table .header inner)])
  | some _ => none

def Toml.Entries.openElement (name : String) (entries : Toml.Entries) : Option Toml.Entries :=
  match entries.lookup name with
  | none => some (entries ++ [(name, .tables [] [])])
  | some (.tables latest earlier) =>
    some (Toml.Entries.set entries name (.tables [] (latest :: earlier)))
  | some _ => none

/-- Takes statements in order; pairs belong to the table that was opened last. -/
def Toml.Entries.run : List Toml.Statement → (opened : List String) → Toml.Entries → Option Toml.Entries
  | [], _, entries => some entries
  | .pair path name value :: others, opened, entries =>
    (Toml.Entries.within (Toml.Entries.add name value path) opened entries).bind (run others opened)
  | .table path name :: others, _, entries =>
    (Toml.Entries.within (Toml.Entries.openTable name) path entries).bind (run others (path ++ [name]))
  | .element path name :: others, _, entries =>
    (Toml.Entries.within (Toml.Entries.openElement name) path entries).bind (run others (path ++ [name]))

/-- Skips the mark that may stand in front of a text. -/
def Toml.skipMark : List Char → List Char
  | '\uFEFF' :: rest => rest
  | chars => chars

/-- The members of a document, if it follows the grammar and defines no key twice. -/
def Toml.read? (text : String) : Option (List (String × Toml)) :=
  let chars := Toml.skipMark text.toList
  (Toml.readStatements (chars.length + 1) chars).bind fun statements =>
  (Toml.Entries.run statements [] []).map Toml.finishMembers

end MediaServer
