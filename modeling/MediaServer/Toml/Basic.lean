namespace MediaServer

/-- A value of a TOML document. Members of a table stand in the order in which they came in.
Dates and times are told from other values, but no setting holds one, so they are all the same. -/
inductive Toml
  | text (value : String)
  | integer (value : Int)
  | float (value : Float)
  | boolean (value : Bool)
  | moment
  | list (items : List Toml)
  | table (members : List (String × Toml))

instance : Inhabited Toml := ⟨.moment⟩

/-- Space and tab. -/
def Toml.isBlank (c : Char) : Bool :=
  c == ' ' || c == '\t'

def Toml.skipBlanks (chars : List Char) : List Char :=
  chars.dropWhile Toml.isBlank

/-- What follows a line feed, which a carriage return may precede. -/
def Toml.newline? : List Char → Option (List Char)
  | '\n' :: rest => some rest
  | '\r' :: '\n' :: rest => some rest
  | _ => none

/-- The characters of a line: all but the controls, among which only the tab is admitted. -/
def Toml.isShown (c : Char) : Bool :=
  c == '\t' || (0x20 ≤ c.toNat && c.toNat != 0x7F)

def Toml.skipComment : List Char → List Char
  | '#' :: rest => rest.dropWhile Toml.isShown
  | chars => chars

/-- What follows the end of a line, before which there may be blanks and a comment. -/
def Toml.lineEnd? (chars : List Char) : Option (List Char) :=
  match Toml.skipComment (Toml.skipBlanks chars) with
  | [] => some []
  | rest => Toml.newline? rest

end MediaServer
