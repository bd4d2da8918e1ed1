import MediaServer.Route.Class
import MediaServer.Text.Split

namespace MediaServer

/-- One part of a key: a text, a name for one part of a path, or a name for the rest of it. -/
inductive TreeSegment
  | literal (text : String)
  | one (name : String)
  | rest (name : String)
  deriving DecidableEq, Repr

abbrev TreeKey := List TreeSegment

/-- A doubled brace stands for one; a single one stands for nothing. -/
def TreeSegment.unescape? : List Char → Option (List Char)
  | [] => some []
  | '\x7b' :: '\x7b' :: chars => (unescape? chars).map ('\x7b' :: ·)
  | '\x7d' :: '\x7d' :: chars => (unescape? chars).map ('\x7d' :: ·)
  | c :: chars => if c == '\x7b' || c == '\x7d' then none else (unescape? chars).map (c :: ·)

/-- A name is not empty and ends with the brace that ends the part. -/
def TreeSegment.name? (inner : List Char) : Option String :=
  let name := inner.dropLast
  if inner.getLast? = some '\x7d' && !name.isEmpty &&
      name.all (fun c => c != '\x7b' && c != '\x7d' && c != '*') then
    some (String.ofList name)
  else none

def TreeSegment.read? (piece : List Char) : Option TreeSegment :=
  let asLiteral := (TreeSegment.unescape? piece).map fun text => .literal (String.ofList text)
  match piece with
  | '\x7b' :: '\x7b' :: _ => asLiteral
  | '\x7b' :: '*' :: inner => (TreeSegment.name? inner).map .rest
  | '\x7b' :: inner => (TreeSegment.name? inner).map .one
  | _ => asLiteral

/-- Only the last part may stand for the rest of a path. -/
def TreeKey.read? : List (List Char) → Option TreeKey
  | [] => some []
  | piece :: others => do
    let segment ← TreeSegment.read? piece
    let segments ← read? others
    match segment, others with
    | .rest _, _ :: _ => none
    | _, _ => some (segment :: segments)

/-- Reads the text of a key, which starts with a slash. -/
def TreeKey.ofText? (text : String) : Option TreeKey :=
  match text.toList with
  | '/' :: rest => TreeKey.read? (pieces '/' rest)
  | _ => none

/-- The keys of a tree, each with the number it leads to. -/
abbrev RouteTree := List (TreeKey × Nat)

/-- Two keys cannot stand beside each other if they differ only in names, or if where
they first differ one goes on with a single part and the other with the rest. -/
def TreeKey.clashes : TreeKey → TreeKey → Bool
  | [], [] => true
  | .literal a :: xs, .literal b :: ys => a == b && clashes xs ys
  | .one _ :: xs, .one _ :: ys => clashes xs ys
  | .rest _ :: _, .rest _ :: _ => true
  | .one _ :: _, .rest _ :: _ => true
  | .rest _ :: _, .one _ :: _ => true
  | _, _ => false

def RouteTree.insert? (tree : RouteTree) (key : TreeKey) (slot : Nat) : Option RouteTree :=
  if tree.any fun entry => TreeKey.clashes key entry.1 then none else some (tree ++ [(key, slot)])

/-- What a path gave for the names of a key, still as it was written. -/
structure TreeMatch where
  slot : Nat
  params : List (String × String)
  deriving DecidableEq, Repr

/-- Keys on the way down: what is left of each, and what its names were given so far. -/
abbrev Trail := List (TreeKey × TreeMatch)

def Trail.literal (trail : Trail) (text : String) : Trail :=
  trail.filterMap fun
    | (.literal wanted :: key, found) => if wanted == text then some (key, found) else none
    | _ => none

/-- The keys that go on with any single part, which is given to their name. -/
def Trail.one (trail : Trail) (text : String) : Trail :=
  trail.filterMap fun
    | (.one name :: key, found) => some (key, { found with params := found.params ++ [(name, text)] })
    | _ => none

def joinParts (parts : List String) : List Char :=
  ['/'].intercalate (parts.map String.toList)

/-- The first key that takes the rest of the path, which must not be empty. -/
def Trail.rest? (trail : Trail) (parts : List String) : Option TreeMatch :=
  trail.findSome? fun
    | ([.rest name], found) =>
      let text := joinParts parts
      if text.isEmpty then none
      else some { found with params := found.params ++ [(name, String.ofList text)] }
    | _ => none

/-- The first key that ends here. -/
def Trail.end? (trail : Trail) : Option TreeMatch :=
  trail.findSome? fun
    | ([], found) => some found
    | _ => none

/-- Searches for the best key: at each part a text is tried first, then a name for that part,
then a name for the rest. A last part that is empty is given to no name. -/
def Trail.search (trail : Trail) : List String → Option TreeMatch
  | [] => trail.end?
  | part :: parts =>
    let literal := if trail.isEmpty then none else search (trail.literal part) parts
    literal.or <|
      let one := if trail.isEmpty || (part.isEmpty && parts.isEmpty) then none
        else search (trail.one part) parts
      one.or (trail.rest? (part :: parts))

def pathParts? (path : String) : Option (List String) :=
  match path.toList with
  | '/' :: rest => some ((pieces '/' rest).map String.ofList)
  | _ => none

def RouteTree.search (tree : RouteTree) (path : String) : Option TreeMatch :=
  (pathParts? path).bind (Trail.search (tree.map fun (key, slot) => (key, ⟨slot, []⟩)))

end MediaServer
