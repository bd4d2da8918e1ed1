import MediaServer.Route.Pattern
import MediaServer.Route.Tree
import MediaServer.Text.Percent

namespace MediaServer

/-- Names and the decoded values they captured. -/
abbrev Captures := List (String × String)

structure RouteSlot (α : Type) where
  pattern : RoutePattern
  handlers : List (String × α)

/-- Routes are found through the tree, whose numbers are places among the slots.
`byPattern` gives the slot of a pattern's text. -/
structure RouteTable (α : Type) where
  tree : RouteTree
  slots : List (RouteSlot α)
  byPattern : List (String × Nat)

inductive RouteFault
  | malformed (pattern : String) (reason : PatternFault)
  | duplicate (method pattern : String)
  | conflict (pattern : String)
  | reserved (pattern : String)
  | tooManyCaptures (pattern : String)
  deriving DecidableEq, Repr

def RouteFault.message : RouteFault → String
  | .malformed pattern reason =>
    "malformed route pattern \x60" ++ pattern ++ "\x60: " ++ reason.message
  | .duplicate method pattern => "route \x60" ++ method ++ " " ++ pattern ++ "\x60 registered twice"
  | .conflict pattern => "route \x60" ++ pattern ++ "\x60 conflicts with an existing route"
  | .reserved pattern =>
    "OPTIONS is answered for every route and cannot be registered on \x60" ++ pattern ++ "\x60"
  | .tooManyCaptures _ => "too many route parameters"

/-- How many single parts a key can name. -/
def captureLimit : Nat := 25

/-- A part of a pattern in the form that keys are written in. -/
def Segment.treeText : Segment → List Char
  | .literal text => text.toList
  | .capture name .tail => '\x7b' :: '*' :: name.toList ++ ['\x7d']
  | .capture name _ => '\x7b' :: name.toList ++ ['\x7d']

def Segment.treePath (segments : List Segment) : String :=
  String.ofList (segments.flatMap fun segment => '/' :: segment.treeText)

def RoutePattern.treePath (pattern : RoutePattern) : String :=
  Segment.treePath pattern.segments

/-- The key for a tail of which nothing is left: the tree gives no name an empty last part. -/
def RoutePattern.emptyTailPath? (pattern : RoutePattern) : Option String :=
  match pattern.segments.getLast? with
  | some last => if last.isTail then some (Segment.treePath pattern.segments.dropLast ++ "/") else none
  | none => none

/-- The value of one name: percent-decoded, it has to be UTF-8 and of its class. -/
def Segment.captured? (params : List (String × String)) : Segment → Option Captures
  | .literal _ => some []
  | .capture name kind =>
    (Percent.decodeText? ((params.lookup name).getD "")).bind fun value =>
      if kind.accepts value then some [(name, value)] else none

def RoutePattern.captures? (pattern : RoutePattern) (params : List (String × String)) :
    Option Captures :=
  (pattern.segments.mapM (Segment.captured? params)).map List.flatten

variable {α : Type}

def RouteTable.empty : RouteTable α :=
  ⟨[], [], []⟩

/-- Inserts the text of a key. A text that is no key is refused like one that clashes. -/
def RouteTree.insertText? (tree : RouteTree) (path : String) (slot : Nat) : Option RouteTree :=
  (TreeKey.ofText? path).bind fun key => tree.insert? key slot

/-- The keys of a new pattern: its own, and for a tail the one for nothing left. -/
def RouteTree.insertPattern? (tree : RouteTree) (pattern : RoutePattern) (slot : Nat) :
    Option RouteTree :=
  (tree.insertText? pattern.treePath slot).bind fun tree =>
    match pattern.emptyTailPath? with
    | none => some tree
    | some path => tree.insertText? path slot

/-- Makes a slot for a pattern that has none yet. -/
def RouteTable.open (table : RouteTable α) (text : String) : Except RouteFault (RouteTable α × Nat) :=
  match RoutePattern.parse text with
  | .error reason => .error (.malformed text reason)
  | .ok pattern =>
    if captureLimit < pattern.segments.countP (·.isOne) then .error (.tooManyCaptures text)
    else
      match table.tree.insertPattern? pattern table.slots.length with
      | none => .error (.conflict text)
      | some tree =>
        .ok (⟨tree, table.slots ++ [⟨pattern, []⟩], table.byPattern ++ [(text, table.slots.length)]⟩,
          table.slots.length)

/-- The slot of a pattern's text, which is made if there is none. -/
def RouteTable.slotFor (table : RouteTable α) (text : String) :
    Except RouteFault (RouteTable α × Nat) :=
  match table.byPattern.lookup text with
  | some number => .ok (table, number)
  | none => table.open text

def RouteSlot.addHandler (slot : RouteSlot α) (method : String) (handler : α) : RouteSlot α :=
  { slot with handlers := slot.handlers ++ [(method, handler)] }

def RouteTable.setSlot (table : RouteTable α) (number : Nat) (slot : RouteSlot α) : RouteTable α :=
  { table with slots := table.slots.set number slot }

def RouteTable.add (table : RouteTable α) (method pattern : String) (handler : α) :
    Except RouteFault (RouteTable α) :=
  if method = "OPTIONS" then .error (.reserved pattern)
  else
    (table.slotFor pattern).bind fun (table, number) =>
      match table.slots[number]? with
      | none => .error (.conflict pattern)
      | some slot =>
        if (slot.handlers.lookup method).isSome then .error (.duplicate method pattern)
        else .ok (table.setSlot number (slot.addHandler method handler))

/-- What the routes make of a method and a path. -/
inductive Lookup (α : Type)
  | found (handler : α) (captures : Captures)
  | preflight
  | methodNotAllowed
  | notFound
  deriving DecidableEq

def RouteSlot.lookup (slot : RouteSlot α) (method : String) (captures : Captures) : Lookup α :=
  if method = "OPTIONS" then .preflight
  else
    match slot.handlers.lookup method with
    | some handler => .found handler captures
    | none => .methodNotAllowed

/-- The tree finds one pattern. If its classes refuse the captures, the path is not found. -/
def RouteTable.lookup (table : RouteTable α) (method path : String) : Lookup α :=
  match table.tree.search path with
  | none => .notFound
  | some found =>
    match table.slots[found.slot]? with
    | none => .notFound
    | some slot =>
      match slot.pattern.captures? found.params with
      | none => .notFound
      | some captures => slot.lookup method captures

def RouteTable.routes (table : RouteTable α) : List (String × String) :=
  table.slots.flatMap fun slot => slot.handlers.map fun (method, _) => (method, slot.pattern.source)

def RouteTable.size (table : RouteTable α) : Nat :=
  table.slots.foldl (fun size slot => size + slot.handlers.length) 0

def RouteTable.isEmpty (table : RouteTable α) : Bool :=
  table.size = 0

end MediaServer
