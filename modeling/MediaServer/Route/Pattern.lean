import MediaServer.Route.Class
import MediaServer.Text.Split

namespace MediaServer

/-- One part of a pattern: a text that stands for itself, or a name for what stands there. -/
inductive Segment
  | literal (text : String)
  | capture (name : String) (kind : CaptureClass)
  deriving DecidableEq, Repr

/-- A pattern and the text it was written as. -/
structure RoutePattern where
  source : String
  segments : List Segment
  deriving DecidableEq, Repr

inductive PatternFault
  | noSlash
  | emptySegment
  | partialCapture
  | unterminated
  | noKind
  | invalidName
  | unknownKind
  | tailNotLast
  | duplicateName
  deriving DecidableEq, Repr

def PatternFault.message : PatternFault → String
  | .noSlash => "pattern must start with \x60/\x60"
  | .emptySegment => "empty path segment"
  | .partialCapture => "captures must span a whole segment"
  | .unterminated => "unterminated capture"
  | .noKind => "capture needs a \x60name:kind\x60 form"
  | .invalidName => "invalid capture name"
  | .unknownKind => "unknown capture kind"
  | .tailNotLast => "tail capture must be the last segment"
  | .duplicateName => "duplicate capture name"

def isBrace (c : Char) : Bool :=
  c == '\x7b' || c == '\x7d'

/-- Letters, digits and underscores, at least one. -/
def isCaptureName (name : List Char) : Bool :=
  !name.isEmpty && name.all fun c => isAlphanumeric c || c == '_'

/-- Reads what stands between the braces of a capture. -/
def Segment.readCapture (isLast : Bool) (names : List String) (inside : List Char) :
    Except PatternFault Segment :=
  match cutAt ':' inside with
  | (_, none) => .error .noKind
  | (name, some kindName) =>
    if !isCaptureName name then .error .invalidName
    else
      match CaptureClass.ofName? (String.ofList kindName) with
      | none => .error .unknownKind
      | some kind =>
        if kind = .tail && !isLast then .error .tailNotLast
        else if names.contains (String.ofList name) then .error .duplicateName
        else .ok (.capture (String.ofList name) kind)

/-- Reads one part of a pattern; `names` are those the parts before it capture. -/
def Segment.read (isLast : Bool) (names : List String) (piece : List Char) :
    Except PatternFault Segment :=
  match piece with
  | [] => .error .emptySegment
  | '\x7b' :: inner =>
    if inner.getLast? = some '\x7d' then Segment.readCapture isLast names inner.dropLast
    else .error .unterminated
  | piece =>
    if piece.any isBrace then .error .partialCapture else .ok (.literal (String.ofList piece))

def Segment.names : Segment → List String
  | .literal _ => []
  | .capture name _ => [name]

def Segment.readAll : (names : List String) → List (List Char) → Except PatternFault (List Segment)
  | _, [] => .ok []
  | names, piece :: others => do
    let segment ← Segment.read others.isEmpty names piece
    let segments ← readAll (names ++ segment.names) others
    return segment :: segments

/-- Reads a pattern: each part after a slash is a literal without braces, or a name and the
name of a class between braces. Names differ, and only the last part may capture a tail. -/
def RoutePattern.parse (text : String) : Except PatternFault RoutePattern :=
  match text.toList with
  | '/' :: rest => (Segment.readAll [] (pieces '/' rest)).map fun segments => ⟨text, segments⟩
  | _ => .error .noSlash

def Segment.write : Segment → List Char
  | .literal text => text.toList
  | .capture name kind => '\x7b' :: name.toList ++ ':' :: kind.name.toList ++ ['\x7d']

/-- The text of a pattern with these parts. -/
def Segment.writeAll (segments : List Segment) : String :=
  String.ofList (segments.flatMap fun segment => '/' :: segment.write)

/-- A capture for which there is more than a segment. -/
def Segment.isTail : Segment → Bool
  | .capture _ .tail => true
  | _ => false

def Segment.isOne : Segment → Bool
  | .capture _ kind => kind ≠ .tail
  | .literal _ => false

end MediaServer
