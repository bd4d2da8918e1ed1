import MediaServer.Text.Digits

namespace MediaServer

/-- The classes of characters a captured part of a path is held to. -/
inductive CaptureClass
  | authority
  | mediaId
  | filename
  | tail
  deriving DecidableEq, Repr

def CaptureClass.ofName? (name : String) : Option CaptureClass :=
  if name = "authority" then some .authority
  else if name = "media_id" then some .mediaId
  else if name = "filename" then some .filename
  else if name = "*" then some .tail
  else none

def CaptureClass.name : CaptureClass → String
  | .authority => "authority"
  | .mediaId => "media_id"
  | .filename => "filename"
  | .tail => "*"

def isAlphanumeric (c : Char) : Bool :=
  ('a' ≤ c && c ≤ 'z') || ('A' ≤ c && c ≤ 'Z') || isDigit c

/-- Domains may have dots, hyphens and underscores, and a port after a colon;
ids have letters and digits only; file names may have dots, underscores and hyphens. -/
def CaptureClass.admits : CaptureClass → Char → Bool
  | .authority, c => isAlphanumeric c || c == '.' || c == ':' || c == '-' || c == '_'
  | .mediaId, c => isAlphanumeric c
  | .filename, c => isAlphanumeric c || c == '.' || c == '_' || c == '-'
  | .tail, _ => true

/-- A value is of a class if it has only characters of it; only a tail may be empty. -/
def CaptureClass.accepts (kind : CaptureClass) (value : String) : Bool :=
  (kind = .tail || !value.isEmpty) && value.toList.all kind.admits

theorem CaptureClass.ofName?_name (kind : CaptureClass) : ofName? kind.name = some kind := by
  cases kind <;> rfl

theorem CaptureClass.tail_accepts (value : String) : CaptureClass.tail.accepts value = true := by
  simp [accepts, admits]

end MediaServer
