import MediaServer.Text.Split

namespace MediaServer

/-- What a request asks for: a path with an optional query, and the host if one is named. -/
structure Uri where
  host? : Option String
  path : String
  query? : Option String
  deriving DecidableEq, Repr

/-- The host within an authority: without user and port, but with the brackets of an address. -/
def Uri.hostOf (authority : List Char) : List Char :=
  let place := (pieces '@' authority).getLastD []
  if place.head? = some '[' then (cutAt ']' place).1 ++ [']'] else (cutAt ':' place).1

/-- A path with its query; an empty path is the root, and a fragment is dropped. -/
def Uri.ofTarget (host? : Option String) (target : List Char) : Uri :=
  let (path, query?) := cutAt '?' (cutAt '#' target).1
  ⟨host?, if path.isEmpty then "/" else String.ofList path, query?.map String.ofList⟩

/-- What follows the two slashes that end a scheme, if there are such. -/
def Uri.afterScheme? : List Char → Option (List Char)
  | ':' :: '/' :: '/' :: rest => some rest
  | '/' :: _ => none
  | _ :: rest => afterScheme? rest
  | [] => none

def Uri.endsAuthority (c : Char) : Bool :=
  c == '/' || c == '?' || c == '#'

/-- Reads `scheme://authority/path?query`, or else a path with a query. -/
def Uri.ofText (text : String) : Uri :=
  match Uri.afterScheme? text.toList with
  | some rest =>
    let (authority, target) := rest.span (!Uri.endsAuthority ·)
    Uri.ofTarget (some (String.ofList (Uri.hostOf authority))) target
  | none => Uri.ofTarget none text.toList

end MediaServer
