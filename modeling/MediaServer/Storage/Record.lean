import MediaServer.Json.Basic
import MediaServer.Json.Written
import MediaServer.Storage.Disk

namespace MediaServer

/-- What is known of a stored item, and where its bytes are. -/
structure StoredMedia where
  origin : String
  mediaId : String
  contentType : String
  filename : String
  sizeBytes : Nat
  location : DiskPath
  deriving DecidableEq, Repr

/-- The record of an item: all but its place, in a fixed order. -/
def StoredMedia.members (media : StoredMedia) : List (String × Json) := [
  ("origin", .text media.origin),
  ("media_id", .text media.mediaId),
  ("content_type", .text media.contentType),
  ("filename", .text media.filename),
  ("size_bytes", .int media.sizeBytes)]

def StoredMedia.record (media : StoredMedia) : Bytes :=
  Utf8.encode (Json.sheet media.members)

/-- The only value of a name; none if there is no value or more than one. -/
def Written.only? (name : String) (members : List (String × Written)) : Option Written :=
  match members.filter (·.1 == name) with
  | [(_, value)] => some value
  | _ => none

/-- An item from the values of its record. -/
def StoredMedia.ofValues? (location : DiskPath) (origin mediaId contentType filename size : Written) :
    Option StoredMedia := do
  let origin ← origin.text?
  let mediaId ← mediaId.text?
  let contentType ← contentType.text?
  let filename ← filename.text?
  let size ← size.natural? max64
  some ⟨origin, mediaId, contentType, filename, size, location⟩

/-- Each of the five names has to be there once; other names do no harm.
A list of five values is read in the order of the names. -/
def StoredMedia.ofWritten? (location : DiskPath) : Written → Option StoredMedia
  | .list [origin, mediaId, contentType, filename, size] =>
    StoredMedia.ofValues? location origin mediaId contentType filename size
  | .object members => do
    let members ← members.mapM fun (name, value) =>
      (Written.decodeBody? name).map fun name => (name, value)
    let origin ← Written.only? "origin" members
    let mediaId ← Written.only? "media_id" members
    let contentType ← Written.only? "content_type" members
    let filename ← Written.only? "filename" members
    let size ← Written.only? "size_bytes" members
    StoredMedia.ofValues? location origin mediaId contentType filename size
  | _ => none

def StoredMedia.read? (location : DiskPath) (record : Bytes) : Option StoredMedia :=
  (Written.read? record).bind (StoredMedia.ofWritten? location)

end MediaServer
