import MediaServer.Reply.Basic
import MediaServer.Reply.Response
import MediaServer.Log.Event
import MediaServer.Text.Quoted

namespace MediaServer

def jsonType : Bytes := Utf8.encode "application/json"

def anyType : String := "application/octet-stream"

def Response.ofJson (status : Nat) (body : Bytes) : Response :=
  ⟨status, [("content-type", jsonType)], .bytes body⟩

def genericErrorBody : String :=
  "\x7b\"code\":\"M_UNKNOWN\",\"message\":\"Unexpected error processing response\"\x7d"

/-- The response when no other can be made. -/
def Response.genericError : Response :=
  .ofJson 500 (Utf8.encode genericErrorBody)

def Response.rateLimited : Response :=
  .ofJson 429 (Utf8.encode (errorBody "M_LIMIT_EXCEEDED" "You are doing that too often").toText)

def encodeJson (kind : String) (status : Nat) (value : Except String Json) : Response × List Event :=
  match value with
  | .ok value => (.ofJson status (Utf8.encode value.toText), [.repliedJson kind status value.toText])
  | .error reason => (.genericError, [.jsonFailed kind reason])

/-- How much of a source is sent: what was declared, or all of it. -/
def servedLength (available : Nat) (declared? : Option Nat) : Except String Nat :=
  match declared? with
  | none => .ok available
  | some declared =>
    if available < declared then
      .error ("source holds " ++ toString available ++ " bytes but " ++ toString declared ++
        " were declared")
    else .ok declared

/-- What is sent of an opened file. Nothing is read if nothing is to be sent. -/
def DiskNode.payload (node : DiskNode) (declared? : Option Nat) : Except String Payload :=
  match node with
  | .file content => (servedLength content.length declared?).map fun length => .file (content.take length)
  | .directory => (servedLength directorySize declared?).map fun length =>
    if length = 0 then .file [] else .unreadable

/-- Opens a source. A source that is shorter than declared is not sent at all. -/
def Source.open (source : Source) (declared? : Option Nat) (disk : Disk) :
    Except String Payload × Disk :=
  match source with
  | .memory bytes =>
    ((servedLength bytes.length declared?).map fun length => .bytes (bytes.take length), disk)
  | .file path =>
    match disk.open path with
    | (.error fault, disk) => (.error fault.message, disk)
    | (.ok node, disk) => (node.payload declared?, disk)

/-- A content type as a header value; one that is no legal value is not sent. -/
def contentTypeValue (contentType : String) : Bytes :=
  if Headers.isLegal (Utf8.encode contentType) then Utf8.encode contentType else Utf8.encode anyType

/-- The headers of a stored item. A file name that no header can hold is left out. -/
def MediaStream.headers (stream : MediaStream) : Headers × List Event :=
  let headers : Headers := [("content-type", contentTypeValue stream.contentType)]
  let (headers, events) : Headers × List Event :=
    match headers.insert? "content-disposition" (contentDisposition stream.filename) with
    | some headers => (headers, [])
    | none => (headers, [.filenameOmitted stream.filename])
  (headers.insert "content-length" (Utf8.encode (toString stream.sizeBytes)), events)

def MediaStream.encode (stream : MediaStream) (kind : String) (disk : Disk) :
    Response × List Event × Disk :=
  match stream.source.open (some stream.sizeBytes) disk with
  | (.error reason, disk) => (.genericError, [.mediaFailed kind reason], disk)
  | (.ok payload, disk) =>
    let (headers, events) := stream.headers
    (⟨200, headers, payload⟩,
      .repliedMedia kind stream.contentType stream.filename stream.sizeBytes :: events, disk)

def GeneratedImage.encode (image : GeneratedImage) (kind : String) (disk : Disk) :
    Response × List Event × Disk :=
  match image.source.open none disk with
  | (.error reason, disk) => (.genericError, [.imageFailed kind reason], disk)
  | (.ok payload, disk) =>
    (⟨200, [("content-type", contentTypeValue image.contentType)], payload⟩,
      [.repliedImage kind image.contentType], disk)

/-- The detail of an error goes to the log. -/
def ApiError.events (error : ApiError) : List Event :=
  match error.detail? with
  | some detail => [.handlerFailed error.code.text detail]
  | none => []

/-- The response to an answer, what is logged on the way, and the disk afterwards. -/
def Reply.encode (reply : Reply) (disk : Disk) : Response × List Event × Disk :=
  match reply with
  | .empty =>
    let (response, events) := encodeJson reply.kind 200 (.ok (.object []))
    (response, events, disk)
  | .error fault =>
    let (response, events) := encodeJson reply.kind fault.code.status (.ok fault.body)
    (response, fault.events ++ events, disk)
  | .media stream => stream.encode reply.kind disk
  | .image generated => generated.encode reply.kind disk
  | .raw value =>
    let (response, events) := encodeJson reply.kind 200 value
    (response, events, disk)

end MediaServer
