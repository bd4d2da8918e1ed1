import MediaServer.Text.Escaped

namespace MediaServer

inductive Level
  | info
  | warn
  | error
  deriving DecidableEq, Repr

def Level.name : Level → String
  | .info => "INFO"
  | .warn => "WARN"
  | .error => "ERROR"

/-- All that the server logs about requests. -/
inductive Event
  | received (contentType contentLength query : String)
  | hostRejected
  | handlerFailed (code detail : String)
  | repliedJson (kind : String) (status : Nat) (body : String)
  | repliedMedia (kind contentType filename : String) (size : Nat)
  | repliedImage (kind contentType : String)
  | jsonFailed (kind reason : String)
  | mediaFailed (kind reason : String)
  | imageFailed (kind reason : String)
  | filenameOmitted (filename : String)
  | uploaded (mediaId : String) (size : Nat)
  | uploadAbandoned
  | limitExceeded (client : String)
  | serverNameInvalid (name : String)
  deriving DecidableEq, Repr

def Event.level : Event → Level
  | .received .. => .info
  | .hostRejected => .warn
  | .handlerFailed .. => .warn
  | .repliedJson .. => .info
  | .repliedMedia .. => .info
  | .repliedImage .. => .info
  | .jsonFailed .. => .error
  | .mediaFailed .. => .error
  | .imageFailed .. => .error
  | .filenameOmitted _ => .warn
  | .uploaded .. => .info
  | .uploadAbandoned => .info
  | .limitExceeded _ => .warn
  | .serverNameInvalid _ => .warn

def Event.message : Event → String
  | .received .. => "Received request"
  | .hostRejected => "Host is not served here, rejecting"
  | .handlerFailed .. => "Handler returned an error"
  | .repliedJson .. => "Replying with result"
  | .repliedMedia .. => "Replying with result"
  | .repliedImage .. => "Replying with result"
  | .jsonFailed .. => "Failed to encode response"
  | .mediaFailed .. => "Failed to open media for streaming"
  | .imageFailed .. => "Failed to open generated image"
  | .filenameOmitted _ => "Filename cannot be sent as Content-Disposition, omitting header"
  | .uploaded .. => "Media uploaded"
  | .uploadAbandoned => "Client went away mid-upload, discarding body"
  | .limitExceeded _ => "Rate limit exceeded"
  | .serverNameInvalid _ => "Invalid server name, using default"

/-- The named values of an event as they are printed. -/
def Event.fields : Event → List (String × String)
  | .received contentType contentLength query =>
    [("content_type", contentType), ("content_length", contentLength), ("query", query)]
  | .hostRejected => []
  | .handlerFailed code detail => [("code", code), ("detail", detail)]
  | .repliedJson kind status body => [("result", kind), ("status", toString status), ("body", body)]
  | .repliedMedia kind contentType filename size =>
    [("result", kind), ("content_type", contentType), ("filename", filename),
      ("size_bytes", toString size)]
  | .repliedImage kind contentType => [("result", kind), ("content_type", contentType)]
  | .jsonFailed kind reason => [("result", kind), ("error", reason)]
  | .mediaFailed kind reason => [("result", kind), ("error", reason)]
  | .imageFailed kind reason => [("result", kind), ("error", reason)]
  | .filenameOmitted filename => [("filename", Escaped.quote filename)]
  | .uploaded mediaId size => [("media_id", mediaId), ("size_bytes", toString size)]
  | .uploadAbandoned => []
  | .limitExceeded client => [("client", client)]
  | .serverNameInvalid name => [("server_name", name)]

def requestIdText (number : Nat) : String :=
  "REQ-" ++ toString number

/-- The request that events belong to. -/
structure Span where
  requestId : Nat
  method : String
  host : String
  resource : String
  client : String
  deriving DecidableEq, Repr

structure LogEntry where
  event : Event
  span? : Option Span
  deriving DecidableEq, Repr

end MediaServer
