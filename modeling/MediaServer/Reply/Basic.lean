import MediaServer.Json.Basic
import MediaServer.Storage.Disk

namespace MediaServer

/-- What went wrong, as clients are told. `other` holds any further code. -/
inductive ErrorCode
  | unknownToken
  | notFound
  | mediaTooLarge
  | badRequest
  | methodNotAllowed
  | unknown
  | other (code : String)
  deriving DecidableEq, Repr

def ErrorCode.text : ErrorCode → String
  | .unknownToken => "M_UNKNOWN_TOKEN"
  | .notFound => "M_NOT_FOUND"
  | .mediaTooLarge => "M_MEDIA_TOO_LARGE"
  | .badRequest => "M_BAD_REQUEST"
  | .methodNotAllowed => "M_METHOD_NOT_ALLOWED"
  | .unknown => "M_UNKNOWN"
  | .other code => code

def ErrorCode.status : ErrorCode → Nat
  | .unknownToken => 403
  | .notFound => 404
  | .mediaTooLarge => 413
  | .badRequest => 400
  | .methodNotAllowed => 405
  | .unknown => 500
  | .other _ => 500

/-- An error for the client. The detail is for the log alone. -/
structure ApiError where
  code : ErrorCode
  message : String
  detail? : Option String
  deriving DecidableEq, Repr

def ApiError.withDetail (error : ApiError) (detail : String) : ApiError :=
  { error with detail? := some detail }

def ApiError.authFailed : ApiError := ⟨.unknownToken, "Authentication Failed", none⟩

def ApiError.notFound (message : String) : ApiError := ⟨.notFound, message, none⟩

def ApiError.methodNotAllowed : ApiError := ⟨.methodNotAllowed, "Method not allowed", none⟩

def ApiError.badRequest (message : String) : ApiError := ⟨.badRequest, message, none⟩

def ApiError.mediaTooLarge : ApiError := ⟨.mediaTooLarge, "Media too large", none⟩

def ApiError.internal (message : String) : ApiError := ⟨.unknown, message, none⟩

def errorBody (code message : String) : Json :=
  .object [("code", .text code), ("message", .text message)]

def ApiError.body (error : ApiError) : Json :=
  errorBody error.code.text error.message

inductive Source
  | memory (bytes : Bytes)
  | file (path : DiskPath)
  deriving DecidableEq, Repr

/-- A stored item to be sent as it is. -/
structure MediaStream where
  contentType : String
  filename : String
  sizeBytes : Nat
  source : Source
  deriving DecidableEq, Repr

structure GeneratedImage where
  contentType : String
  source : Source
  deriving DecidableEq, Repr

def GeneratedImage.png (bytes : Bytes) : GeneratedImage :=
  ⟨"image/png", .memory bytes⟩

/-- What a handler answers. A raw answer is a value, or the reason why it has no JSON form. -/
inductive Reply
  | empty
  | error (error : ApiError)
  | media (stream : MediaStream)
  | image (image : GeneratedImage)
  | raw (value : Except String Json)

def Reply.kind : Reply → String
  | .empty => "empty"
  | .error _ => "error"
  | .media _ => "binary_stream"
  | .image _ => "generated_image"
  | .raw _ => "raw"

def Reply.ofOption : Option Reply → Reply
  | some reply => reply
  | none => .empty

def Reply.ofExcept {α : Type} (wrap : α → Reply) : Except ApiError α → Reply
  | .ok value => wrap value
  | .error fault => .error fault

end MediaServer
