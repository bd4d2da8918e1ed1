import MediaServer.Gateway.Context
import MediaServer.Route.Media
import MediaServer.Storage.Store
import MediaServer.Text.Space

namespace MediaServer

def defaultUploadName : String := "upload"

/-- A file name without control characters, which no header can hold. -/
def sanitizeFilename (name : String) : String :=
  String.ofList (name.toList.filter (!isControl ·))

def Context.uploadType (context : Context) : String :=
  ((context.header? "content-type").filter (· != "")).getD "application/octet-stream"

def Context.uploadName (context : Context) : String :=
  (((context.param? "filename").map sanitizeFilename).filter (· != "")).getD defaultUploadName

def Context.storeUpload (context : Context) (bytes : Bytes) (disk : Disk) : Outcome :=
  match disk.put context.host context.uploadType context.uploadName bytes context.newId with
  | (.ok media, disk) =>
    let address := "mxc://" ++ media.origin ++ "/" ++ media.mediaId
    ⟨.raw (.ok (.object [("content_uri", .text address)])),
      [.uploaded media.mediaId media.sizeBytes], disk⟩
  | (.error fault, disk) =>
    ⟨.error ((ApiError.internal "Unexpected error uploading media").withDetail fault.message), [], disk⟩

/-- Refuses an upload that is announced as too large before it is read. -/
def Context.upload (context : Context) (disk : Disk) : Option Outcome :=
  let limit := context.settings.uploads.maxBytes
  if context.contentLength?.any (limit < ·) then some ⟨.error .mediaTooLarge, [], disk⟩
  else
    match (Incoming.read context.body? limit context.guard context.guardFirst).1 with
    | .waiting => none
    | .whole bytes => some (context.storeUpload bytes disk)
    | .refused (.tooLarge _) => some ⟨.error .mediaTooLarge, [], disk⟩
    | .refused .cancelled => some ⟨.error (.badRequest "Upload cancelled"), [.uploadAbandoned], disk⟩
    | .refused fault =>
      some ⟨.error ((ApiError.badRequest "Error reading upload").withDetail fault.message), [], disk⟩

/-- Looks up the item that the path names. Items of other servers are never here. -/
def Context.findMedia (context : Context) (disk : Disk) : Except ApiError StoredMedia × Disk :=
  match context.capture? "server", context.capture? "media_id" with
  | some server, some mediaId =>
    if !context.settings.serves server then (.error (.notFound "Media not found"), disk)
    else
      match disk.get server mediaId with
      | (.ok (some media), disk) => (.ok media, disk)
      | (.ok none, disk) => (.error (.notFound "Media not found"), disk)
      | (.error fault, disk) =>
        (.error ((ApiError.internal "Unexpected error looking up media").withDetail fault.message), disk)
  | _, _ => (.error (.badRequest "Missing server or media id"), disk)

def StoredMedia.stream (media : StoredMedia) (filename : String) : MediaStream :=
  ⟨media.contentType, filename, media.sizeBytes, .file media.location⟩

/-- The name of an item may be given in the path. -/
def Context.download (context : Context) (disk : Disk) : Outcome :=
  let (found, disk) := context.findMedia disk
  let answer := found.map fun media =>
    media.stream ((context.capture? "filename").getD media.filename)
  ⟨.ofExcept .media answer, [], disk⟩

/-- A dimension that is given has to be a positive number up to a limit. -/
def Context.dimension (context : Context) (name : String) (limit : Nat) :
    Except ApiError (Option Nat) :=
  let refusal := ApiError.badRequest (name ++ " must be between 1 and " ++ toString limit)
  match context.param? name with
  | none => .ok none
  | some text =>
    match readUnsigned? max32 text with
    | none => .error refusal
    | some value => if 0 < value && value ≤ limit then .ok (some value) else .error refusal

/-- What is wrong with the size and the method that a thumbnail is asked for, if anything. -/
def Context.thumbnailFault? (context : Context) : Option ApiError :=
  match context.dimension "width" context.settings.thumbnails.maxWidth with
  | .error fault => some fault
  | .ok _ =>
    match context.dimension "height" context.settings.thumbnails.maxHeight with
    | .error fault => some fault
    | .ok _ =>
      if (context.param? "method").all fun method => method == "crop" || method == "scale" then none
      else some (.badRequest "method must be crop or scale")

/-- Sends the item as it is, once the size that is asked for is acceptable. -/
def Context.thumbnail (context : Context) (disk : Disk) : Outcome :=
  match context.thumbnailFault? with
  | some fault => ⟨.error fault, [], disk⟩
  | none =>
    let (found, disk) := context.findMedia disk
    ⟨.ofExcept .media (found.map fun media => media.stream media.filename), [], disk⟩

def Context.previewUrl (context : Context) : ApiError :=
  match (context.param? "url").filter (· != "") with
  | none => .badRequest "No url provided"
  | some url =>
    if !context.settings.previewsEnabled then .notFound "URL previews are disabled"
    else (ApiError.internal "URL previews are not supported").withDetail ("url=" ++ url)

def identiconLimit : Nat := 512

def identiconSize : Nat := 96

/-- The identicon of a request, by a maker whose drawing may have effects. -/
def Context.drawIdenticon {m : Type → Type} [Monad m] (context : Context)
    (draw : String → Nat → Nat → m Bytes) : m (Except ApiError GeneratedImage) :=
  match context.dimension "width" identiconLimit with
  | .error fault => pure (.error fault)
  | .ok width =>
    match context.dimension "height" identiconLimit with
    | .error fault => pure (.error fault)
    | .ok height => do
      let bytes ← draw ((context.capture? "seed").getD "") (width.getD identiconSize)
        (height.getD identiconSize)
      return .ok (.png bytes)

def Context.identicon (context : Context) : Except ApiError GeneratedImage :=
  if !context.settings.identiconsEnabled then .error (.notFound "Identicons are disabled")
  else
    match context.identicons? with
    | none => .error (.notFound "Identicons are not available")
    | some draw => Id.run (context.drawIdenticon fun seed width height => pure (draw seed width height))

def Endpoint.handler : Endpoint → Handler
  | .upload => fun context disk => context.upload disk
  | .download => fun context disk => some (context.download disk)
  | .thumbnail => fun context disk => some (context.thumbnail disk)
  | .previewUrl => Handler.pure fun context => .error context.previewUrl
  | .identicon => Handler.pure fun context => .ofExcept .image context.identicon

end MediaServer
