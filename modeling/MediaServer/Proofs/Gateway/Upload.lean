import MediaServer.Proofs.Gateway.Footprint
import MediaServer.Proofs.Message.Body

namespace MediaServer

def Request.bytes (request : Request) : Bytes :=
  request.body.chunks.flatten

/-- The type that an upload is sent out with: the header it came with, if that is text. -/
def Request.sentType (request : Request) : Bytes :=
  match request.headers.first? "content-type" with
  | none => Utf8.encode "application/octet-stream"
  | some value =>
    if Headers.isText value && !value.isEmpty then value else Utf8.encode "application/octet-stream"

/-- The file name that the query of a request gives, without control characters. -/
def Request.givenName (request : Request) : String :=
  sanitizeFilename (((Form.decode (request.uri.query?.getD "")).lookup "filename").getD "")

def Request.sentName (request : Request) : String :=
  if request.givenName = "" then "upload" else request.givenName

def Request.item (request : Request) : StoredMedia where
  origin := request.host
  mediaId := request.newId
  contentType := ((request.headers.text? "content-type").filter (· != "")).getD "application/octet-stream"
  filename := request.sentName
  sizeBytes := request.bytes.length
  location := itemPlace request.host request.newId

theorem Request.item_origin (request : Request) : request.item.origin = request.host := by
  rw [item]

theorem Request.item_mediaId (request : Request) : request.item.mediaId = request.newId := by
  rw [item]

theorem Request.item_filename (request : Request) : request.item.filename = request.sentName := by
  rw [item]

def Request.stream (request : Request) : MediaStream :=
  request.item.stream request.sentName

theorem Request.stream_filename (request : Request) : request.stream.filename = request.sentName := by
  rw [stream, StoredMedia.stream]

theorem Request.stream_sizeBytes (request : Request) :
    request.stream.sizeBytes = request.bytes.length := by
  rw [stream, StoredMedia.stream, item]

theorem Request.stream_source (request : Request) :
    request.stream.source = .file (itemPlace request.host request.newId) := by
  rw [stream, StoredMedia.stream, item]

def Request.contentUri (request : Request) : Json :=
  .object [("content_uri", .text ("mxc://" ++ request.host ++ "/" ++ request.newId))]

theorem Request.contentTypeValue_stream (request : Request) :
    contentTypeValue request.stream.contentType = request.sentType := by
  have standard : contentTypeValue "application/octet-stream" = Utf8.encode "application/octet-stream" := by
    decide +kernel
  unfold stream StoredMedia.stream item sentType Headers.text?
  dsimp only
  rcases request.headers.first? "content-type" with _ | value
  · exact standard
  rw [Option.bind_some]
  by_cases text : Headers.isText value = true
  · have bytes := Headers.encode_of_isText text
    rw [if_pos text]
    rcases value with _ | ⟨byte, value⟩
    · exact standard
    · generalize written : String.ofList ((byte :: value).map fun byte => Char.ofNat byte.toNat) = shown
      have filled : shown ≠ "" := by
        rintro rfl
        rw [← String.toList_inj, String.toList_ofList] at written
        cases written
      rw [written] at bytes
      have kept : (some shown).filter (· != "") = some shown := by
        rw [Option.filter_some, if_pos (by simpa using filled)]
      rw [kept, Option.getD_some, contentTypeValue, bytes, if_pos (Headers.isLegal_of_isText text)]
      simp [text]
  · simpa [text] using standard

theorem Request.sentName_visible (request : Request) : ∀ c ∈ request.sentName.toList, isControl c = false := by
  unfold sentName
  split
  · exact defaultUploadName_visible
  · exact sanitizeFilename_visible _

variable {gateway : Gateway} {request : Request}

theorem Gateway.uploadName_context (requestId : Nat) (captures : Captures) :
    (gateway.context request requestId captures).uploadName = request.sentName := by
  have empty : sanitizeFilename "" = "" := by decide +kernel
  unfold Context.uploadName Context.param? Request.sentName Request.givenName context
  dsimp only
  rcases List.lookup "filename" _ with _ | given
  · rw [Option.getD_none, empty]
    rfl
  · rw [Option.getD_some, Option.map_some]
    generalize sanitizeFilename given = name
    by_cases nothing : name = ""
    · rw [if_pos nothing, nothing]
      rfl
    · rw [if_neg nothing, Option.filter_some, if_pos (by simpa using nothing), Option.getD_some]

/-- The whole body of a request arrived and is on the disk. -/
structure Request.Stored (settings : Settings) (request : Request) (disk : Disk) : Prop where
  host : settings.serves request.host = true
  key : isStoreKey request.host = true
  complete : request.body.ending = .complete
  bound : request.bytes.length ≤ settings.uploads.maxBytes
  holds : disk.Holds request.item request.bytes

/-- What the stage of an upload says of the disk. -/
def Request.UploadStage (settings : Settings) (request : Request) (disk : Disk) : Stage → Prop
  | .routed _ handler _ => settings.serves request.host = true ∧ handler = Endpoint.upload.handler
  | .handled _ reply =>
    (∃ fault, reply = .error fault) ∨ reply = .raw (.ok request.contentUri) ∧ request.Stored settings disk
  | .answered response => response.status = 200 →
    response.payload = .bytes (Utf8.encode request.contentUri.toText) ∧ request.Stored settings disk
  | _ => True

/-- Storing an upload either fails, or leaves the item on the disk and answers with its address. -/
theorem Gateway.storeUpload_cases (requestId : Nat) (captures : Captures) (disk : Disk) :
    (∃ fault, ((gateway.context request requestId captures).storeUpload request.bytes disk).reply =
      .error fault) ∨
    ((gateway.context request requestId captures).storeUpload request.bytes disk).reply =
        .raw (.ok request.contentUri) ∧
      isStoreKey request.host = true ∧
      ((gateway.context request requestId captures).storeUpload request.bytes disk).disk.Holds
        request.item request.bytes := by
  have name := @uploadName_context gateway request requestId captures
  generalize chosen : gateway.context request requestId captures = context at name
  have host : context.host = request.host := by rw [← chosen]; rfl
  have newId : context.newId = request.newId := by rw [← chosen]; rfl
  have type : context.uploadType = request.item.contentType := by rw [← chosen]; rfl
  unfold Context.storeUpload
  rcases put : disk.put context.host context.uploadType context.uploadName request.bytes context.newId with
    ⟨fault | media, new⟩
  · exact Or.inl ⟨_, rfl⟩
  · obtain ⟨same, key, holds⟩ := Disk.put_eq_ok put
    have item : media = request.item := by rw [same, host, newId, type, name]; rfl
    rw [item] at holds
    rw [host] at key
    rw [item]
    exact Or.inr ⟨rfl, key, holds⟩

/-- The steps of an upload: once it is answered without an error, its bytes are on the disk. -/
theorem Gateway.upload_step {world : World} {stage : Stage} {captures : Captures}
    (found : gateway.routes.lookup request.method request.uri.path =
      .found Endpoint.upload.handler captures)
    (sofar : request.UploadStage gateway.settings world.disk stage) :
    request.UploadStage gateway.settings (gateway.step world request stage).1.disk
      (gateway.step world request stage).2 := by
  cases stage with
  | arrived =>
    rcases (@step_arrived gateway world request).2 with next | next
    · rw [next]
      trivial
    · rw [next]
      intro ok
      cases ok
  | admitted => trivial
  | numbered requestId =>
    rw [step, route]
    by_cases served : gateway.settings.serves request.host = true
    · rw [if_pos served, found]
      exact ⟨served, rfl⟩
    · rw [if_neg served]
      exact Or.inl ⟨_, rfl⟩
  | routed requestId handler captures =>
    obtain ⟨served, rfl⟩ := sofar
    rw [step]
    rcases (gateway.context request requestId captures).upload_cases world.disk with
      waits | ⟨fault, events, refused⟩ | ⟨bytes, read, stored⟩
    · have handled : Endpoint.upload.handler (gateway.context request requestId captures) world.disk = none :=
        waits
      simp only [handle, handled]
      exact ⟨served, rfl⟩
    · have handled : Endpoint.upload.handler (gateway.context request requestId captures) world.disk =
          some ⟨.error fault, events, world.disk⟩ := refused
      rw [handle_disk handled]
      exact Or.inl ⟨fault, rfl⟩
    · obtain ⟨complete, joined, bound⟩ := Incoming.read_eq_whole read
      obtain rfl : bytes = request.bytes := joined
      have handled : Endpoint.upload.handler (gateway.context request requestId captures) world.disk =
          some ((gateway.context request requestId captures).storeUpload request.bytes world.disk) := stored
      rw [handle_disk handled]
      rcases gateway.storeUpload_cases requestId captures world.disk with failed | ⟨reply, key, holds⟩
      · exact Or.inl failed
      · exact Or.inr ⟨reply, served, key, complete, bound, holds⟩
  | handled requestId reply =>
    rcases sofar with ⟨fault, rfl⟩ | ⟨rfl, stored⟩
    · intro ok
      exact absurd ok fault.code.status_ne_ok
    · intro _
      exact ⟨rfl, stored⟩
  | answered response => exact sofar

theorem not_mem_places {upload other : Request} (uploadId : CaptureClass.mediaId.accepts upload.newId = true)
    (otherId : CaptureClass.mediaId.accepts other.newId = true) (different : other.newId ≠ upload.newId) :
    itemPlace upload.host upload.newId ∉ other.places ∧
      recordPlace upload.host upload.newId ∉ other.places ∧ [upload.host] ∉ other.places := by
  have noDot : ∀ {id : String}, CaptureClass.mediaId.accepts id = true → ∀ name, id ≠ name ++ ".json" := by
    intro id accepted
    exact ne_append_json_of_noDot (CaptureClass.not_mem_of_accepts accepted rfl)
  have unlike : upload.newId ≠ other.newId := fun same => different same.symm
  refine ⟨?_, ?_, ?_⟩
  · simp [Request.places, itemPlace, recordPlace, unlike, noDot uploadId]
  · have apart : upload.newId ++ ".json" ≠ other.newId := fun same => noDot otherId _ same.symm
    simp [Request.places, itemPlace, recordPlace, unlike, apart]
  · simp [Request.places, itemPlace, recordPlace]

theorem Request.Stored.kept {settings : Settings} {upload other : Request} {disk new : Disk}
    (stored : upload.Stored settings disk) (kept : disk.KeptIn other.places new)
    (uploadId : CaptureClass.mediaId.accepts upload.newId = true)
    (otherId : CaptureClass.mediaId.accepts other.newId = true) (different : other.newId ≠ upload.newId) :
    upload.Stored settings new := by
  obtain ⟨noItem, noRecord, noDirectory⟩ := not_mem_places uploadId otherId different
  exact { stored with holds := stored.holds.kept kept noDirectory noItem noRecord }

end MediaServer
