import MediaServer.Proofs.Gateway.Upload
import MediaServer.Proofs.Reply.Payload

namespace MediaServer

/-- A response that sends these bytes as a file of this type and name. Who reads the name as a quoted text
gets it back, and nothing is left over. -/
structure Response.Delivers (response : Response) (bytes type : Bytes) (name : String) : Prop where
  status : response.status = 200
  content : ∀ sizes, (response.payload.chunks sizes).flatten = bytes
  length : response.headers.values "content-length" = [Utf8.encode (toString bytes.length)]
  type : response.headers.values "content-type" = [type]
  disposition : ∃ quoted : String,
    response.headers.values "content-disposition" = [Utf8.encode ("inline; filename=\"" ++ quoted)] ∧
      Quoted.read? quoted.toList = some (name.toList, [])

/-- What the stage of a download of an upload says. -/
def Request.DownloadStage (upload : Request) : Stage → Prop
  | .routed _ handler captures =>
    handler = Endpoint.download.handler ∧
      captures = [("server", upload.host), ("media_id", upload.newId)]
  | .handled _ reply => reply = .media upload.stream
  | .answered response =>
    response = .rateLimited ∨
      (response.finish "GET").Delivers upload.bytes upload.sentType upload.sentName
  | _ => True

/-- How many steps a request has taken that has not waited. -/
def Stage.progress : Stage → Nat
  | .arrived => 0
  | .admitted => 1
  | .numbered _ => 2
  | .routed _ _ _ => 3
  | .handled _ _ => 4
  | .answered _ => 5

theorem isStoreKey_of_accepts {id : String} (accepted : CaptureClass.mediaId.accepts id = true) :
    isStoreKey id = true := by
  have filled := CaptureClass.ne_empty_of_accepts (by decide) accepted
  have noSlash : '/' ∉ id.toList := CaptureClass.not_mem_of_accepts accepted rfl
  have noBackslash : '\\' ∉ id.toList := CaptureClass.not_mem_of_accepts accepted rfl
  have noDot : '.' ∉ id.toList := CaptureClass.not_mem_of_accepts accepted rfl
  have notHere : id ≠ "." := by
    rintro rfl
    exact noDot (by decide +kernel)
  have notAbove : id ≠ ".." := by
    rintro rfl
    exact noDot (by decide +kernel)
  simp [isStoreKey, filled, noSlash, noBackslash, notHere, notAbove]

theorem contentDisposition_reads (name : String) :
    ∃ quoted : String, contentDisposition name = "inline; filename=\"" ++ quoted ∧
      Quoted.read? quoted.toList = some (name.toList, []) := by
  have joined : ∀ (opening closing : String) (text : List Char),
      opening ++ String.ofList text ++ closing = opening ++ String.ofList (text ++ closing.toList) := by
    intro opening closing text
    rw [String.ofList_append, String.ofList_toList, String.append_assoc]
  refine ⟨_, joined _ _ _, ?_⟩
  rw [String.toList_ofList]
  exact Quoted.read?_escape name.toList []

theorem Response.finish_of_file {response : Response} {content : Bytes} (file : response.payload = .file content) :
    response.finish "GET" = response := by
  rw [finish, if_neg (by decide +kernel), withLength, file]
  rfl

theorem Response.status_finish (response : Response) (method : String) :
    (response.finish method).status = response.status := by
  have kept : response.withLength.status = response.status := by
    unfold withLength
    split
    · rfl
    split <;> rfl
  unfold finish
  split <;> exact kept

theorem Response.payload_finish {method : String} (noHead : method ≠ "HEAD") (response : Response) :
    (response.finish method).payload = response.payload := by
  rw [finish, if_neg noHead, withLength]
  split
  · rfl
  split <;> rfl

/-- A file of the declared size with a name that can be sent is delivered, whatever is set besides. -/
theorem MediaStream.delivers {stream : MediaStream} {base : BaseHeaders} {bytes : Bytes}
    (size : stream.sizeBytes = bytes.length) (visible : ∀ c ∈ stream.filename.toList, isControl c = false)
    (other : ∀ name ∈ ["content-length", "content-type", "content-disposition"], name ∉ base.map (·.1)) :
    Response.Delivers ⟨200, base.apply stream.headers.1, .file bytes⟩ bytes
      (contentTypeValue stream.contentType) stream.filename := by
  simp only [List.forall_mem_cons] at other
  obtain ⟨noLength, noType, noDisposition, _⟩ := other
  obtain ⟨quoted, written, read⟩ := contentDisposition_reads stream.filename
  constructor
  · rfl
  · exact Payload.chunks_flatten rfl
  · rw [BaseHeaders.values_apply noLength, values_length, size]
  · rw [BaseHeaders.values_apply noType, values_type]
  · refine ⟨quoted, ?_, read⟩
    rw [BaseHeaders.values_apply noDisposition, values_disposition visible, written]

variable {gateway : Gateway} {upload get : Request} {world : World}

/-- Whoever asks for a stored upload by its address gets it streamed under its own name. -/
theorem Request.Stored.download (stored : upload.Stored gateway.settings world.disk)
    (range : gateway.settings.uploads.maxBytes ≤ max64)
    (id : CaptureClass.mediaId.accepts upload.newId = true) (requestId : Nat) :
    ((gateway.context get requestId [("server", upload.host), ("media_id", upload.newId)]).download
      world.disk).reply = .media upload.stream := by
  have bound : upload.item.sizeBytes ≤ max64 := Nat.le_trans stored.bound range
  have origin : isStoreKey upload.item.origin = true := by rw [Request.item_origin, stored.key]
  have mediaId : isStoreKey upload.item.mediaId = true := by
    rw [Request.item_mediaId, isStoreKey_of_accepts id]
  have got := stored.holds.get origin mediaId bound rfl
  rw [Request.item_origin, Request.item_mediaId] at got
  generalize chosen : gateway.context get requestId
    [("server", upload.host), ("media_id", upload.newId)] = context
  have captures : context.captures = [("server", upload.host), ("media_id", upload.newId)] := by
    rw [← chosen, Gateway.context]
  have served : upload.host ∈ context.settings.homeservers := by
    rw [← chosen, Gateway.context]
    exact Settings.serves_iff.mp stored.host
  have server : context.capture? "server" = some upload.host := by simp [Context.capture?, captures]
  have named : context.capture? "media_id" = some upload.newId := by
    simp [Context.capture?, captures, lookup_cons_if]
  have filename : context.capture? "filename" = none := by simp [Context.capture?, captures, lookup_cons_if]
  have found : context.findMedia world.disk =
      (.ok upload.item, world.disk.noteOpened (recordPlace upload.host upload.newId)) := by
    rw [Context.findMedia_of_served served server named, Disk.stored, got]
  simp only [Context.download, found, filename, Except.map, Option.getD_none, Reply.ofExcept,
    Request.item_filename, Request.stream]

theorem Gateway.answer_stage (requestId : Nat) (reply : Reply) :
    (gateway.answer world get requestId reply).2 =
      .answered { (reply.encode world.disk).1 with
        headers := (BaseHeaders.ofServer gateway.settings.general.serverName).apply
          (reply.encode world.disk).1.headers } :=
  rfl

theorem Request.Stored.answer (stored : upload.Stored gateway.settings world.disk) (requestId : Nat) :
    ∃ response, (gateway.answer world get requestId (.media upload.stream)).2 = .answered response ∧
      (response.finish "GET").Delivers upload.bytes upload.sentType upload.sentName := by
  have there : world.disk.HasFile (itemPlace upload.host upload.newId) upload.bytes := stored.holds.item
  have encoded := MediaStream.encode_of_hasFile upload.stream_source there upload.stream_sizeBytes
  have visible : ∀ c ∈ upload.stream.filename.toList, isControl c = false := by
    rw [upload.stream_filename]
    exact upload.sentName_visible
  have delivers := MediaStream.delivers upload.stream_sizeBytes visible
    (BaseHeaders.ofServer_names gateway.settings.general.serverName)
  rw [upload.stream_filename, upload.contentTypeValue_stream] at delivers
  refine ⟨_, gateway.answer_stage requestId _, ?_⟩
  rw [Reply.encode, encoded]
  dsimp only
  rw [Response.finish_of_file rfl]
  exact delivers

/-- The steps of a download of a stored upload. It never waits. -/
theorem Gateway.download_step {stage : Stage} (stored : upload.Stored gateway.settings world.disk)
    (range : gateway.settings.uploads.maxBytes ≤ max64)
    (id : CaptureClass.mediaId.accepts upload.newId = true)
    (served : gateway.settings.serves get.host = true)
    (found : gateway.routes.lookup get.method get.uri.path =
      .found Endpoint.download.handler [("server", upload.host), ("media_id", upload.newId)])
    (sofar : upload.DownloadStage stage) :
    upload.DownloadStage (gateway.step world get stage).2 ∧
      (stage.progress < (gateway.step world get stage).2.progress ∨
        (gateway.step world get stage).2.progress = 5) := by
  cases stage with
  | arrived =>
    rcases (@step_arrived gateway world get).2 with next | next
    · rw [next]
      exact ⟨trivial, Or.inl (by simp [Stage.progress])⟩
    · rw [next]
      exact ⟨Or.inl rfl, Or.inr rfl⟩
  | admitted => exact ⟨trivial, Or.inl (by simp [step, World.number, Stage.progress])⟩
  | numbered requestId =>
    rw [step, route, if_pos served, found]
    exact ⟨⟨rfl, rfl⟩, Or.inl (by simp [Stage.progress])⟩
  | routed requestId handler captures =>
    obtain ⟨rfl, rfl⟩ := sofar
    have reply := @Request.Stored.download _ _ get _ stored range id requestId
    generalize given : gateway.context get requestId
      [("server", upload.host), ("media_id", upload.newId)] = context at reply
    have handled : Endpoint.download.handler context world.disk = some (context.download world.disk) := rfl
    rw [← given] at handled
    rw [step, handle_disk handled, given]
    exact ⟨reply, Or.inl (by simp [Stage.progress])⟩
  | handled requestId reply =>
    obtain rfl := sofar
    obtain ⟨response, answered, delivers⟩ := stored.answer requestId
    rw [step, answered]
    exact ⟨Or.inr delivers, Or.inr rfl⟩
  | answered response => exact ⟨sofar, Or.inr rfl⟩

end MediaServer
