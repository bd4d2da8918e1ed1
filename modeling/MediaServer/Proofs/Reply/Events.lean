import MediaServer.Proofs.Reply.Shapes

namespace MediaServer

/-- The event tells what became of a request: that its result is sent, or why it cannot be. -/
def Event.isOutcome (event : Event) : Bool :=
  event.message ∈ ["Replying with result", "Failed to encode response", "Failed to open media for streaming",
    "Failed to open generated image"]

/-- The event tells the detail of an error. -/
def Event.isDetail (event : Event) : Bool :=
  event.message = "Handler returned an error"

/-- The code and the detail of an error that has one. -/
def Reply.detail? : Reply → Option (String × String)
  | .error fault => fault.detail?.map (fault.code.text, ·)
  | _ => none

/-- What is told of a reply that cannot be encoded. The JSON of the server's own always can. -/
def Reply.failureMessage? : Reply → Option String
  | .raw _ => some "Failed to encode response"
  | .media _ => some "Failed to open media for streaming"
  | .image _ => some "Failed to open generated image"
  | _ => none

/-- How many bytes a source seems to hold. -/
def Source.size? (source : Source) (disk : Disk) : Option Nat :=
  match source with
  | .memory bytes => some bytes.length
  | .file path =>
    match disk.find path with
    | .ok (some (.file content)) => some content.length
    | .ok (some .directory) => some directorySize
    | _ => none

/-- The reply has a JSON form, or its source is there and seems to hold what is declared. -/
def Reply.Encodable (disk : Disk) : Reply → Prop
  | .empty => True
  | .error _ => True
  | .raw value => ∃ json, value = .ok json
  | .media stream => ∃ size, stream.source.size? disk = some size ∧ stream.sizeBytes ≤ size
  | .image generated => ∃ size, generated.source.size? disk = some size

/-- The events of an encoded reply tell what was answered. One event tells the outcome, under the name of the
reply; the detail of an error is told if there is one; a logged body is the body that is sent, under its
status; and a logged size is the number of bytes that are sent, unless they were to come from a directory. -/
structure Reply.LoggedAs (reply : Reply) (disk : Disk) (response : Response) (events : List Event) : Prop where
  outcome : ∃ event, events.filter Event.isOutcome = [event] ∧
    event.fields.lookup "result" = some reply.kind ∧
    (reply.Encodable disk → event.message = "Replying with result") ∧
    (¬ reply.Encodable disk → some event.message = reply.failureMessage? ∧ response = .genericError)
  detail : events.filter Event.isDetail = reply.detail?.toList.map fun (code, detail) => .handlerFailed code detail
  json : ∀ kind status body, .repliedJson kind status body ∈ events →
    response.status = status ∧ response.payload = .bytes (Utf8.encode body)
  size : ∀ kind contentType filename size, .repliedMedia kind contentType filename size ∈ events →
    ∀ sizes, (reply.Regular disk → (response.payload.chunks sizes).flatten.length = size) ∧
      (¬ reply.Regular disk → (response.payload.chunks sizes).flatten.length = 0)

/-- All that an encoder can make of a reply, and log on the way. -/
inductive Reply.Recorded (disk : Disk) : Reply → Response → List Event → Prop
  | json {reply : Reply} {status : Nat} (body : String) (encodable : reply.Encodable disk) :
      Recorded disk reply (.ofJson status (Utf8.encode body))
        ((reply.detail?.toList.map fun (code, detail) => .handlerFailed code detail) ++
          [.repliedJson reply.kind status body])
  | jsonFailed (reason : String) :
      Recorded disk (.raw (.error reason)) .genericError [.jsonFailed (Reply.raw (.error reason)).kind reason]
  | media {stream : MediaStream} {payload : Payload}
      (opened : (stream.source.open (some stream.sizeBytes) disk).1 = .ok payload) :
      Recorded disk (.media stream) ⟨200, stream.headers.1, payload⟩
        (.repliedMedia (Reply.media stream).kind stream.contentType stream.filename stream.sizeBytes ::
          stream.headers.2)
  | mediaFailed {stream : MediaStream} {reason : String}
      (failed : (stream.source.open (some stream.sizeBytes) disk).1 = .error reason) :
      Recorded disk (.media stream) .genericError [.mediaFailed (Reply.media stream).kind reason]
  | image {image : GeneratedImage} {payload : Payload} (opened : (image.source.open none disk).1 = .ok payload) :
      Recorded disk (.image image) ⟨200, [("content-type", contentTypeValue image.contentType)], payload⟩
        [.repliedImage (Reply.image image).kind image.contentType]
  | imageFailed {image : GeneratedImage} {reason : String}
      (failed : (image.source.open none disk).1 = .error reason) :
      Recorded disk (.image image) .genericError [.imageFailed (Reply.image image).kind reason]

section Recording

variable {disk : Disk} {reply : Reply} {response : Response} {events : List Event}

theorem Reply.encode_recorded (reply : Reply) (disk : Disk) :
    reply.Recorded disk (reply.encode disk).1 (reply.encode disk).2.1 := by
  cases reply with
  | empty => exact @Recorded.json disk .empty 200 (Json.object []).toText trivial
  | error fault =>
    have told := @Recorded.json disk (.error fault) fault.code.status fault.body.toText trivial
    rcases detail : fault.detail? with _ | detail
    · simpa [encode, encodeJson, ApiError.events, detail?, detail] using told
    · simpa [encode, encodeJson, ApiError.events, detail?, detail] using told
  | media stream =>
    rw [encode, MediaStream.encode]
    rcases opened : stream.source.open (some stream.sizeBytes) disk with ⟨reason | payload, later⟩
    · exact .mediaFailed (congrArg Prod.fst opened)
    · exact .media (congrArg Prod.fst opened)
  | image generated =>
    rw [encode, GeneratedImage.encode]
    rcases opened : generated.source.open none disk with ⟨reason | payload, later⟩
    · exact .imageFailed (congrArg Prod.fst opened)
    · exact .image (congrArg Prod.fst opened)
  | raw value =>
    cases value with
    | ok value => exact @Recorded.json disk (.raw (.ok value)) 200 value.toText ⟨value, rfl⟩
    | error reason => exact .jsonFailed reason

theorem servedLength_eq_ok_iff {available : Nat} {declared? : Option Nat} :
    (∃ length, servedLength available declared? = .ok length) ↔ ∀ declared ∈ declared?, declared ≤ available := by
  cases declared? with
  | none => simp [servedLength]
  | some declared =>
    by_cases short : available < declared
    · simp [servedLength, short]
    · simp [servedLength, short, Nat.le_of_not_lt short]

/-- A source is opened exactly if it is there and seems to hold what is declared. -/
theorem Source.open_ok_iff {source : Source} {declared? : Option Nat} :
    (∃ payload, (source.open declared? disk).1 = .ok payload) ↔
      ∃ size, source.size? disk = some size ∧ ∀ declared ∈ declared?, declared ≤ size := by
  have made : ∀ (available : Nat) (cut : Nat → Payload),
      (∃ payload, (servedLength available declared?).map cut = .ok payload) ↔
        ∀ declared ∈ declared?, declared ≤ available := by
    intro available cut
    rw [← servedLength_eq_ok_iff]
    cases servedLength available declared? <;> simp [Except.map]
  cases source with
  | memory bytes => simp [Source.open, size?, made]
  | file path =>
    rw [Source.open, Disk.open, size?]
    rcases disk.find path with fault | _ | (content | _)
    · simp
    · simp
    · simp [DiskNode.payload, made]
    · simp [DiskNode.payload, made]

/-- What is read of a directory is nothing. -/
theorem Source.open_directory {path : DiskPath} {declared : Nat} {payload : Payload}
    (there : disk.find path = .ok (some .directory))
    (opened : ((Source.file path).open (some declared) disk).1 = .ok payload) (sizes : Nat → Nat) :
    (payload.chunks sizes).flatten = [] := by
  rw [Source.open, Disk.open, there] at opened
  simp only [DiskNode.payload] at opened
  rcases served : servedLength directorySize (some declared) with fault | length
  · rw [served] at opened
    cases opened
  · rw [served, Except.map] at opened
    by_cases none : length = 0
    · rw [if_pos none] at opened
      cases opened
      rfl
    · rw [if_neg none] at opened
      cases opened
      rfl

theorem Reply.source_of_file? {stream : MediaStream} {path : DiskPath}
    (read : path ∈ (Reply.media stream).file?) : stream.source = .file path := by
  obtain ⟨contentType, filename, sizeBytes, source⟩ := stream
  cases source with
  | memory bytes => cases read
  | file other =>
    cases read
    rfl

theorem MediaStream.headers_events (stream : MediaStream) :
    stream.headers.2 = [] ∨ stream.headers.2 = [.filenameOmitted stream.filename] := by
  rw [headers]
  cases Headers.insert? [("content-type", contentTypeValue stream.contentType)] "content-disposition"
    (contentDisposition stream.filename) with
  | none => exact Or.inr rfl
  | some headers => exact Or.inl rfl

/-- What is opened with a declared length yields as many bytes, but a directory yields none. -/
theorem MediaStream.open_yields {stream : MediaStream} {payload : Payload}
    (opened : (stream.source.open (some stream.sizeBytes) disk).1 = .ok payload) (sizes : Nat → Nat) :
    ((Reply.media stream).Regular disk → (payload.chunks sizes).flatten.length = stream.sizeBytes) ∧
      (¬ (Reply.media stream).Regular disk → (payload.chunks sizes).flatten.length = 0) := by
  constructor
  · intro regular
    have named : ∀ path, stream.source = .file path → disk.find path ≠ .ok (some .directory) :=
      fun path source => regular path (Reply.file?_media source)
    obtain ⟨content, known, long⟩ := Source.open_length named opened
    rw [Payload.chunks_flatten known, long]
  · intro irregular
    simp only [Reply.Regular, not_forall, not_not] at irregular
    obtain ⟨path, read, there⟩ := irregular
    rw [Reply.source_of_file? read] at opened
    rw [Source.open_directory there opened, List.length_nil]

theorem Reply.media_encodable_iff {stream : MediaStream} : (Reply.media stream).Encodable disk ↔
    ∃ payload, (stream.source.open (some stream.sizeBytes) disk).1 = .ok payload := by
  rw [Source.open_ok_iff]
  simp [Encodable]

theorem Reply.image_encodable_iff {generated : GeneratedImage} : (Reply.image generated).Encodable disk ↔
    ∃ payload, (generated.source.open none disk).1 = .ok payload := by
  rw [Source.open_ok_iff]
  simp [Encodable]

/-- A reply that cannot be encoded is told of by one event. -/
theorem Reply.LoggedAs.failed {event : Event} (kind : event.fields.lookup "result" = some reply.kind)
    (told : some event.message = reply.failureMessage?) (stopped : ¬ reply.Encodable disk) :
    reply.LoggedAs disk .genericError [event] := by
  have undetailed : reply.detail? = none := by
    cases reply with
    | error fault => cases told
    | _ => rfl
  have message : event.message = "Failed to encode response" ∨
      event.message = "Failed to open media for streaming" ∨
        event.message = "Failed to open generated image" := by
    cases reply with
    | raw value => exact Or.inl (Option.some.inj told)
    | media stream => exact Or.inr (Or.inl (Option.some.inj told))
    | image generated => exact Or.inr (Or.inr (Option.some.inj told))
    | empty => cases told
    | error fault => cases told
  constructor
  · refine ⟨event, ?_, kind, fun able => absurd able stopped, fun _ => ⟨told, rfl⟩⟩
    rcases message with same | same | same <;> simp [Event.isOutcome, same]
  · rw [undetailed]
    rcases message with same | same | same <;> simp [Event.isDetail, same]
  · intro kind status body member
    obtain rfl := List.mem_singleton.mp member
    simp [Event.message] at message
  · intro kind contentType filename size member
    obtain rfl := List.mem_singleton.mp member
    simp [Event.message] at message

theorem Reply.Recorded.loggedAs (recorded : reply.Recorded disk response events) :
    reply.LoggedAs disk response events := by
  cases recorded with
  | jsonFailed reason => exact .failed rfl rfl (by simp [Encodable])
  | mediaFailed failed => exact .failed rfl rfl (by simp [media_encodable_iff, failed])
  | imageFailed failed => exact .failed rfl rfl (by simp [image_encodable_iff, failed])
  | @json reply status body encodable =>
    rcases detail : reply.detail? with _ | detail
    all_goals
      constructor
      · exact ⟨.repliedJson reply.kind status body, rfl, rfl, fun _ => rfl, absurd encodable⟩
      · rw [detail]
        rfl
      · intro kind told text member
        obtain ⟨rfl, rfl, rfl⟩ : kind = reply.kind ∧ told = status ∧ text = body := by simpa using member
        exact ⟨rfl, rfl⟩
      · simp
  | @media stream payload opened =>
    have able : (Reply.media stream).Encodable disk := media_encodable_iff.mpr ⟨payload, opened⟩
    have yields := MediaStream.open_yields opened
    rcases stream.headers_events with omitted | omitted
    all_goals
      rw [omitted]
      constructor
      · exact ⟨.repliedMedia _ _ _ _, rfl, rfl, fun _ => rfl, absurd able⟩
      · rfl
      · simp
      · intro kind contentType filename size member
        obtain ⟨rfl, rfl, rfl, rfl⟩ : kind = (Reply.media stream).kind ∧ contentType = stream.contentType ∧
          filename = stream.filename ∧ size = stream.sizeBytes := by simpa using member
        exact yields
  | @image generated payload opened =>
    have able : (Reply.image generated).Encodable disk := image_encodable_iff.mpr ⟨payload, opened⟩
    constructor
    · exact ⟨.repliedImage _ _, rfl, rfl, fun _ => rfl, absurd able⟩
    · rfl
    · simp
    · simp

/-- No encoder speaks of how the request came in. -/
theorem Reply.Recorded.silent (recorded : reply.Recorded disk response events) :
    ∀ event ∈ events, event.message ≠ "Received request" ∧ event.message ≠ "Host is not served here, rejecting" := by
  cases recorded with
  | @json reply status body encodable =>
    rcases reply.detail? with _ | detail <;> simp [Event.message]
  | @media stream payload opened =>
    rcases stream.headers_events with omitted | omitted <;> simp [omitted, Event.message]
  | _ => simp [Event.message]

/-- Events that speak of how the request came in tell nothing of the answer. -/
theorem Reply.LoggedAs.after {first : List Event} (logged : reply.LoggedAs disk response events)
    (spoken : ∀ event ∈ first,
      event.message = "Received request" ∨ event.message = "Host is not served here, rejecting") :
    reply.LoggedAs disk response (first ++ events) := by
  have without : ∀ kind : Event → Bool, (∀ event ∈ first, kind event = false) →
      (first ++ events).filter kind = events.filter kind := by
    intro kind silent
    rw [List.filter_append, List.filter_eq_nil_iff.mpr (by simpa using silent), List.nil_append]
  constructor
  · rw [without]
    · exact logged.outcome
    · intro event member
      rcases spoken event member with same | same <;> simp [Event.isOutcome, same]
  · rw [without]
    · exact logged.detail
    · intro event member
      rcases spoken event member with same | same <;> simp [Event.isDetail, same]
  · intro kind status body member
    rcases List.mem_append.mp member with front | own
    · simpa [Event.message] using spoken _ front
    · exact logged.json kind status body own
  · intro kind contentType filename size member
    rcases List.mem_append.mp member with front | own
    · simpa [Event.message] using spoken _ front
    · exact logged.size kind contentType filename size own

/-- However a reply is encoded, the events tell what was answered. -/
theorem Reply.encode_loggedAs (reply : Reply) (disk : Disk) :
    reply.LoggedAs disk (reply.encode disk).1 (reply.encode disk).2.1 :=
  (reply.encode_recorded disk).loggedAs

end Recording

end MediaServer
