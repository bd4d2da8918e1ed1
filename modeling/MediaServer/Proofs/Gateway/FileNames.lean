import MediaServer.Proofs.Gateway.Admission
import MediaServer.Proofs.Gateway.Download
import MediaServer.Proofs.Gateway.Shapes

namespace MediaServer

theorem isControl_of_isAlphanumeric {c : Char} (plain : isAlphanumeric c = true) : isControl c = false := by
  simp only [isAlphanumeric, isDigit_iff, Bool.or_eq_true, Bool.and_eq_true, decide_eq_true_eq, Char.le_def,
    UInt32.le_iff_toNat_le] at plain
  rw [isControl_eq_false_iff]
  have lower : 'a'.val.toNat = 0x61 ∧ 'z'.val.toNat = 0x7A := ⟨rfl, rfl⟩
  have upper : 'A'.val.toNat = 0x41 ∧ 'Z'.val.toNat = 0x5A := ⟨rfl, rfl⟩
  have code : c.val.toNat = c.toNat := rfl
  omega

/-- The characters of single parts of a path are ASCII letters, digits and a few marks. -/
theorem CaptureClass.visible_of_accepts {kind : CaptureClass} (single : kind ≠ .tail) {value : String}
    (accepted : kind.accepts value = true) : ∀ c ∈ value.toList, isControl c = false := by
  rw [accepts, Bool.and_eq_true, List.all_eq_true] at accepted
  intro c member
  have admitted := accepted.2 c member
  cases kind with
  | tail => exact absurd rfl single
  | mediaId => exact isControl_of_isAlphanumeric admitted
  | authority =>
    simp only [admits, Bool.or_eq_true, beq_iff_eq] at admitted
    rcases admitted with (((plain | rfl) | rfl) | rfl) | rfl
    · exact isControl_of_isAlphanumeric plain
    all_goals rfl
  | filename =>
    simp only [admits, Bool.or_eq_true, beq_iff_eq] at admitted
    rcases admitted with ((plain | rfl) | rfl) | rfl
    · exact isControl_of_isAlphanumeric plain
    all_goals rfl

/-- A reply that is read from a file has a name without control characters. -/
def Reply.Named : Reply → Prop
  | .media stream => ∀ c ∈ stream.filename.toList, isControl c = false
  | .image generated => ∃ bytes, generated.source = .memory bytes
  | _ => True

section Handlers

variable {context : Context} {disk : Disk} {limit : Nat}

theorem Context.findMedia_visible (holds : disk.HoldsUploads limit) {media : StoredMedia}
    (found : (context.findMedia disk).1 = .ok media) : ∀ c ∈ media.filename.toList, isControl c = false := by
  rcases context.findMedia_cases disk with ⟨fault, refused⟩ | ⟨server, mediaId, _, _, _, asked⟩
  · rw [refused] at found
    cases found
  · rw [asked] at found
    obtain ⟨item, uploadable, rfl, _⟩ := holds.get (Disk.get_of_stored found)
    exact uploadable.visible

theorem Reply.named_ofExcept {found : Except ApiError StoredMedia} {name : StoredMedia → String}
    (visible : ∀ media, found = .ok media → ∀ c ∈ (name media).toList, isControl c = false) :
    (Reply.ofExcept .media (found.map fun media => media.stream (name media))).Named := by
  cases found with
  | error fault => trivial
  | ok media => exact visible media rfl

/-- An item is sent under the name that the path gives, which is of the class of file names, or under its own. -/
theorem Context.download_named (holds : disk.HoldsUploads limit)
    (plain : ∀ name, context.capture? "filename" = some name → CaptureClass.filename.accepts name = true) :
    (context.download disk).reply.Named := by
  rcases looked : context.findMedia disk with ⟨found, later⟩
  simp only [download, looked]
  apply Reply.named_ofExcept
  rintro media rfl
  rcases given : context.capture? "filename" with _ | name
  · exact findMedia_visible holds (congrArg Prod.fst looked)
  · exact CaptureClass.visible_of_accepts (by decide) (plain name given)

theorem Context.thumbnail_named (holds : disk.HoldsUploads limit) : (context.thumbnail disk).reply.Named := by
  unfold thumbnail
  split
  · trivial
  · rcases looked : context.findMedia disk with ⟨found, later⟩
    apply Reply.named_ofExcept
    rintro media rfl
    exact findMedia_visible holds (congrArg Prod.fst looked)

theorem Context.identicon_named (context : Context) : (Reply.ofExcept .image context.identicon).Named := by
  rcases context.identicon_cases with ⟨_, made⟩ | ⟨_, refused⟩ | ⟨_, _, _, refused⟩
  · rw [made]
    exact ⟨_, rfl⟩
  · rw [refused]
    trivial
  · rw [refused]
    trivial

theorem Endpoint.handler_named (endpoint : Endpoint) (holds : disk.HoldsUploads limit)
    (plain : ∀ name, context.capture? "filename" = some name → CaptureClass.filename.accepts name = true)
    {outcome : Outcome} (handled : endpoint.handler context disk = some outcome) : outcome.reply.Named := by
  cases endpoint with
  | upload =>
    change context.upload disk = some outcome at handled
    rcases context.upload_cases disk with waits | ⟨fault, events, refused⟩ | ⟨bytes, _, stored⟩
    · rw [waits] at handled
      cases handled
    · rw [refused] at handled
      cases handled
      trivial
    · rw [stored] at handled
      cases handled
      unfold Context.storeUpload
      split <;> trivial
  | download =>
    cases handled
    exact Context.download_named holds plain
  | thumbnail =>
    cases handled
    exact Context.thumbnail_named holds
  | previewUrl =>
    cases handled
    trivial
  | identicon =>
    cases handled
    exact context.identicon_named

end Handlers

/-- What is handed on from one stage to the next: a file name in a path is of its class, and replies are named. -/
def Stage.Named : Stage → Prop
  | .routed _ _ captures =>
    ∀ name, captures.lookup "filename" = some name → CaptureClass.filename.accepts name = true
  | .handled _ reply => reply.Named
  | _ => True

variable {gateway : Gateway} {world : World} {request : Request} {stage : Stage} {disk : Disk}

theorem Gateway.route_named (media : gateway.BuiltIn) (requestId : Nat) :
    (gateway.route world request requestId).2.Named := by
  obtain ⟨naming, member, named⟩ : ∃ route ∈ MediaRoute.all,
      Segment.capture "filename" .filename ∈ route.segments := by decide
  unfold route
  split
  · split
    · rename_i found
      exact fun name captured => mediaRoutes_captured media found member named captured
    all_goals trivial
  · trivial

theorem Gateway.step_named (media : gateway.BuiltIn)
    (holds : world.disk.HoldsUploads gateway.settings.uploads.maxBytes) (builtIn : stage.BuiltIn)
    (named : stage.Named) : (gateway.step world request stage).2.Named := by
  cases stage with
  | arrived =>
    rcases (@step_arrived gateway world request).2 with next | next
    all_goals
      rw [next]
      trivial
  | admitted => trivial
  | numbered requestId => exact route_named media requestId
  | routed requestId handler captures =>
    obtain ⟨endpoint, rfl⟩ := builtIn
    rw [step]
    rcases handled : endpoint.handler (gateway.context request requestId captures) world.disk with _ | outcome
    · simp only [handle, handled]
      exact named
    · rw [handle_disk handled]
      have plain : ∀ name, (gateway.context request requestId captures).capture? "filename" = some name →
          CaptureClass.filename.accepts name = true := named
      exact endpoint.handler_named holds plain handled
  | handled requestId reply => trivial
  | answered response => trivial

/-- A server whose disk holds uploads, and whose requests hand on names that can be sent. -/
structure Running.SendsNames (running : Running) (limit : Nat) : Prop where
  bounded : running.Bounded limit
  stages : ∀ entry ∈ running.requests, entry.2.Named

section Run

variable {running : Running} {limit : Nat}

theorem Running.start_sendsNames (settings : Settings) (holds : disk.HoldsUploads limit) :
    (Running.start settings disk).SendsNames limit where
  bounded := ⟨fun _ member => absurd member List.not_mem_nil, holds⟩
  stages _ member := absurd member List.not_mem_nil

theorem Running.SendsNames.move (media : gateway.BuiltIn) (range : gateway.settings.uploads.maxBytes ≤ max64)
    (sends : running.SendsNames gateway.settings.uploads.maxBytes)
    (new : ∀ request ∈ running.asked, IsNewId request.newId) (move : Move) :
    (gateway.move running move).SendsNames gateway.settings.uploads.maxBytes := by
  refine ⟨sends.bounded.move media range new move, ?_⟩
  have stepped : ∀ request stage, (request, stage) ∈ running.requests → stage.Named →
      (gateway.step running.world request stage).2.Named :=
    fun request stage member named =>
      Gateway.step_named media sends.bounded.disk (sends.bounded.stages _ member) named
  exact @Gateway.stages_move gateway running (fun _ stage => stage.Named) (fun _ => trivial) stepped sends.stages
    move

theorem Running.SendsNames.after (media : gateway.BuiltIn) (range : gateway.settings.uploads.maxBytes ≤ max64)
    (sends : running.SendsNames gateway.settings.uploads.maxBytes) (moves : List Move)
    (new : ∀ request ∈ (gateway.after moves running).asked, IsNewId request.newId) :
    (gateway.after moves running).SendsNames gateway.settings.uploads.maxBytes := by
  have kept : ∀ running : Running, running.SendsNames gateway.settings.uploads.maxBytes →
      (∀ request ∈ running.asked, IsNewId request.newId) →
        ∀ move, (gateway.move running move).SendsNames gateway.settings.uploads.maxBytes :=
    fun _ sends new move => sends.move media range new move
  exact Gateway.after_invariant_of_asked kept sends moves new

end Run

/-- A response that sends its file under a name without control characters. -/
def Response.SendsName (response : Response) : Prop :=
  ∃ name : String, (∀ c ∈ name.toList, isControl c = false) ∧
    response.headers.values "content-disposition" = [Utf8.encode (contentDisposition name)]

/-- What is sent from a file is an item under its name, and the base headers leave the name as it is. -/
theorem Reply.Named.sendsName {reply : Reply} (named : reply.Named) {serverName : String} {content : Bytes}
    (file : (reply.encode disk).1.payload = .file content) :
    ((reply.encode disk).1.withBase serverName).SendsName := by
  generalize encoded : (reply.encode disk).1 = response at file ⊢
  have encoding := reply.encode_encoding disk
  rw [encoded] at encoding
  cases encoding with
  | value body => cases file
  | failure status code message => cases file
  | @media stream payload opened =>
    have other := BaseHeaders.ofServer_names serverName "content-disposition" (by decide)
    refine ⟨stream.filename, named, ?_⟩
    dsimp only [Response.withBase]
    rw [BaseHeaders.values_apply other, stream.values_disposition named]
  | @image generated payload opened =>
    obtain ⟨bytes, memory⟩ := named
    rw [memory] at opened
    dsimp only at file
    subst file
    simp [Source.open, servedLength, Except.map] at opened

/-- A body that is read from a file is sent as it was answered. -/
theorem Response.eq_of_finish_file {response : Response} {method : String} {content : Bytes}
    (file : (response.finish method).payload = .file content) : response.finish method = response := by
  unfold finish at file ⊢
  split at file
  · cases file
  · rename_i noHead
    rw [if_neg noHead]
    obtain ⟨added, grown, none | ⟨_, bytes, known, _⟩⟩ := response.withLength_added
    · rw [grown, none, List.append_nil]
    · rw [grown] at file
      rw [known] at file
      cases file

/-- Whoever is sent a file from a disk of uploads is told its name. -/
theorem Gateway.sendsName {moves : List Move} (media : gateway.BuiltIn)
    (range : gateway.settings.uploads.maxBytes ≤ max64)
    (holds : disk.HoldsUploads gateway.settings.uploads.maxBytes)
    (new : ∀ request ∈ moves.flatMap Move.arrivals, IsNewId request.newId) {place : Nat} {sent : Response}
    {content : Bytes} (answered : (gateway.after moves (.start gateway.settings disk)).response? place = some sent)
    (file : sent.payload = .file content) : sent.SendsName := by
  obtain ⟨request, answer, there, rfl⟩ := Running.response?_eq_some_iff.mp answered
  have same := Response.eq_of_finish_file file
  rw [same] at file ⊢
  rcases answered_origin there with rfl | ⟨reply, point, ⟨before, later, requestId, rfl, handled, rfl⟩, rfl⟩
  · cases file
  · have earlier : ∀ request ∈ (gateway.after before (.start gateway.settings disk)).asked, IsNewId request.newId := by
      intro request asked
      rw [asked_after] at asked
      rw [List.flatMap_append] at new
      exact new request (List.mem_append_left _ asked)
    have sends := (Running.start_sendsNames gateway.settings holds).after media range before earlier
    have named : reply.Named := sends.stages _ (Running.mem_requests handled)
    exact named.sendsName file

theorem contentDisposition_injective : Function.Injective contentDisposition := by
  intro name other same
  obtain ⟨quoted, written, read⟩ := contentDisposition_reads name
  obtain ⟨otherQuoted, otherWritten, otherRead⟩ := contentDisposition_reads other
  rw [written, otherWritten, String.append_right_inj] at same
  rw [same, otherRead, Option.some.injEq, Prod.mk.injEq, String.toList_inj] at read
  exact read.1.symm

/-- A stored item is sent as a whole, or what could not be opened is answered by the error that tells nothing. -/
theorem MediaStream.encode_opened (stream : MediaStream) (kind : String) (disk : Disk) :
    (∃ payload, (stream.source.open (some stream.sizeBytes) disk).1 = .ok payload ∧
      (stream.encode kind disk).1 = ⟨200, stream.headers.1, payload⟩) ∨
    ∃ reason, (stream.source.open (some stream.sizeBytes) disk).1 = .error reason ∧
      (stream.encode kind disk).1 = .genericError := by
  rw [encode]
  rcases stream.source.open (some stream.sizeBytes) disk with ⟨reason | payload, later⟩
  · exact Or.inr ⟨reason, rfl, rfl⟩
  · exact Or.inl ⟨payload, rfl, rfl⟩

/-- A header can hold this text: its bytes are tabs, or from the space on and not DEL. -/
def Sendable (text : String) : Prop :=
  ∀ byte ∈ Utf8.encode text, byte.toNat = 0x09 ∨ 0x20 ≤ byte.toNat ∧ byte.toNat ≠ 0x7F

theorem MediaStream.disposition_iff (stream : MediaStream) :
    (stream.headers.1.values "content-disposition" = [Utf8.encode (contentDisposition stream.filename)] ↔
        Sendable stream.filename) ∧
      (stream.headers.1.values "content-disposition" = [] ↔ ¬ Sendable stream.filename) := by
  rw [Sendable, ← Headers.isLegal_iff, values_disposition_eq]
  split
  · rename_i legal
    simp [legal]
  · rename_i illegal
    simp [illegal]

/-- A file name does not break out of its header. Who reads the quoted text behind the opening quote comes to its end
and gets the name, so that names that differ are written differently. The header is sent with an item exactly if it
can hold the bytes of the name. It can hold the name of every upload, and whoever is sent a file from a disk of
uploads is told a name, whatever was asked for and in whatever order requests took their steps. -/
theorem contentDisposition_holds_names :
    (∀ name : String, ∃ quoted : String, contentDisposition name = "inline; filename=\"" ++ quoted ++ "\"" ∧
      Quoted.read? (quoted ++ "\"").toList = some (name.toList, [])) ∧
    Function.Injective contentDisposition ∧
    (∀ (stream : MediaStream) (kind : String) (disk : Disk),
      (∃ reason, (stream.source.open (some stream.sizeBytes) disk).1 = .error reason ∧
        (stream.encode kind disk).1 = .genericError) ∨
      (∃ payload, (stream.source.open (some stream.sizeBytes) disk).1 = .ok payload) ∧
        (stream.encode kind disk).1.status = 200 ∧
        ((stream.encode kind disk).1.headers.values "content-disposition" =
            [Utf8.encode (contentDisposition stream.filename)] ↔ Sendable stream.filename) ∧
        ((stream.encode kind disk).1.headers.values "content-disposition" = [] ↔ ¬ Sendable stream.filename)) ∧
    (∀ context : Context, Sendable context.uploadName) ∧
    ∀ settings identicons? gateway, Gateway.ofSettings settings identicons? = .ok gateway →
      settings.uploads.maxBytes ≤ max64 → ∀ disk : Disk, disk.HoldsUploads settings.uploads.maxBytes →
        ∀ moves, (∀ request ∈ moves.flatMap Move.arrivals, IsNewId request.newId) →
          ∀ place sent content, (gateway.after moves (.start settings disk)).response? place = some sent →
            sent.payload = .file content → sent.SendsName := by
  refine ⟨fun name => ⟨_, rfl, ?_⟩, contentDisposition_injective, ?_, ?_, ?_⟩
  · rw [String.toList_append, String.toList_ofList]
    exact Quoted.read?_escape name.toList []
  · intro stream kind disk
    rcases stream.encode_opened kind disk with ⟨payload, opened, sent⟩ | ⟨reason, closed, refused⟩
    · rw [sent]
      dsimp only
      exact Or.inr ⟨⟨payload, opened⟩, rfl, stream.disposition_iff⟩
    · exact Or.inl ⟨reason, closed, refused⟩
  · intro context
    exact Headers.isLegal_iff.mp (Headers.isLegal_encode context.uploadName_visible)
  · intro settings identicons? gateway built range disk holds moves new place sent content answered file
    obtain ⟨rfl, media⟩ := Gateway.ofSettings_eq_ok built
    exact Gateway.sendsName media range holds new answered file

/-- Two bytes under a name with a quote, a backslash, a line break and a DEL. -/
def brokenNameUpload : Request :=
  { smallUpload with uri := ⟨none, "/m/r0/upload", some "filename=a%22%5c%0d%0ab%7f"⟩ }

def smallThumbnail : Request where
  method := "GET"
  uri := ⟨none, "/m/r0/thumbnail/localhost/abcdefghijklmnopqrstuvwx", none⟩
  headers := [("host", Utf8.encode "localhost")]
  body := ⟨[], .complete⟩
  peer? := none
  arrival := 7
  newId := "zyxwvutsrqponmlkjihgfedc"
  guardFirst := fun _ => false

theorem brokenNameUpload_named : ∃ gateway sent,
    let moves : List Move := .arrive brokenNameUpload :: List.replicate 5 (.advance 0) ++
      .arrive smallThumbnail :: List.replicate 5 (.advance 1)
    Gateway.ofSettings shortSettings none = .ok gateway ∧
      (gateway.after moves (.start shortSettings .empty)).response? 1 = some sent ∧ sent.payload = .file [1, 2] ∧
      sent.headers.values "content-disposition" = [Utf8.encode "inline; filename=\"a\\\"\\\\b\""] ∧ sent.SendsName := by
  let moves : List Move := .arrive brokenNameUpload :: List.replicate 5 (.advance 0) ++
    .arrive smallThumbnail :: List.replicate 5 (.advance 1)
  have shown : ((Gateway.ofSettings shortSettings none).toOption.bind fun gateway =>
      ((gateway.after moves (.start shortSettings .empty)).response? 1).map fun sent =>
        (sent.payload, sent.headers.values "content-disposition")) =
        some (.file [1, 2], [Utf8.encode "inline; filename=\"a\\\"\\\\b\""]) := by
    decide +kernel
  obtain ⟨gateway, made, sent⟩ := Option.bind_eq_some_iff.mp shown
  obtain ⟨response, answered, same⟩ := Option.map_eq_some_iff.mp sent
  obtain ⟨file, disposition⟩ := Prod.mk.inj same
  have built : Gateway.ofSettings shortSettings none = .ok gateway := eq_ok_of_toOption made
  have new : ∀ request ∈ [brokenNameUpload, smallThumbnail], IsNewId request.newId := by
    rw [List.forall_mem_cons, List.forall_mem_singleton]
    exact ⟨⟨by decide, by decide⟩, ⟨by decide, by decide⟩⟩
  obtain ⟨_, _, _, _, named⟩ := contentDisposition_holds_names
  exact ⟨gateway, response, built, answered, file, disposition, named shortSettings none gateway built
    (by decide) .empty (Disk.empty_holdsUploads _) moves new 1 response [1, 2] answered file⟩

end MediaServer
