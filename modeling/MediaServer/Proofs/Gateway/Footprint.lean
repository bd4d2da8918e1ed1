import MediaServer.Proofs.Gateway.Run
import MediaServer.Proofs.Gateway.Steps
import MediaServer.Proofs.Message.Body
import MediaServer.Proofs.Reply.Encode
import MediaServer.Proofs.Route.MediaRoutes
import MediaServer.Proofs.Storage.Catalogue

namespace MediaServer

/-- A gateway whose routes are those of its settings, with the handlers of the media interface. -/
def Gateway.BuiltIn (gateway : Gateway) : Prop :=
  mediaRoutes Endpoint.handler gateway.settings.general.apiPrefix gateway.settings.general.versions =
    .ok gateway.routes

theorem Gateway.ofSettings_eq_ok {settings : Settings} {identicons? : Option IdenticonMaker}
    {gateway : Gateway} (built : Gateway.ofSettings settings identicons? = .ok gateway) :
    gateway.settings = settings ∧ gateway.BuiltIn := by
  unfold ofSettings withHandlers at built
  rcases made : mediaRoutes Endpoint.handler settings.general.apiPrefix settings.general.versions with
    fault | routes
  · simp [made, Except.map] at built
  · rw [made] at built
    cases built
    exact ⟨rfl, made⟩

/-- The usual settings with one version below a short path, for runs that are evaluated. -/
def shortSettings : Settings :=
  { Settings.default with general := { General.default with apiPrefix := "/m", versions := ["r0"] } }

/-- A stage that no handler but those of the media interface has a part in. -/
def Stage.BuiltIn : Stage → Prop
  | .routed _ handler _ => ∃ endpoint, handler = Endpoint.handler endpoint
  | _ => True

/-- The only places where a request may change what is on the disk. -/
def Request.places (request : Request) : List DiskPath :=
  [itemPlace request.host request.newId, recordPlace request.host request.newId]

theorem Context.storeUpload_disk (context : Context) (bytes : Bytes) (disk : Disk) :
    (context.storeUpload bytes disk).disk =
      (disk.put context.host context.uploadType context.uploadName bytes context.newId).2 := by
  unfold storeUpload
  split
  · rename_i put
    rw [put]
  · rename_i put
    rw [put]

theorem sanitizeFilename_visible (name : String) : ∀ c ∈ (sanitizeFilename name).toList, isControl c = false := by
  intro c member
  rw [sanitizeFilename, String.toList_ofList, List.mem_filter] at member
  simpa using member.2

theorem defaultUploadName_visible : ∀ c ∈ defaultUploadName.toList, isControl c = false := by
  have none : defaultUploadName.toList.any isControl = false := by decide +kernel
  simpa using none

/-- Whatever the query of an upload says, the name that it is stored under has no control characters. -/
theorem Context.uploadName_visible (context : Context) :
    ∀ c ∈ context.uploadName.toList, isControl c = false := by
  rw [uploadName]
  rcases kept : ((context.param? "filename").map sanitizeFilename).filter (· != "") with _ | name
  · exact defaultUploadName_visible
  · obtain ⟨given, _⟩ := Option.filter_eq_some_iff.mp kept
    obtain ⟨own, _, rfl⟩ := Option.map_eq_some_iff.mp given
    exact sanitizeFilename_visible own

/-- An identicon is drawn, or there is none to be had, or one of its sizes is not acceptable. -/
theorem Context.identicon_cases (context : Context) :
    (∃ bytes, context.identicon = .ok (.png bytes)) ∨
      (∃ message, context.identicon = .error (.notFound message)) ∨
      ∃ name fault, context.dimension name identiconLimit = .error fault ∧ context.identicon = .error fault := by
  unfold identicon
  split
  · exact Or.inr (Or.inl ⟨_, rfl⟩)
  split
  · exact Or.inr (Or.inl ⟨_, rfl⟩)
  · unfold drawIdenticon
    rcases width : context.dimension "width" identiconLimit with fault | width?
    · exact Or.inr (Or.inr ⟨"width", fault, width, rfl⟩)
    · rcases height : context.dimension "height" identiconLimit with fault | height?
      · exact Or.inr (Or.inr ⟨"height", fault, height, rfl⟩)
      · exact Or.inl ⟨_, rfl⟩

/-- An upload waits, or is refused without having changed anything, or stores its whole body. -/
theorem Context.upload_cases (context : Context) (disk : Disk) :
    context.upload disk = none ∨
      (∃ fault events, context.upload disk = some ⟨.error fault, events, disk⟩) ∨
      ∃ bytes, (Incoming.read context.body? context.settings.uploads.maxBytes context.guard
          context.guardFirst).1 = .whole bytes ∧
        context.upload disk = some (context.storeUpload bytes disk) := by
  unfold upload
  dsimp only
  split
  · exact Or.inr (Or.inl ⟨_, _, rfl⟩)
  split
  · exact Or.inl rfl
  · rename_i bytes read
    exact Or.inr (Or.inr ⟨bytes, read, rfl⟩)
  · exact Or.inr (Or.inl ⟨_, _, rfl⟩)
  · exact Or.inr (Or.inl ⟨_, _, rfl⟩)
  · exact Or.inr (Or.inl ⟨_, _, rfl⟩)

/-- What the store knows of an item, as it is answered. -/
def Disk.stored (disk : Disk) (server mediaId : String) : Except ApiError StoredMedia × Disk :=
  match disk.get server mediaId with
  | (.ok (some media), disk) => (.ok media, disk)
  | (.ok none, disk) => (.error (.notFound "Media not found"), disk)
  | (.error fault, disk) =>
    (.error ((ApiError.internal "Unexpected error looking up media").withDetail fault.message), disk)

theorem Disk.stored_disk (disk : Disk) (server mediaId : String) :
    (disk.stored server mediaId).2 = (disk.get server mediaId).2 := by
  rw [stored]
  rcases disk.get server mediaId with ⟨fault | none | media, later⟩ <;> rfl

theorem Disk.get_of_stored {disk : Disk} {server mediaId : String} {media : StoredMedia}
    (found : (disk.stored server mediaId).1 = .ok media) : (disk.get server mediaId).1 = .ok (some media) := by
  rw [stored] at found
  split at found
  · rename_i got
    cases found
    rw [got]
  · cases found
  · cases found

theorem Context.findMedia_of_served {context : Context} {server mediaId : String}
    (served : server ∈ context.settings.homeservers) (named : context.capture? "server" = some server)
    (id : context.capture? "media_id" = some mediaId) (disk : Disk) :
    context.findMedia disk = disk.stored server mediaId := by
  simp only [findMedia, named, id, Settings.serves_iff.mpr served, Bool.not_true, Bool.false_eq_true, if_false]
  rfl

/-- An item is refused without a look at the disk, or it is one of a server of the settings and is left to the
store. -/
theorem Context.findMedia_cases (context : Context) (disk : Disk) :
    (∃ fault, context.findMedia disk = (.error fault, disk)) ∨
      ∃ server mediaId, server ∈ context.settings.homeservers ∧ context.capture? "server" = some server ∧
        context.capture? "media_id" = some mediaId ∧ context.findMedia disk = disk.stored server mediaId := by
  rcases named : context.capture? "server" with _ | server
  · exact Or.inl ⟨_, by simp only [findMedia, named]; rfl⟩
  rcases id : context.capture? "media_id" with _ | mediaId
  · exact Or.inl ⟨_, by simp only [findMedia, named, id]; rfl⟩
  by_cases served : server ∈ context.settings.homeservers
  · exact Or.inr ⟨server, mediaId, served, rfl, rfl, findMedia_of_served served named id disk⟩
  · have unserved : context.settings.serves server = false :=
      Bool.eq_false_iff.mpr fun serves => served (Settings.serves_iff.mp serves)
    exact Or.inl ⟨_, by simp only [findMedia, named, id, unserved]; rfl⟩

theorem Context.findMedia_node? (context : Context) (disk : Disk) (place : DiskPath) :
    (context.findMedia disk).2.node? place = disk.node? place := by
  rcases context.findMedia_cases disk with ⟨fault, refused⟩ | ⟨server, mediaId, _, _, _, asked⟩
  · rw [refused]
  · rw [asked, Disk.stored_disk]
    exact disk.get_node? server mediaId place

theorem Context.thumbnail_node? (context : Context) (disk : Disk) (place : DiskPath) :
    (context.thumbnail disk).disk.node? place = disk.node? place := by
  unfold thumbnail
  split
  · rfl
  · exact context.findMedia_node? disk place

/-- An item as an upload leaves it: of no more bytes than a limit, under a name without control characters. -/
structure Item.Uploadable (limit : Nat) (item : Item) : Prop where
  bound : item.bytes.length ≤ limit
  visible : ∀ c ∈ item.filename.toList, isControl c = false

/-- All that becomes of a disk where one upload at most is stored, of no more bytes than a limit. -/
def Disk.StoredOnce (disk : Disk) (limit : Nat) (origin newId : String) (new : Disk) : Prop :=
  (∀ place, new.node? place = disk.node? place) ∨
    ∃ item : Item, item.Uploadable limit ∧
      new = (disk.put origin item.contentType item.filename item.bytes newId).2

theorem Disk.StoredOnce.kept {disk new : Disk} {limit : Nat} {origin newId : String}
    (stored : disk.StoredOnce limit origin newId new) :
    disk.KeptIn [itemPlace origin newId, recordPlace origin newId] new := by
  rcases stored with same | ⟨item, _, rfl⟩
  · intro place node _ there
    rw [same, there]
  · exact disk.put_kept origin item.contentType item.filename item.bytes newId

/-- A handler of the media interface changes nothing, or it stores the whole body of an upload. -/
theorem Endpoint.handler_stores (endpoint : Endpoint) {context : Context} {disk : Disk} {outcome : Outcome}
    (handled : endpoint.handler context disk = some outcome) :
    disk.StoredOnce context.settings.uploads.maxBytes context.host context.newId outcome.disk := by
  cases endpoint with
  | upload =>
    change context.upload disk = some outcome at handled
    rcases context.upload_cases disk with waits | ⟨fault, events, refused⟩ | ⟨bytes, read, stored⟩
    · rw [waits] at handled
      cases handled
    · rw [refused] at handled
      cases handled
      exact Or.inl fun _ => rfl
    · rw [stored] at handled
      cases handled
      have uploadable : Item.Uploadable context.settings.uploads.maxBytes
          ⟨context.uploadType, context.uploadName, bytes⟩ :=
        ⟨Incoming.length_le_of_read read, context.uploadName_visible⟩
      exact Or.inr ⟨_, uploadable, context.storeUpload_disk bytes disk⟩
  | download =>
    cases handled
    exact Or.inl (context.findMedia_node? disk)
  | thumbnail =>
    cases handled
    exact Or.inl (context.thumbnail_node? disk)
  | previewUrl =>
    cases handled
    exact Or.inl fun _ => rfl
  | identicon =>
    cases handled
    exact Or.inl fun _ => rfl

variable {gateway : Gateway} {world : World} {request : Request} {stage : Stage}

/-- A request that arrives is let in or refused for its rate. -/
theorem Gateway.step_arrived :
    (gateway.step world request .arrived).1.disk = world.disk ∧
      ((gateway.step world request .arrived).2 = .admitted ∨
        (gateway.step world request .arrived).2 = .answered .rateLimited) := by
  rw [step, World.admit]
  split
  · exact ⟨rfl, Or.inl rfl⟩
  split
  · exact ⟨rfl, Or.inl rfl⟩
  · exact ⟨rfl, Or.inr rfl⟩

theorem Gateway.route_disk (requestId : Nat) :
    (gateway.route world request requestId).1.disk = world.disk := by
  unfold route
  split
  · split <;> rfl
  · rfl

theorem Gateway.handle_disk {requestId : Nat} {handler : Handler} {captures : Captures} {outcome : Outcome}
    (handled : handler (gateway.context request requestId captures) world.disk = some outcome) :
    gateway.handle world request requestId handler captures =
      ({ world with disk := outcome.disk }.note (some (request.span requestId)) outcome.events,
        .handled requestId outcome.reply) := by
  simp only [handle, handled]

/-- A step changes nothing, or it stores what its request uploads. -/
theorem Gateway.step_stores (builtIn : stage.BuiltIn) :
    world.disk.StoredOnce gateway.settings.uploads.maxBytes request.host request.newId
      (gateway.step world request stage).1.disk := by
  cases stage with
  | arrived =>
    rw [step_arrived.1]
    exact Or.inl fun _ => rfl
  | admitted => exact Or.inl fun _ => rfl
  | numbered requestId =>
    rw [step, route_disk]
    exact Or.inl fun _ => rfl
  | routed requestId handler captures =>
    obtain ⟨endpoint, rfl⟩ := builtIn
    rw [step]
    rcases handled : endpoint.handler (gateway.context request requestId captures) world.disk with
      _ | outcome
    · simp only [handle, handled]
      exact Or.inl fun _ => rfl
    · rw [handle_disk handled]
      exact endpoint.handler_stores handled
  | handled requestId reply => exact Or.inl (reply.encode_node? world.disk)
  | answered response => exact Or.inl fun _ => rfl

/-- A step changes no file but the two of the item its request stores. -/
theorem Gateway.step_kept (builtIn : stage.BuiltIn) :
    world.disk.KeptIn request.places (gateway.step world request stage).1.disk :=
  (step_stores builtIn).kept

theorem Gateway.BuiltIn.step (media : gateway.BuiltIn) (builtIn : stage.BuiltIn) :
    (gateway.step world request stage).2.BuiltIn := by
  cases stage with
  | arrived =>
    rcases (@step_arrived gateway world request).2 with next | next
    · rw [next]
      trivial
    · rw [next]
      trivial
  | admitted => trivial
  | numbered requestId =>
    rw [Gateway.step, route]
    split
    · split
      · rename_i found
        exact mediaRoutes_handlers media found
      · trivial
      · trivial
      · trivial
    · trivial
  | routed requestId handler captures =>
    rw [Gateway.step]
    rcases handled : handler (gateway.context request requestId captures) world.disk with _ | outcome
    · simp only [handle, handled]
      exact builtIn
    · rw [handle_disk handled]
      trivial
  | handled requestId reply => trivial
  | answered response => trivial

def Running.BuiltIn (running : Running) : Prop :=
  ∀ entry ∈ running.requests, entry.2.BuiltIn

theorem Gateway.BuiltIn.move {running : Running} (media : gateway.BuiltIn) (builtIn : running.BuiltIn)
    (move : Move) : (gateway.move running move).BuiltIn :=
  @stages_move gateway running (fun _ stage => stage.BuiltIn) (fun _ => trivial) (fun _ _ _ => media.step) builtIn
    move

theorem Gateway.BuiltIn.after {running : Running} (media : gateway.BuiltIn) (builtIn : running.BuiltIn)
    (moves : List Move) : (gateway.after moves running).BuiltIn :=
  Gateway.after_invariant (fun _ => media.move) builtIn moves

end MediaServer
