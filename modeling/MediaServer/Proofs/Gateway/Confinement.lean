import MediaServer.Proofs.Gateway.Footprint
import MediaServer.Proofs.Gateway.Steps
import MediaServer.Proofs.Route.Captures
import MediaServer.Proofs.Storage.Catalogue
import MediaServer.Proofs.Storage.Reach

namespace MediaServer

/-- A file two steps below the root: the first leads to a server of the settings and is a key, the second is
an id of letters and digits, or such an id with the ending of a record. -/
def Settings.MediaFile (settings : Settings) (path : DiskPath) : Prop :=
  ∃ origin ∈ settings.homeservers, IsKey origin ∧
    ∃ id : String, id ≠ "" ∧ id.toList.all isAlphanumeric = true ∧
      (path = [origin, id] ∨ path = [origin, id ++ ".json"])

def Settings.MediaDirectory (settings : Settings) (path : DiskPath) : Prop :=
  ∃ origin ∈ settings.homeservers, IsKey origin ∧ path = [origin]

section Files

variable {settings : Settings} {origin id : String} {path : DiskPath}

theorem ItemFile.mediaFile (file : ItemFile origin id path) (served : origin ∈ settings.homeservers)
    (plain : CaptureClass.mediaId.accepts id = true) : settings.MediaFile path := by
  obtain ⟨key, place⟩ := file
  refine ⟨origin, served, isStoreKey_iff.mp key, id, ?_, ?_, place⟩
  · exact CaptureClass.ne_empty_of_accepts (by decide) plain
  · rw [CaptureClass.accepts, Bool.and_eq_true] at plain
    exact plain.2

theorem OriginDirectory.mediaDirectory (directory : OriginDirectory origin path)
    (served : origin ∈ settings.homeservers) : settings.MediaDirectory path :=
  ⟨origin, served, isStoreKey_iff.mp directory.1, directory.2⟩

theorem IsNewId.accepts (new : IsNewId id) : CaptureClass.mediaId.accepts id = true := by
  have filled : id.isEmpty = false := by
    rw [← Bool.not_eq_true, String.isEmpty_iff]
    rintro rfl
    exact absurd new.length (by decide)
  rw [CaptureClass.accepts, filled]
  exact new.plain

variable {disk : Disk} {files directories : DiskPath → Prop}

/-- Making a response opens no file but the one that the reply is read from. -/
theorem Reply.encode_reaches {reply : Reply} (within : ∀ path ∈ reply.file?, files path) :
    disk.Reaches files directories (reply.encode disk).2.2 := by
  rcases reply.encode_disk disk with same | ⟨path, member, opened⟩
  · rw [same]
    exact .refl disk
  · rw [opened]
    exact Disk.open_reaches (within path member)

end Files

/-- What a handler leaves has to do with media files alone. -/
structure Outcome.Confined (outcome : Outcome) (settings : Settings) (disk : Disk) : Prop where
  disk : disk.Reaches settings.MediaFile settings.MediaDirectory outcome.disk
  reply : ∀ path ∈ outcome.reply.file?, settings.MediaFile path

section Handlers

variable {context : Context} {disk : Disk}

theorem Context.storeUpload_confined (served : context.host ∈ context.settings.homeservers)
    (new : IsNewId context.newId) (bytes : Bytes) :
    (context.storeUpload bytes disk).Confined context.settings disk := by
  have reaches := (@Disk.put_reaches disk context.host context.uploadType context.uploadName bytes
    context.newId).mono (fun _ file => file.mediaFile served new.accepts)
      (fun _ directory => directory.mediaDirectory served)
  unfold storeUpload
  split
  · rename_i put
    rw [put] at reaches
    exact ⟨reaches, by simp [Reply.file?]⟩
  · rename_i put
    rw [put] at reaches
    exact ⟨reaches, by simp [Reply.file?]⟩

/-- The server of an item is one of the settings, whatever its class is; that the id is plain is left to the
routes. -/
theorem Context.findMedia_confined
    (plain : ∀ id, context.capture? "media_id" = some id → CaptureClass.mediaId.accepts id = true) :
    disk.Reaches context.settings.MediaFile context.settings.MediaDirectory (context.findMedia disk).2 ∧
      ∀ media, (context.findMedia disk).1 = .ok media → context.settings.MediaFile media.location := by
  rcases context.findMedia_cases disk with ⟨fault, refused⟩ | ⟨server, mediaId, served, _, captured, asked⟩
  · rw [refused]
    exact ⟨.refl disk, nofun⟩
  · have file : ∀ path, ItemFile server mediaId path → context.settings.MediaFile path :=
      fun _ file => file.mediaFile served (plain mediaId captured)
    have reaches := (@Disk.get_reaches disk server mediaId context.settings.MediaDirectory).mono file
      (fun _ directory => directory)
    rw [asked, Disk.stored_disk]
    exact ⟨reaches, fun media found => file _ (Disk.get_location (Disk.get_of_stored found))⟩

theorem Reply.file?_ofExcept {found : Except ApiError StoredMedia} {name : StoredMedia → String}
    {path : DiskPath}
    (read : path ∈ (Reply.ofExcept .media (found.map fun media => media.stream (name media))).file?) :
    ∃ media, found = .ok media ∧ media.location = path := by
  cases found with
  | error fault => cases read
  | ok media => exact ⟨media, rfl, Option.some.inj read⟩

theorem Context.sends_confined
    (plain : ∀ id, context.capture? "media_id" = some id → CaptureClass.mediaId.accepts id = true)
    {found : Except ApiError StoredMedia} {later : Disk} (looked : context.findMedia disk = (found, later))
    (name : StoredMedia → String) :
    Outcome.Confined ⟨.ofExcept .media (found.map fun media => media.stream (name media)), [], later⟩
      context.settings disk := by
  obtain ⟨reaches, located⟩ := @findMedia_confined context disk plain
  rw [looked] at reaches located
  refine ⟨reaches, ?_⟩
  intro path read
  obtain ⟨media, same, rfl⟩ := Reply.file?_ofExcept read
  exact located media same

theorem Context.download_confined
    (plain : ∀ id, context.capture? "media_id" = some id → CaptureClass.mediaId.accepts id = true) :
    (context.download disk).Confined context.settings disk := by
  rcases looked : context.findMedia disk with ⟨found, later⟩
  simp only [download, looked]
  exact sends_confined plain looked _

theorem Context.thumbnail_confined
    (plain : ∀ id, context.capture? "media_id" = some id → CaptureClass.mediaId.accepts id = true) :
    (context.thumbnail disk).Confined context.settings disk := by
  unfold thumbnail
  split
  · exact ⟨.refl disk, by simp [Reply.file?]⟩
  · rcases looked : context.findMedia disk with ⟨found, later⟩
    exact sends_confined plain looked _

/-- What is drawn for a seed is kept in memory. -/
theorem Context.identicon_file? : (Reply.ofExcept .image context.identicon).file? = none := by
  rcases context.identicon_cases with ⟨_, made⟩ | ⟨_, refused⟩ | ⟨_, _, _, refused⟩
  · rw [made]
    rfl
  · rw [refused]
    rfl
  · rw [refused]
    rfl

/-- A handler of the media interface reaches media files alone, if its captures are of the classes that its
route names. -/
theorem Endpoint.handler_confined {route : MediaRoute} (member : route ∈ MediaRoute.all)
    (captured : ∀ name kind value, Segment.capture name kind ∈ route.segments →
      context.capture? name = some value → kind.accepts value = true)
    (served : context.host ∈ context.settings.homeservers) (new : IsNewId context.newId) {outcome : Outcome}
    (handled : route.endpoint.handler context disk = some outcome) :
    outcome.Confined context.settings disk := by
  have named : ∀ route ∈ MediaRoute.all, route.endpoint = .download ∨ route.endpoint = .thumbnail →
      Segment.capture "media_id" .mediaId ∈ route.segments := by decide +kernel
  have plain : route.endpoint = .download ∨ route.endpoint = .thumbnail →
      ∀ id, context.capture? "media_id" = some id → CaptureClass.mediaId.accepts id = true :=
    fun reads id => captured _ _ id (named route member reads)
  cases endpoint : route.endpoint with
  | upload =>
    rw [endpoint] at handled
    change context.upload disk = some outcome at handled
    rcases context.upload_cases disk with waits | ⟨fault, events, refused⟩ | ⟨bytes, _, stored⟩
    · rw [waits] at handled
      cases handled
    · rw [refused] at handled
      cases handled
      exact ⟨.refl disk, by simp [Reply.file?]⟩
    · rw [stored] at handled
      cases handled
      exact Context.storeUpload_confined served new bytes
  | download =>
    rw [endpoint] at handled
    cases handled
    exact Context.download_confined (plain (Or.inl endpoint))
  | thumbnail =>
    rw [endpoint] at handled
    cases handled
    exact Context.thumbnail_confined (plain (Or.inr endpoint))
  | previewUrl =>
    rw [endpoint] at handled
    cases handled
    exact ⟨.refl disk, by simp [Reply.file?]⟩
  | identicon =>
    rw [endpoint] at handled
    cases handled
    exact ⟨.refl disk, by simp [Context.identicon_file?]⟩

end Handlers

/-- What is handed on from one stage to the next: a handler with captures of the classes that its route
names, and a reply that is read from no file but a media file. -/
def Gateway.Confines (gateway : Gateway) (request : Request) : Stage → Prop
  | .routed _ handler captures => request.host ∈ gateway.settings.homeservers ∧
      ∃ route ∈ MediaRoute.all, handler = route.endpoint.handler ∧
        ∀ name kind value, Segment.capture name kind ∈ route.segments → captures.lookup name = some value →
          kind.accepts value = true
  | .handled _ reply => ∀ path ∈ reply.file?, gateway.settings.MediaFile path
  | _ => True

variable {gateway : Gateway} {world : World} {request : Request} {stage : Stage} {disk : Disk}

theorem Gateway.route_confined (media : gateway.BuiltIn) (requestId : Nat) :
    gateway.Confines request (gateway.route world request requestId).2 := by
  unfold route
  split
  · rename_i served
    split
    · rename_i handler captures found
      exact ⟨Settings.serves_iff.mp served, mediaRoutes_found_cases media found⟩
    · simp [Confines, Reply.file?]
    · simp [Confines, Reply.file?]
    · simp [Confines, Reply.file?]
  · simp [Confines, Reply.file?]

/-- A step reaches media files alone, and what it hands on has to do with no others. -/
theorem Gateway.step_confined (media : gateway.BuiltIn) (new : IsNewId request.newId)
    (confines : gateway.Confines request stage) :
    world.disk.Reaches gateway.settings.MediaFile gateway.settings.MediaDirectory
        (gateway.step world request stage).1.disk ∧
      gateway.Confines request (gateway.step world request stage).2 := by
  cases stage with
  | arrived =>
    obtain ⟨same, next⟩ := @step_arrived gateway world request
    rw [same]
    rcases next with next | next
    · rw [next]
      exact ⟨.refl _, trivial⟩
    · rw [next]
      exact ⟨.refl _, trivial⟩
  | admitted => exact ⟨.refl _, trivial⟩
  | numbered requestId =>
    rw [step, route_disk]
    exact ⟨.refl _, route_confined media requestId⟩
  | routed requestId handler captures =>
    have sofar := confines
    obtain ⟨served, route, member, own, captured⟩ := sofar
    rw [step]
    rcases handled : handler (gateway.context request requestId captures) world.disk with _ | outcome
    · simp only [handle, handled]
      exact ⟨.refl _, confines⟩
    · rw [handle_disk handled]
      rw [own] at handled
      have confined := @Endpoint.handler_confined (gateway.context request requestId captures) world.disk
        route member captured served new outcome handled
      exact ⟨confined.disk, confined.reply⟩
  | handled requestId reply => exact ⟨Reply.encode_reaches confines, trivial⟩
  | answered response => exact ⟨.refl _, trivial⟩

/-- A server that has come from a disk without reaching any other files, and will not by the stages of its
requests. -/
structure Running.Confined (running : Running) (gateway : Gateway) (disk : Disk) : Prop where
  disk : disk.Reaches gateway.settings.MediaFile gateway.settings.MediaDirectory running.world.disk
  stages : ∀ entry ∈ running.requests, gateway.Confines entry.1 entry.2

theorem Running.start_confined (gateway : Gateway) (disk : Disk) :
    (Running.start gateway.settings disk).Confined gateway disk where
  disk := .refl disk
  stages _ member := absurd member List.not_mem_nil

theorem Running.Confined.move {running : Running} (confined : running.Confined gateway disk)
    (media : gateway.BuiltIn) (new : ∀ request ∈ running.asked, IsNewId request.newId) (move : Move) :
    (gateway.move running move).Confined gateway disk := by
  have stepped : ∀ request stage, (request, stage) ∈ running.requests → gateway.Confines request stage →
      running.world.disk.Reaches gateway.settings.MediaFile gateway.settings.MediaDirectory
          (gateway.step running.world request stage).1.disk ∧
        gateway.Confines request (gateway.step running.world request stage).2 :=
    fun request stage member confines =>
      Gateway.step_confined media (new request (List.mem_map.mpr ⟨_, member, rfl⟩)) confines
  constructor
  · refine Gateway.disk_move (fun request stage member => ?_) confined.disk move
    exact confined.disk.trans (stepped request stage member (confined.stages _ member)).1
  · exact @Gateway.stages_move gateway running gateway.Confines (fun _ => trivial)
      (fun request stage member confines => (stepped request stage member confines).2) confined.stages move

theorem Running.Confined.after {running : Running} (confined : running.Confined gateway disk)
    (media : gateway.BuiltIn) (moves : List Move)
    (new : ∀ request ∈ (gateway.after moves running).asked, IsNewId request.newId) :
    (gateway.after moves running).Confined gateway disk := by
  have kept : ∀ running : Running, running.Confined gateway disk →
      (∀ request ∈ running.asked, IsNewId request.newId) →
        ∀ move, (gateway.move running move).Confined gateway disk :=
    fun _ confined new move => confined.move media new move
  exact Gateway.after_invariant_of_asked kept confined moves new

/-- Stored media stays inside the store. Whatever is on the disk at the start, whatever is asked for and in
whatever order requests take their steps, every file that is opened is a media file, and nothing on the disk
changes but media files and the directories that are made for them. -/
theorem Gateway.opens_media_files {settings : Settings} {identicons? : Option IdenticonMaker}
    (built : Gateway.ofSettings settings identicons? = .ok gateway) (disk : Disk) (moves : List Move)
    (new : ∀ request ∈ moves.flatMap Move.arrivals, IsNewId request.newId) :
    disk.Reaches settings.MediaFile settings.MediaDirectory
      (gateway.after moves (.start settings disk)).world.disk := by
  obtain ⟨rfl, media⟩ := Gateway.ofSettings_eq_ok built
  have confined := (Running.start_confined gateway disk).after media moves (by rwa [Gateway.asked_after])
  exact confined.disk

/-- Two bytes for a host with a port, which is left out of the place where they are stored. -/
def smallUpload : Request where
  method := "POST"
  uri := ⟨none, "/m/r0/upload", none⟩
  headers := [("host", Utf8.encode "localhost:8448")]
  body := ⟨[[1, 2]], .complete⟩
  peer? := none
  arrival := 0
  newId := "abcdefghijklmnopqrstuvwx"
  guardFirst := fun _ => false

theorem smallUpload_opened : ∃ gateway, Gateway.ofSettings shortSettings none = .ok gateway ∧
    (gateway.after (.arrive smallUpload :: List.replicate 5 (.advance 0))
        (.start shortSettings .empty)).world.disk.opened =
      [["localhost", "abcdefghijklmnopqrstuvwx"], ["localhost", "abcdefghijklmnopqrstuvwx.json"]] ∧
    Disk.empty.Reaches shortSettings.MediaFile shortSettings.MediaDirectory
      (gateway.after (.arrive smallUpload :: List.replicate 5 (.advance 0))
        (.start shortSettings .empty)).world.disk := by
  have opened : ((Gateway.ofSettings shortSettings none).toOption.map fun gateway =>
      (gateway.after (.arrive smallUpload :: List.replicate 5 (.advance 0))
        (.start shortSettings .empty)).world.disk.opened) =
        some [["localhost", "abcdefghijklmnopqrstuvwx"], ["localhost", "abcdefghijklmnopqrstuvwx.json"]] := by
    decide +kernel
  obtain ⟨gateway, made, journal⟩ := Option.map_eq_some_iff.mp opened
  have built : Gateway.ofSettings shortSettings none = .ok gateway := eq_ok_of_toOption made
  have arrivals : (.arrive smallUpload :: List.replicate 5 (.advance 0)).flatMap Move.arrivals = [smallUpload] :=
    rfl
  have new : ∀ request ∈ [smallUpload], IsNewId request.newId := by
    rw [List.forall_mem_singleton]
    exact ⟨by decide +kernel, by decide +kernel⟩
  rw [← arrivals] at new
  refine ⟨gateway, built, ?_, Gateway.opens_media_files built .empty _ new⟩
  exact journal

end MediaServer
