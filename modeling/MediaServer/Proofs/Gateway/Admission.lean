import MediaServer.Proofs.Gateway.Confinement
import MediaServer.Proofs.Gateway.Upload
import MediaServer.Proofs.Message.Body
import MediaServer.Proofs.Storage.Interruption
import MediaServer.Proofs.Text.Digits

namespace MediaServer

/-- The status of the response to what a handler answers. -/
def Outcome.status (outcome : Outcome) : Nat :=
  (outcome.reply.encode outcome.disk).1.status

/-- Chunks that come to more than a limit are among the first of a body. -/
def Incoming.Overflows (body : Incoming) (limit : Nat) : Prop :=
  ∃ first, first <+: body.chunks ∧ limit < first.flatten.length

theorem Incoming.overflows_iff {body : Incoming} {limit : Nat} :
    body.Overflows limit ↔ limit < body.chunks.flatten.length := by
  constructor
  · rintro ⟨first, ⟨others, chunks⟩, longer⟩
    rw [← chunks, List.flatten_append, List.length_append]
    omega
  · exact fun longer => ⟨body.chunks, List.prefix_rfl, longer⟩

/-- The client announces a length: digits alone, perhaps behind a plus sign, of a number of 64 bits. -/
def Context.Announces (context : Context) (length : Nat) : Prop :=
  ∃ text sign digits, context.header? "content-length" = some text ∧ text.toList = sign ++ digits ∧
    (sign = [] ∨ sign = ['+']) ∧ digits ≠ [] ∧ (∀ c ∈ digits, isDigit c = true) ∧ ofDigits digits = length ∧
    length ≤ max64

def Context.AnnouncesTooMuch (context : Context) : Prop :=
  ∃ length, context.Announces length ∧ context.settings.uploads.maxBytes < length

section Admission

variable {context : Context} {body : Incoming} {disk : Disk}

theorem Context.announces_iff {length : Nat} :
    context.Announces length ↔ context.contentLength? = some length := by
  rw [contentLength?, Option.bind_eq_some_iff]
  constructor
  · rintro ⟨text, sign, digits, sent, split, number⟩
    exact ⟨text, sent, readUnsigned?_eq_some_iff.mpr ⟨sign, digits, split, number⟩⟩
  · rintro ⟨text, sent, read⟩
    obtain ⟨sign, digits, split, number⟩ := readUnsigned?_eq_some_iff.mp read
    exact ⟨text, sign, digits, sent, split, number⟩

theorem Context.announcesTooMuch_iff : context.AnnouncesTooMuch ↔
    context.contentLength?.any (context.settings.uploads.maxBytes < ·) = true := by
  simp [AnnouncesTooMuch, announces_iff, Option.any_eq_true]

/-- What is announced as too large is refused whatever the body is and whatever becomes of the request. -/
theorem Context.upload_of_announced (tooMuch : context.AnnouncesTooMuch) :
    context.upload disk = some ⟨.error .mediaTooLarge, [], disk⟩ :=
  if_pos (announcesTooMuch_iff.mp tooMuch)

/-- Once an upload is read as a whole, only the store can fail. -/
theorem Context.storeUpload_status (context : Context) (bytes : Bytes) (disk : Disk) :
    (context.storeUpload bytes disk).status = 200 ∧
        (∃ media, (disk.put context.host context.uploadType context.uploadName bytes context.newId).1 = .ok media) ∨
      (context.storeUpload bytes disk).status = 500 ∧
        ∃ fault, (disk.put context.host context.uploadType context.uploadName bytes context.newId).1 =
          .error fault := by
  unfold storeUpload
  split
  · rename_i put
    exact Or.inl ⟨rfl, _, congrArg Prod.fst put⟩
  · rename_i put
    exact Or.inr ⟨rfl, _, congrArg Prod.fst put⟩

/-- How an upload is admitted: it is refused as too large for what its header announces or for the chunks that
come, or else as broken where its body breaks, and only else it is stored. -/
structure Context.AdmitsBySize (context : Context) (body : Incoming) (disk : Disk) : Prop where
  unread : context.AnnouncesTooMuch → ∀ body? guard guardFirst,
    ({ context with body? := body?, guard := guard, guardFirst := guardFirst }).upload disk =
      some ⟨.error .mediaTooLarge, [], disk⟩
  tooLarge : context.AnnouncesTooMuch ∨ body.Overflows context.settings.uploads.maxBytes →
    context.upload disk = some ⟨.error .mediaTooLarge, [], disk⟩
  broken : ¬ context.AnnouncesTooMuch → ¬ body.Overflows context.settings.uploads.maxBytes →
    ∀ reason, body.ending = .failed reason → context.upload disk =
      some ⟨.error ((ApiError.badRequest "Error reading upload").withDetail (BodyFault.failed reason).message), [],
        disk⟩
  stored : ¬ context.AnnouncesTooMuch → ¬ body.Overflows context.settings.uploads.maxBytes →
    body.ending = .complete → context.upload disk = some (context.storeUpload body.chunks.flatten disk)

theorem Context.admitsBySize (context : Context) {body : Incoming} (disk : Disk) (here : context.body? = some body)
    (going : context.guard.isCancelled = false) : context.AdmitsBySize body disk where
  unread tooMuch body? guard guardFirst := by
    have same : ({ context with body? := body?, guard := guard, guardFirst := guardFirst }).AnnouncesTooMuch :=
      tooMuch
    exact upload_of_announced same
  tooLarge tooMuch := by
    by_cases announced : context.AnnouncesTooMuch
    · exact upload_of_announced announced
    · have longer := Incoming.overflows_iff.mp (tooMuch.resolve_left announced)
      rw [upload, if_neg fun any => announced (announcesTooMuch_iff.mpr any), here,
        Incoming.read_eq_verdict going, Ending.verdict_of_longer longer]
  broken unannounced within reason ending := by
    have fits := fun longer => within (Incoming.overflows_iff.mpr longer)
    rw [upload, if_neg fun any => unannounced (announcesTooMuch_iff.mpr any), here,
      Incoming.read_eq_verdict going, ending, Ending.verdict_failed fits]
  stored unannounced within ending := by
    have fits := fun longer => within (Incoming.overflows_iff.mpr longer)
    rw [upload, if_neg fun any => unannounced (announcesTooMuch_iff.mpr any), here,
      Incoming.read_eq_verdict going, ending, Ending.verdict_complete fits]

end Admission

/-- What is found on the disk has no more bytes than a limit, and there is a file of just these bytes. -/
def Disk.FindsUpTo (disk : Disk) (limit : Nat) : Prop :=
  ∀ origin mediaId media, (disk.get origin mediaId).1 = .ok (some media) →
    media.sizeBytes ≤ limit ∧ ∃ content, disk.HasFile media.location content ∧ media.sizeBytes = content.length

/-- The disk holds items as uploads leave them and nothing else. -/
def Disk.HoldsUploads (disk : Disk) (limit : Nat) : Prop :=
  ∃ catalogue, disk.Represents catalogue ∧
    ∀ origin mediaId item, catalogue origin mediaId = some item → item.Uploadable limit

theorem Disk.empty_holdsUploads (limit : Nat) : Disk.empty.HoldsUploads limit :=
  ⟨.empty, empty_represents, nofun⟩

/-- A store that fails has failed before it changed anything. -/
theorem Disk.Represents.put_failed {disk new : Disk} {catalogue : Catalogue}
    (represents : disk.Represents catalogue) {origin newId : String} (item : Item) {fault : StoreFault}
    (fresh : IsNewId newId)
    (failed : disk.put origin item.contentType item.filename item.bytes newId = (.error fault, new)) :
    new = disk := by
  by_cases draws : disk.DrawsId origin
  · obtain ⟨key, opened, made⟩ := draws
    obtain ⟨media, later, stored⟩ := @put_ok _ _ represents origin item newId key (makeDirectories_fits made).1 fresh
    rw [failed] at stored
    cases stored
  · obtain ⟨⟨reason, unchanged⟩, _⟩ := @put_of_not_drawsId disk origin newId item draws
    exact congrArg Prod.snd (failed.symm.trans unchanged)

section HoldsUploads

variable {disk new : Disk} {limit : Nat} (holds : disk.HoldsUploads limit)

include holds

/-- What is found on such a disk is an upload, and its bytes are where it is said to be. -/
theorem Disk.HoldsUploads.get {origin mediaId : String} {media : StoredMedia}
    (got : (disk.get origin mediaId).1 = .ok (some media)) :
    ∃ item : Item, item.Uploadable limit ∧ media = item.media origin mediaId ∧
      disk.HasFile media.location item.bytes := by
  obtain ⟨catalogue, represents, uploads⟩ := holds
  by_cases key : isStoreKey origin = true
  case neg => simp [Disk.get, key] at got
  by_cases idKey : isStoreKey mediaId = true
  case neg => simp [Disk.get, key, idKey] at got
  rcases represents.get key idKey with known | ⟨_, fault, failed⟩
  · rw [got] at known
    obtain ⟨item, there, rfl⟩ := Option.map_eq_some_iff.mp (Except.ok.inj known).symm
    exact ⟨item, uploads origin mediaId item there, rfl, (represents.holds there).item⟩
  · rw [got] at failed
    cases failed

theorem Disk.HoldsUploads.finds : disk.FindsUpTo limit := by
  intro origin mediaId media got
  obtain ⟨item, uploadable, rfl, there⟩ := holds.get got
  exact ⟨uploadable.bound, item.bytes, there, rfl⟩

theorem Disk.HoldsUploads.congr (same : ∀ place, new.node? place = disk.node? place) : new.HoldsUploads limit := by
  obtain ⟨catalogue, represents, uploads⟩ := holds
  exact ⟨catalogue, represents.congr same, uploads⟩

theorem Disk.HoldsUploads.put (range : limit ≤ max64) {origin newId : String} {item : Item} (fresh : IsNewId newId)
    (uploadable : item.Uploadable limit) :
    (disk.put origin item.contentType item.filename item.bytes newId).2.HoldsUploads limit := by
  obtain ⟨catalogue, represents, uploads⟩ := holds
  rcases stored : disk.put origin item.contentType item.filename item.bytes newId with ⟨fault | media, new⟩
  · obtain rfl := represents.put_failed item fresh stored
    exact ⟨catalogue, represents, uploads⟩
  · obtain ⟨_, grown⟩ := represents.put fresh (uploadable.bound.trans range) stored
    refine ⟨_, grown, fun otherOrigin otherId other there => ?_⟩
    rcases Catalogue.insert_eq_some_iff.mp there with ⟨_, rfl⟩ | ⟨_, present⟩
    · exact uploadable
    · exact uploads otherOrigin otherId other present

theorem Disk.HoldsUploads.stored (range : limit ≤ max64) {origin newId : String} (fresh : IsNewId newId)
    (stored : disk.StoredOnce limit origin newId new) : new.HoldsUploads limit := by
  rcases stored with same | ⟨item, uploadable, rfl⟩
  · exact holds.congr same
  · exact holds.put range fresh uploadable

end HoldsUploads

/-- A server whose handlers are those of the media interface and whose disk holds what may be uploaded. -/
structure Running.Bounded (running : Running) (limit : Nat) : Prop where
  stages : running.BuiltIn
  disk : running.world.disk.HoldsUploads limit

section Run

variable {gateway : Gateway} {running : Running}

theorem Running.start_bounded (settings : Settings) (limit : Nat) :
    (Running.start settings .empty).Bounded limit where
  stages _ member := absurd member List.not_mem_nil
  disk := Disk.empty_holdsUploads limit

theorem Running.Bounded.move (media : gateway.BuiltIn) (range : gateway.settings.uploads.maxBytes ≤ max64)
    (bounded : running.Bounded gateway.settings.uploads.maxBytes)
    (new : ∀ request ∈ running.asked, IsNewId request.newId) (move : Move) :
    (gateway.move running move).Bounded gateway.settings.uploads.maxBytes := by
  have stepped : ∀ request stage, (request, stage) ∈ running.requests →
      (gateway.step running.world request stage).1.disk.HoldsUploads gateway.settings.uploads.maxBytes := by
    intro request stage member
    have asked : request ∈ running.asked := List.mem_map.mpr ⟨_, member, rfl⟩
    exact bounded.disk.stored range (new request asked) (Gateway.step_stores (bounded.stages _ member))
  exact ⟨media.move bounded.stages move, @Gateway.disk_move gateway running
    (fun disk => disk.HoldsUploads gateway.settings.uploads.maxBytes) stepped bounded.disk move⟩

theorem Running.Bounded.after (media : gateway.BuiltIn) (range : gateway.settings.uploads.maxBytes ≤ max64)
    (bounded : running.Bounded gateway.settings.uploads.maxBytes) (moves : List Move)
    (new : ∀ request ∈ (gateway.after moves running).asked, IsNewId request.newId) :
    (gateway.after moves running).Bounded gateway.settings.uploads.maxBytes := by
  have kept : ∀ running : Running, running.Bounded gateway.settings.uploads.maxBytes →
      (∀ request ∈ running.asked, IsNewId request.newId) →
        ∀ move, (gateway.move running move).Bounded gateway.settings.uploads.maxBytes :=
    fun _ bounded new move => bounded.move media range new move
  exact Gateway.after_invariant_of_asked kept bounded moves new

end Run

/-- An upload is admitted by its size. It is refused as too large if it announces too much or if its chunks come to
too much, or else as broken if its body breaks, and then nothing has changed; else its whole body is stored, once. So,
whatever is asked for and in whatever order requests take their steps, nothing is ever found on a disk that was empty
that is larger than allowed or of another size than its file. -/
theorem Gateway.uploads_admitted_by_size :
    (∀ (context : Context) body disk, context.body? = some body → context.guard.isCancelled = false →
      context.AdmitsBySize body disk) ∧
    (∀ disk events, (Outcome.mk (.error .mediaTooLarge) events disk).status = 413) ∧
    (∀ message detail disk events,
      (Outcome.mk (.error ((ApiError.badRequest message).withDetail detail)) events disk).status = 400) ∧
    (∀ (context : Context) bytes disk,
      let put := disk.put context.host context.uploadType context.uploadName bytes context.newId
      (context.storeUpload bytes disk).disk = put.2 ∧
        ((context.storeUpload bytes disk).status = 200 ∧ (∃ media, put.1 = .ok media) ∨
          (context.storeUpload bytes disk).status = 500 ∧ ∃ fault, put.1 = .error fault)) ∧
    ∀ settings identicons? gateway, Gateway.ofSettings settings identicons? = .ok gateway →
      settings.uploads.maxBytes ≤ max64 →
        ∀ moves, (∀ request ∈ moves.flatMap Move.arrivals, IsNewId request.newId) →
          (gateway.after moves (.start settings .empty)).world.disk.FindsUpTo settings.uploads.maxBytes := by
  refine ⟨fun context body disk here going => context.admitsBySize disk here going, fun _ _ => rfl,
    fun _ _ _ _ => rfl, fun context bytes disk => ⟨context.storeUpload_disk bytes disk, ?_⟩, ?_⟩
  · exact context.storeUpload_status bytes disk
  · intro settings identicons? gateway built range moves new
    obtain ⟨rfl, media⟩ := Gateway.ofSettings_eq_ok built
    have start := Running.start_bounded gateway.settings gateway.settings.uploads.maxBytes
    exact (start.after media range moves (by rwa [Gateway.asked_after])).disk.finds

/-- Two bytes, announced as one byte more than may be uploaded. -/
def announcedUpload : Request :=
  { smallUpload with headers := smallUpload.headers ++ [("content-length", Utf8.encode "+104857601")] }

theorem announcedUpload_refused_by_size : ∃ gateway, Gateway.ofSettings shortSettings none = .ok gateway ∧
    (gateway.context announcedUpload 0 []).upload .empty = some ⟨.error .mediaTooLarge, [], .empty⟩ ∧
    (gateway.context smallUpload 0 []).upload .empty =
      some ((gateway.context smallUpload 0 []).storeUpload [1, 2] .empty) ∧
    ∃ media, ((gateway.after (.arrive smallUpload :: List.replicate 5 (.advance 0))
        (.start shortSettings .empty)).world.disk.get "localhost" "abcdefghijklmnopqrstuvwx").1 = .ok (some media) ∧
      media.sizeBytes ≤ shortSettings.uploads.maxBytes := by
  have stored : ((Gateway.ofSettings shortSettings none).toOption.map fun gateway =>
      ((gateway.after (.arrive smallUpload :: List.replicate 5 (.advance 0))
        (.start shortSettings .empty)).world.disk.get "localhost" "abcdefghijklmnopqrstuvwx").1.toOption) =
        some (some (some ⟨"localhost", "abcdefghijklmnopqrstuvwx", "application/octet-stream", "upload", 2,
          ["localhost", "abcdefghijklmnopqrstuvwx"]⟩)) := by
    decide +kernel
  obtain ⟨gateway, made, found⟩ := Option.map_eq_some_iff.mp stored
  have built : Gateway.ofSettings shortSettings none = .ok gateway := eq_ok_of_toOption made
  have settings : gateway.settings = shortSettings := (Gateway.ofSettings_eq_ok built).1
  have new : ∀ request ∈ [smallUpload], IsNewId request.newId := by
    rw [List.forall_mem_singleton]
    exact ⟨by decide +kernel, by decide +kernel⟩
  obtain ⟨admits, _, _, _, finds⟩ := Gateway.uploads_admitted_by_size
  have tooMuch : (gateway.context announcedUpload 0 []).AnnouncesTooMuch := by
    have length : (announcedUpload.headers.text? "content-length").bind (readUnsigned? max64) = some 104857601 := by
      decide +kernel
    refine ⟨104857601, Context.announces_iff.mpr length, ?_⟩
    change gateway.settings.uploads.maxBytes < _
    rw [settings]
    decide +kernel
  have unannounced : ¬ (gateway.context smallUpload 0 []).AnnouncesTooMuch := by
    rintro ⟨length, announced, _⟩
    have none : (smallUpload.headers.text? "content-length").bind (readUnsigned? max64) = none := by decide +kernel
    exact absurd (none.symm.trans (Context.announces_iff.mp announced)) (by simp)
  have fits : ¬ smallUpload.body.Overflows gateway.settings.uploads.maxBytes := by
    rw [Incoming.overflows_iff, settings]
    decide +kernel
  refine ⟨gateway, built, ?_, ?_, ?_⟩
  · exact (admits (gateway.context announcedUpload 0 []) announcedUpload.body .empty rfl rfl).tooLarge (Or.inl tooMuch)
  · exact (admits (gateway.context smallUpload 0 []) smallUpload.body .empty rfl rfl).stored unannounced fits rfl
  · have got := eq_ok_of_toOption found
    have bounded := finds shortSettings none gateway built (by decide +kernel)
      (.arrive smallUpload :: List.replicate 5 (.advance 0)) new
    exact ⟨_, got, (bounded _ _ _ got).1⟩

end MediaServer
