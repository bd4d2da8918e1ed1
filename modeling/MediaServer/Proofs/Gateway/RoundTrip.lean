import MediaServer.Proofs.Gateway.Download
import MediaServer.Proofs.Gateway.Turns
import MediaServer.Proofs.Route.Below

namespace MediaServer

/-- Ids have letters and digits only, and no request but the one at a place has this id drawn for it. -/
def Running.IdsApart (running : Running) (place : Nat) (mediaId : String) : Prop :=
  ∀ other request, running.asked[other]? = some request →
    CaptureClass.mediaId.accepts request.newId = true ∧ (other ≠ place → request.newId ≠ mediaId)

variable {gateway : Gateway} {running : Running} {upload get : Request} {place : Nat}

theorem Running.IdsApart.of_after {moves : List Move} {mediaId : String}
    (ids : (gateway.after moves running).IdsApart place mediaId) : running.IdsApart place mediaId := by
  intro other request there
  apply ids other request
  rw [Gateway.asked_after, List.getElem?_append_left (List.getElem?_eq_some_iff.mp there).1, there]

theorem Running.IdsApart.of_move {move : Move} {mediaId : String}
    (ids : (gateway.move running move).IdsApart place mediaId) : running.IdsApart place mediaId :=
  @of_after gateway running place [move] mediaId ids

theorem Request.UploadStage.kept {settings : Settings} {other : Request} {disk new : Disk} {stage : Stage}
    (sofar : upload.UploadStage settings disk stage) (kept : disk.KeptIn other.places new)
    (uploadId : CaptureClass.mediaId.accepts upload.newId = true)
    (otherId : CaptureClass.mediaId.accepts other.newId = true) (different : other.newId ≠ upload.newId) :
    upload.UploadStage settings new stage := by
  cases stage with
  | handled requestId reply =>
    rcases sofar with failed | ⟨reply, stored⟩
    · exact Or.inl failed
    · exact Or.inr ⟨reply, stored.kept kept uploadId otherId different⟩
  | answered response =>
    intro ok
    obtain ⟨payload, stored⟩ := sofar ok
    exact ⟨payload, stored.kept kept uploadId otherId different⟩
  | _ => exact sofar

/-- The stage of an upload says the truth about the disk, and no other handlers are at work. -/
structure Running.Truthful (settings : Settings) (place : Nat) (upload : Request) (running : Running) : Prop where
  builtIn : running.BuiltIn
  upload : ∀ stage, running.requests[place]? = some (upload, stage) →
    upload.UploadStage settings running.world.disk stage

theorem Running.start_truthful {settings : Settings} {disk : Disk} :
    (Running.start settings disk).Truthful settings place upload := by
  constructor
  · intro entry member
    cases member
  · intro stage absent
    cases absent

section Upload

variable (media : gateway.BuiltIn) {captures : Captures}
  (uploadFound : gateway.routes.lookup upload.method upload.uri.path = .found Endpoint.upload.handler captures)

include media uploadFound

theorem Running.Truthful.move (truthful : running.Truthful gateway.settings place upload)
    (ids : running.IdsApart place upload.newId) (move : Move) :
    (gateway.move running move).Truthful gateway.settings place upload := by
  refine ⟨media.move truthful.builtIn move, ?_⟩
  intro stage there
  cases move with
  | arrive request =>
    rw [Gateway.move, List.getElem?_append] at there
    split at there
    · exact truthful.upload stage there
    · have new := List.mem_of_getElem? there
      cases List.mem_singleton.mp new
      trivial
  | sweep now => exact truthful.upload stage there
  | advance other =>
    rcases otherThere : running.requests[other]? with _ | ⟨request, otherStage⟩
    · rw [Gateway.move_advance_none otherThere] at there ⊢
      exact truthful.upload stage there
    · rw [Gateway.move_advance otherThere] at there ⊢
      rw [Running.requests_set otherThere] at there
      split at there
      · rename_i same
        obtain ⟨rfl, rfl⟩ := there
        subst same
        exact gateway.upload_step uploadFound (truthful.upload otherStage otherThere)
      · rename_i different
        obtain ⟨uploadId, _⟩ := ids place upload (Running.asked_getElem? there)
        obtain ⟨otherId, apart⟩ := ids other request (Running.asked_getElem? otherThere)
        have kept := @Gateway.step_kept gateway running.world request otherStage
          (truthful.builtIn _ (Running.mem_requests otherThere))
        exact (truthful.upload stage there).kept kept uploadId otherId (apart fun same => different same.symm)

/-- Whatever happens, the stage of an upload keeps saying the truth about the disk. -/
theorem Running.Truthful.after (truthful : running.Truthful gateway.settings place upload)
    {moves : List Move} (ids : (gateway.after moves running).IdsApart place upload.newId) :
    (gateway.after moves running).Truthful gateway.settings place upload := by
  induction moves generalizing running with
  | nil => exact truthful
  | cons move moves ih => exact ih (truthful.move media uploadFound ids.of_after move) ids

variable (range : gateway.settings.uploads.maxBytes ≤ max64)
  (served : gateway.settings.serves get.host = true)
  (getFound : gateway.routes.lookup get.method get.uri.path =
    .found Endpoint.download.handler [("server", upload.host), ("media_id", upload.newId)])

include range served getFound

/-- Five steps answer a download, whatever happens in between. -/
theorem Gateway.download_after {answer : Response} (ok : answer.status = 200)
    (truthful : running.Truthful gateway.settings place upload)
    (answered : running.requests[place]? = some (upload, .answered answer)) {moves : List Move}
    (ids : (gateway.after moves running).IdsApart place upload.newId) {getPlace : Nat} {stage : Stage}
    (there : running.requests[getPlace]? = some (get, stage)) (sofar : upload.DownloadStage stage)
    (enough : 5 ≤ stage.progress + moves.countP (Move.advances getPlace)) :
    ∃ response, (gateway.after moves running).requests[getPlace]? = some (get, .answered response) ∧
      upload.DownloadStage (.answered response) := by
  induction moves generalizing running stage with
  | nil =>
    cases stage with
    | answered response => exact ⟨response, there, sofar⟩
    | _ => simp [Stage.progress] at enough
  | cons move moves ih =>
    have now : running.IdsApart place upload.newId := ids.of_after
    have next := truthful.move media uploadFound now move
    have still := @Gateway.answered_after gateway running place upload answer [move] answered
    obtain ⟨uploadId, _⟩ := now place upload (Running.asked_getElem? answered)
    rw [List.countP_cons] at enough
    cases move with
    | arrive request =>
      exact ih next still ids (requests_arrive there request) sofar (by simpa [Move.advances] using enough)
    | sweep instant => exact ih next still ids there sofar (by simpa [Move.advances] using enough)
    | advance other =>
      by_cases own : other = getPlace
      · subst own
        have stored := (truthful.upload _ answered ok).2
        obtain ⟨kept, further⟩ := gateway.download_step stored range uploadId served getFound sofar
        have stepped : (gateway.move running (.advance other)).requests[other]? =
            some (get, (gateway.step running.world get stage).2) := by
          rw [move_advance there]
          exact Running.requests_set_self there _
        apply ih next still ids stepped kept
        simp only [Move.advances, beq_self_eq_true, if_true] at enough
        omega
      · have elsewhere := @requests_advance_other gateway running getPlace get stage there other own
        exact ih next still ids elsewhere sofar (by simpa [Move.advances, own] using enough)

end Upload

/-- The path prefix and the versions are made of parts that stand for themselves. -/
structure Settings.IsLiteral (settings : Settings) : Prop where
  path : ∃ texts, settings.general.apiPrefix = slashed texts ∧
    ∀ text ∈ texts, (Segment.literal text).Wellformed
  versions : ∀ version ∈ settings.general.versions, (Segment.literal version).Wellformed

structure Request.IsUpload (settings : Settings) (request : Request) : Prop where
  method : request.method = "POST"
  path : ∃ version ∈ settings.general.versions,
    request.uri.path = settings.general.apiPrefix ++ "/" ++ version ++ "/upload"

/-- A request for an item, sent to any host that is served, to any of the versions. -/
structure Request.IsDownload (settings : Settings) (server mediaId : String) (request : Request) : Prop where
  method : request.method = "GET"
  path : ∃ version ∈ settings.general.versions,
    request.uri.path = settings.general.apiPrefix ++ "/" ++ version ++ "/download/" ++ server ++ "/" ++ mediaId
  host : settings.serves request.host = true

theorem Gateway.BuiltIn.upload_found (media : gateway.BuiltIn) (literal : gateway.settings.IsLiteral)
    (isUpload : upload.IsUpload gateway.settings) :
    gateway.routes.lookup upload.method upload.uri.path = .found Endpoint.upload.handler [] := by
  obtain ⟨texts, written, literalTexts⟩ := literal.path
  obtain ⟨version, known, path⟩ := isUpload.path
  rw [Gateway.BuiltIn, written] at media
  rw [isUpload.method, path, written]
  exact mediaRoutes_upload media literalTexts literal.versions known

theorem Gateway.BuiltIn.download_found (media : gateway.BuiltIn) (literal : gateway.settings.IsLiteral)
    (authority : CaptureClass.authority.accepts upload.host = true)
    (id : CaptureClass.mediaId.accepts upload.newId = true)
    (isDownload : get.IsDownload gateway.settings upload.host upload.newId) :
    gateway.routes.lookup get.method get.uri.path =
      .found Endpoint.download.handler [("server", upload.host), ("media_id", upload.newId)] := by
  obtain ⟨texts, written, literalTexts⟩ := literal.path
  obtain ⟨version, known, path⟩ := isDownload.path
  rw [Gateway.BuiltIn, written] at media
  rw [isDownload.method, path, written]
  exact mediaRoutes_download media literalTexts literal.versions known authority id

/-- An upload that is answered with 200 names an address. Whoever asks for that address later is sent what
was uploaded, unless the limiter refuses the request in one of its steps. Other requests may come and take
steps at any time, as long as none of them has the same id drawn for it. -/
theorem Gateway.upload_then_download {settings : Settings} {identicons? : Option IdenticonMaker}
    (built : Gateway.ofSettings settings identicons? = .ok gateway) (literal : settings.IsLiteral)
    (range : settings.uploads.maxBytes ≤ max64) {disk : Disk} {before later last : List Move}
    {answer : Response} (isUpload : upload.IsUpload settings)
    (authority : CaptureClass.authority.accepts upload.host = true)
    (asked : (gateway.after before (.start settings disk)).asked[place]? = some upload)
    (answered : (gateway.after before (.start settings disk)).response? place = some answer)
    (ok : answer.status = 200) (isDownload : get.IsDownload settings upload.host upload.newId)
    (ids : (gateway.after (before ++ later ++ .arrive get :: last) (.start settings disk)).IdsApart place
      upload.newId)
    (steps : 5 ≤ last.countP
      (Move.advances (gateway.after (before ++ later) (.start settings disk)).asked.length)) :
    answer.payload = .bytes (Utf8.encode upload.contentUri.toText) ∧
      ∃ response, (gateway.after (before ++ later ++ .arrive get :: last) (.start settings disk)).response?
          (gateway.after (before ++ later) (.start settings disk)).asked.length = some response ∧
        ((∃ turn ∈ turnsAt (gateway.after (before ++ later) (.start settings disk)).asked.length
              (gateway.turns (before ++ later ++ .arrive get :: last) (.start settings disk)),
            turn.refused = true) ∧ response = Response.rateLimited.finish "GET" ∨
          response.Delivers upload.bytes upload.sentType upload.sentName) := by
  obtain ⟨rfl, media⟩ := Gateway.ofSettings_eq_ok built
  have uploadFound := media.upload_found literal isUpload
  have recounts := (gateway.start_recounts gateway.settings disk).after (before ++ later ++ .arrive get :: last)
  rw [List.nil_append] at recounts
  generalize gateway.turns (before ++ later ++ .arrive get :: last) (.start gateway.settings disk) = turns
    at recounts ⊢
  rw [List.append_assoc, after_append, after_append, after_cons] at ids recounts ⊢
  rw [after_append] at steps ⊢
  obtain ⟨request, response, there, rfl⟩ := Running.response?_eq_some_iff.mp answered
  obtain rfl : upload = request := by
    rw [Running.asked_getElem? there] at asked
    exact (Option.some.inj asked).symm
  have noHead : upload.method ≠ "HEAD" := by
    rw [isUpload.method]
    decide +kernel
  rw [Response.status_finish] at ok
  rw [Response.payload_finish noHead]
  -- ids that are apart at the end have been so at every moment before
  have idsLast := ids.of_after
  have idsLater := idsLast.of_move
  have truthful := Running.start_truthful.after media uploadFound idsLater.of_after
  refine ⟨(truthful.upload _ there ok).1, ?_⟩
  have ready := (truthful.after media uploadFound idsLater).move media uploadFound idsLater (.arrive get)
  have still := gateway.answered_after (later ++ [.arrive get]) there
  rw [after_append] at still
  obtain ⟨uploadId, _⟩ := idsLast place upload (Running.asked_getElem? still)
  have getFound := media.download_found literal authority uploadId isDownload
  generalize gateway.after later (gateway.after before (.start gateway.settings disk)) = running
    at ids steps recounts ready still ⊢
  rw [Running.asked, List.length_map] at steps ⊢
  have arrived : (gateway.move running (.arrive get)).requests[running.requests.length]? =
      some (get, .arrived) := by simp [Gateway.move]
  obtain ⟨sent, atEnd, outcome⟩ := gateway.download_after media uploadFound range isDownload.host getFound
    ok ready still ids arrived trivial (by simpa [Stage.progress] using steps)
  refine ⟨sent.finish "GET", Running.response?_eq_some_iff.mpr ⟨get, sent, atEnd, ?_⟩, ?_⟩
  · rw [isDownload.method]
  · rcases outcome with rfl | delivers
    · exact Or.inl ⟨(recounts.tells atEnd).refused, rfl⟩
    · exact Or.inr delivers

/-- Three bytes under a name with a quote in it, sent to a host with a port. -/
def quotedUpload : Request where
  method := "POST"
  uri := ⟨none, "/m/r0/upload", some "filename=a%22b.txt&access_token=secret"⟩
  headers := [("host", Utf8.encode "localhost:8448"), ("content-type", Utf8.encode "text/plain")]
  body := ⟨[[1, 2], [], [3]], .complete⟩
  peer? := none
  arrival := 0
  newId := "a1"
  guardFirst := fun _ => false

def quotedDownload : Request where
  method := "GET"
  uri := ⟨none, "/m/r0/download/localhost/a1", none⟩
  headers := [("host", Utf8.encode "localhost")]
  body := ⟨[], .complete⟩
  peer? := none
  arrival := 7
  newId := "b2"
  guardFirst := fun _ => false

theorem quotedUpload_then_download : ∃ gateway answer response,
    Gateway.ofSettings shortSettings none = .ok gateway ∧
      (gateway.after (.arrive quotedUpload :: List.replicate 5 (.advance 0))
        (.start shortSettings .empty)).response? 0 = some answer ∧
      answer.status = 200 ∧
      (gateway.after (.arrive quotedUpload :: List.replicate 5 (.advance 0) ++ [] ++
        .arrive quotedDownload :: List.replicate 5 (.advance 1)) (.start shortSettings .empty)).response? 1 =
          some response ∧
      response.Delivers quotedUpload.bytes quotedUpload.sentType quotedUpload.sentName := by
  have status : ((Gateway.ofSettings shortSettings none).toOption.bind fun gateway =>
      ((gateway.after (.arrive quotedUpload :: List.replicate 5 (.advance 0))
        (.start shortSettings .empty)).response? 0).map (·.status)) = some 200 := by
    decide +kernel
  obtain ⟨gateway, made, sent⟩ := Option.bind_eq_some_iff.mp status
  obtain ⟨answer, answered, ok⟩ := Option.map_eq_some_iff.mp sent
  have built : Gateway.ofSettings shortSettings none = .ok gateway := eq_ok_of_toOption made
  have literal : shortSettings.IsLiteral := by
    constructor
    · refine ⟨["m"], by decide +kernel, ?_⟩
      rw [List.forall_mem_singleton]
      exact Segment.wellformed_of_isVersion (by decide +kernel)
    · intro version known
      cases List.mem_singleton.mp known
      exact Segment.wellformed_of_isVersion (by decide +kernel)
  have isUpload : quotedUpload.IsUpload shortSettings := ⟨rfl, "r0", by decide +kernel, by decide +kernel⟩
  have isDownload : quotedDownload.IsDownload shortSettings quotedUpload.host quotedUpload.newId :=
    ⟨rfl, ⟨"r0", by decide +kernel, by decide +kernel⟩, by decide +kernel⟩
  have asked : (gateway.after (.arrive quotedUpload :: List.replicate 5 (.advance 0))
      (.start shortSettings .empty)).asked = [quotedUpload] := gateway.asked_after _
  have both : (gateway.after (.arrive quotedUpload :: List.replicate 5 (.advance 0) ++ [] ++
      .arrive quotedDownload :: List.replicate 5 (.advance 1)) (.start shortSettings .empty)).asked =
        [quotedUpload, quotedDownload] := gateway.asked_after _
  have ids : (gateway.after (.arrive quotedUpload :: List.replicate 5 (.advance 0) ++ [] ++
      .arrive quotedDownload :: List.replicate 5 (.advance 1)) (.start shortSettings .empty)).IdsApart 0
        quotedUpload.newId := by
    intro other request there
    rw [both] at there
    rcases other with _ | _ | other
    · cases there
      exact ⟨by decide +kernel, fun elsewhere => absurd rfl elsewhere⟩
    · cases there
      exact ⟨by decide +kernel, fun _ => by decide +kernel⟩
    · cases there
  obtain ⟨_, response, sent, outcome⟩ := Gateway.upload_then_download built literal (by decide) isUpload
    (by decide +kernel) (by rw [asked]; rfl) answered ok isDownload ids
    (by rw [List.append_nil, asked]; decide)
  rw [List.append_nil, asked] at sent
  refine ⟨gateway, answer, response, built, answered, ok, sent, ?_⟩
  rcases outcome with ⟨⟨turn, member, refused⟩, _⟩ | delivers
  · -- There is no limiter.
    have letIn := @Gateway.letIn_of_unlimited gateway (.start shortSettings .empty) rfl _ turn
      (List.mem_filter.mp member).1
    rw [letIn] at refused
    cases refused
  · exact delivers

end MediaServer
