import MediaServer.Proofs.Gateway.Secrecy
import MediaServer.Proofs.Reply.Shapes
import MediaServer.Proofs.Route.Related

namespace MediaServer

/-- The same for the client: only what the log is told may be another thing. -/
def ApiError.AlikeButDetail (fault other : ApiError) : Prop :=
  fault.code = other.code ∧ fault.message = other.message

inductive Reply.AlikeButDetail : Reply → Reply → Prop
  | same (reply : Reply) : AlikeButDetail reply reply
  | error {fault other : ApiError} : fault.AlikeButDetail other → AlikeButDetail (.error fault) (.error other)

/-- What is logged on the way has no part in this. -/
structure Outcome.AlikeButDetail (outcome other : Outcome) : Prop where
  reply : outcome.reply.AlikeButDetail other.reply
  disk : outcome.disk = other.disk

/-- Asked the same on the same disk, both wait, or both leave what differs in details alone. -/
def Handler.AlikeButDetail (handler other : Handler) : Prop :=
  ∀ context disk, Option.Rel Outcome.AlikeButDetail (handler context disk) (other context disk)

structure Gateway.AlikeButDetail (gateway other : Gateway) : Prop where
  settings : gateway.settings = other.settings
  identicons : gateway.identicons? = other.identicons?
  routes : gateway.routes.Related Handler.AlikeButDetail other.routes

inductive Stage.AlikeButDetail : Stage → Stage → Prop
  | same (stage : Stage) : AlikeButDetail stage stage
  | routed (requestId : Nat) {handler other : Handler} (captures : Captures) : handler.AlikeButDetail other →
      AlikeButDetail (.routed requestId handler captures) (.routed requestId other captures)
  | handled (requestId : Nat) {reply other : Reply} : reply.AlikeButDetail other →
      AlikeButDetail (.handled requestId reply) (.handled requestId other)

/-- Nothing that requests share differs but the log. -/
def World.AlikeButLog (world other : World) : Prop :=
  ∃ log, other = { world with log }

theorem Handler.AlikeButDetail.refl (handler : Handler) : handler.AlikeButDetail handler := by
  intro context disk
  cases handler context disk with
  | none => exact .none
  | some outcome => exact .some ⟨.same _, rfl⟩

section Reply

variable {fault otherFault : ApiError} {reply other : Reply}

theorem ApiError.AlikeButDetail.body (alike : fault.AlikeButDetail otherFault) : fault.body = otherFault.body := by
  rw [ApiError.body, ApiError.body, alike.1, alike.2]

theorem Reply.encode_error (fault : ApiError) (disk : Disk) :
    ((Reply.error fault).encode disk).1 = .ofJson fault.code.status (Utf8.encode fault.body.toText) :=
  rfl

/-- The body of an error is an object of its code and its message, whatever characters they have, and of
nothing else. -/
theorem Reply.encode_error_read (fault : ApiError) (disk : Disk) :
    ∃ content, ((Reply.error fault).encode disk).1 =
        ⟨fault.code.status, [("content-type", jsonType)], .bytes content⟩ ∧
      Json.read? content = some (.object [("code", .text fault.code.text), ("message", .text fault.message)]) :=
  ⟨_, rfl, errorBody_read fault.code.text fault.message⟩

theorem Reply.AlikeButDetail.kind (alike : reply.AlikeButDetail other) : reply.kind = other.kind := by
  cases alike <;> rfl

theorem Reply.AlikeButDetail.encode (alike : reply.AlikeButDetail other) (disk : Disk) :
    (reply.encode disk).1 = (other.encode disk).1 ∧ (reply.encode disk).2.2 = (other.encode disk).2.2 := by
  cases alike with
  | same => exact ⟨rfl, rfl⟩
  | error alike =>
    rw [Reply.encode_error, Reply.encode_error, alike.1, alike.body]
    exact ⟨rfl, rfl⟩

end Reply

section Steps

variable {gateway other : Gateway} {world : World} {log : List LogEntry} (request : Request)

/-- Whether a client is refused has nothing to do with the log. -/
theorem Gateway.arrived_alike :
    (gateway.step world request .arrived).1.AlikeButLog (other.step { world with log } request .arrived).1 ∧
      (gateway.step world request .arrived).2.AlikeButDetail
        (other.step { world with log } request .arrived).2 := by
  obtain ⟨issued, disk, limiter?, tally, own⟩ := world
  rw [step, step, World.admit, World.admit]
  cases limiter? with
  | none => exact ⟨⟨log, rfl⟩, .same _⟩
  | some limiter =>
    dsimp only
    rcases limiter.check request.client request.arrival with ⟨_ | _, next⟩
    · exact ⟨⟨_, rfl⟩, .same _⟩
    · exact ⟨⟨log, rfl⟩, .same _⟩

theorem Gateway.AlikeButDetail.route (alike : gateway.AlikeButDetail other) (requestId : Nat) :
    (gateway.route world request requestId).1.AlikeButLog (other.route { world with log } request requestId).1 ∧
      (gateway.route world request requestId).2.AlikeButDetail
        (other.route { world with log } request requestId).2 := by
  rw [Gateway.route, Gateway.route, alike.settings]
  by_cases served : other.settings.serves request.host = true
  · rw [if_pos served, if_pos served]
    have answers := alike.routes.lookup request.method request.uri.path
    generalize gateway.routes.lookup request.method request.uri.path = answer at answers
    generalize other.routes.lookup request.method request.uri.path = otherAnswer at answers
    cases answers with
    | found captures handlers => exact ⟨⟨log, rfl⟩, .routed requestId captures handlers⟩
    | preflight => exact ⟨⟨log, rfl⟩, .same _⟩
    | methodNotAllowed => exact ⟨⟨log, rfl⟩, .same _⟩
    | notFound => exact ⟨⟨log, rfl⟩, .same _⟩
  · rw [if_neg served, if_neg served]
    exact ⟨⟨_, rfl⟩, .same _⟩

theorem Gateway.AlikeButDetail.handle (alike : gateway.AlikeButDetail other) (requestId : Nat)
    {handler otherHandler : Handler} (handlers : handler.AlikeButDetail otherHandler) (captures : Captures) :
    (gateway.handle world request requestId handler captures).1.AlikeButLog
        (other.handle { world with log } request requestId otherHandler captures).1 ∧
      (gateway.handle world request requestId handler captures).2.AlikeButDetail
        (other.handle { world with log } request requestId otherHandler captures).2 := by
  have context : gateway.context request requestId captures = other.context request requestId captures := by
    rw [Gateway.context, Gateway.context, alike.settings, alike.identicons]
  have outcomes := handlers (other.context request requestId captures) world.disk
  rw [Gateway.handle, Gateway.handle, context]
  dsimp only
  generalize handler (other.context request requestId captures) world.disk = outcome? at outcomes
  generalize otherHandler (other.context request requestId captures) world.disk = other? at outcomes
  cases outcomes with
  | none => exact ⟨⟨log, rfl⟩, .routed requestId captures handlers⟩
  | @some outcome otherOutcome outcomes =>
    obtain ⟨reply, events, disk⟩ := outcome
    obtain ⟨otherReply, otherEvents, otherDisk⟩ := otherOutcome
    obtain ⟨replies, rfl⟩ := outcomes
    exact ⟨⟨_, rfl⟩, .handled requestId replies⟩

theorem Gateway.AlikeButDetail.answer (alike : gateway.AlikeButDetail other) (requestId : Nat)
    {reply otherReply : Reply} (replies : reply.AlikeButDetail otherReply) :
    (gateway.answer world request requestId reply).1.AlikeButLog
        (other.answer { world with log } request requestId otherReply).1 ∧
      (gateway.answer world request requestId reply).2.AlikeButDetail
        (other.answer { world with log } request requestId otherReply).2 := by
  obtain ⟨response, disk⟩ := replies.encode world.disk
  rw [Gateway.answer, Gateway.answer, alike.settings]
  dsimp only
  rw [response, disk, replies.kind]
  exact ⟨⟨_, rfl⟩, .same _⟩

/-- Of two servers that differ in details alone, each step leads to worlds that differ in the log alone, and to
stages that differ in details alone. -/
theorem Gateway.AlikeButDetail.step (alike : gateway.AlikeButDetail other) {otherWorld : World}
    (worlds : world.AlikeButLog otherWorld) {stage twin : Stage} (stages : stage.AlikeButDetail twin) :
    (gateway.step world request stage).1.AlikeButLog (other.step otherWorld request twin).1 ∧
      (gateway.step world request stage).2.AlikeButDetail (other.step otherWorld request twin).2 := by
  obtain ⟨log, rfl⟩ := worlds
  cases stages with
  | routed requestId captures handlers => exact alike.handle request requestId handlers captures
  | handled requestId replies => exact alike.answer request requestId replies
  | same =>
    cases stage with
    | arrived => exact arrived_alike request
    | admitted => exact ⟨⟨_, rfl⟩, .same _⟩
    | numbered requestId => exact alike.route request requestId
    | routed requestId handler captures => exact alike.handle request requestId (.refl handler) captures
    | handled requestId reply => exact alike.answer request requestId (.same reply)
    | answered response => exact ⟨⟨log, rfl⟩, .same _⟩

/-- A request that is taken further by both on its own. -/
theorem Gateway.AlikeButDetail.run (alike : gateway.AlikeButDetail other) (count : Nat) {otherWorld : World}
    (worlds : world.AlikeButLog otherWorld) {stage twin : Stage} (stages : stage.AlikeButDetail twin) :
    (gateway.run request count (world, stage)).1.AlikeButLog (other.run request count (otherWorld, twin)).1 ∧
      (gateway.run request count (world, stage)).2.AlikeButDetail
        (other.run request count (otherWorld, twin)).2 := by
  induction count generalizing world otherWorld stage twin with
  | zero => exact ⟨worlds, stages⟩
  | succ count ih =>
    obtain ⟨stepped, next⟩ := alike.step request worlds stages
    exact ih stepped next

end Steps

/-- The same request on both sides, equally far but for details. -/
def Stage.Twins (entry twin : Request × Stage) : Prop :=
  entry.1 = twin.1 ∧ entry.2.AlikeButDetail twin.2

theorem World.AlikeButLog.sweep {world other : World} (alike : world.AlikeButLog other) (now : Nat) :
    (world.sweep now).AlikeButLog (other.sweep now) := by
  obtain ⟨log, rfl⟩ := alike
  exact ⟨log, rfl⟩

theorem Stage.AlikeButDetail.response? {stage twin : Stage} (alike : stage.AlikeButDetail twin) :
    stage.response? = twin.response? := by
  cases alike <;> rfl

variable {gateway other : Gateway}

theorem Gateway.AlikeButDetail.move (alike : gateway.AlikeButDetail other) {running twin : Running}
    (paired : running.Paired World.AlikeButLog Stage.Twins twin) (move : Move) :
    (gateway.move running move).Paired World.AlikeButLog Stage.Twins (other.move twin move) := by
  cases move with
  | arrive request => exact paired.arrive ⟨rfl, .same _⟩
  | sweep now => exact paired.sweep (paired.world.sweep now)
  | advance place =>
    apply paired.advance place
    rintro ⟨request, stage⟩ ⟨_, twinStage⟩ _ ⟨rfl, stages⟩
    obtain ⟨worlds, next⟩ := alike.step request paired.world stages
    exact ⟨worlds, rfl, next⟩

theorem Gateway.AlikeButDetail.after (alike : gateway.AlikeButDetail other) (moves : List Move)
    {running twin : Running} (paired : running.Paired World.AlikeButLog Stage.Twins twin) :
    (gateway.after moves running).Paired World.AlikeButLog Stage.Twins (other.after moves twin) := by
  induction moves generalizing running twin with
  | nil => exact paired
  | cons move moves ih => exact ih (alike.move paired move)

/-- Handlers that differ in details alone make servers that do, or none. -/
theorem Gateway.withHandlers_alike {handlers others : Endpoint → Handler}
    (alike : ∀ endpoint, (handlers endpoint).AlikeButDetail (others endpoint)) (settings : Settings)
    (identicons? : Option IdenticonMaker) :
    RelatedResults AlikeButDetail (withHandlers settings identicons? handlers)
      (withHandlers settings identicons? others) := by
  have tables := mediaRoutes_related alike settings.general.apiPrefix settings.general.versions
  unfold withHandlers
  generalize mediaRoutes handlers settings.general.apiPrefix settings.general.versions = table at tables
  generalize mediaRoutes others settings.general.apiPrefix settings.general.versions = otherTable at tables
  cases tables with
  | error fault => exact .error fault
  | ok related => exact .ok ⟨rfl, rfl, related⟩

def Reply.withoutDetail : Reply → Reply
  | .error fault => .error { fault with detail? := none }
  | reply => reply

/-- The handler, which tells the log no details. -/
def Handler.withoutDetail (handler : Handler) : Handler :=
  fun context disk =>
    (handler context disk).map fun outcome => { outcome with reply := outcome.reply.withoutDetail }

theorem Handler.alike_withoutDetail (handler : Handler) : handler.AlikeButDetail handler.withoutDetail := by
  intro context disk
  rw [withoutDetail]
  cases handler context disk with
  | none => exact .none
  | some outcome =>
    refine .some ⟨?_, rfl⟩
    obtain ⟨reply, events, later⟩ := outcome
    cases reply with
    | error fault => exact .error ⟨rfl, rfl⟩
    | _ => exact .same _

/-- The body of an error reads as its code and its message and nothing else, and its details show nowhere.
Errors that differ in details alone are encoded as one response; and two servers whose handlers differ in the
details of errors, and in what they log, send the same responses in every run, and to every request after it. -/
theorem Gateway.details_unseen :
    (∀ fault : ApiError, ∀ disk, ∃ content, ((Reply.error fault).encode disk).1 =
        ⟨fault.code.status, [("content-type", jsonType)], .bytes content⟩ ∧
      Json.read? content = some (.object [("code", .text fault.code.text), ("message", .text fault.message)])) ∧
    (∀ fault otherFault : ApiError, fault.AlikeButDetail otherFault → ∀ disk,
      ((Reply.error fault).encode disk).1 = ((Reply.error otherFault).encode disk).1) ∧
    ∀ gateway other : Gateway, gateway.AlikeButDetail other → ∀ disk moves,
      let run := gateway.after moves (.start gateway.settings disk)
      let twin := other.after moves (.start other.settings disk)
      (∀ place, run.response? place = twin.response? place) ∧
        ∀ request, (gateway.dispatch run.world request).2 = (other.dispatch twin.world request).2 ∧
          (gateway.serve run.world request).2 = (other.serve twin.world request).2 := by
  refine ⟨Reply.encode_error_read, fun _ _ alike disk => ((Reply.AlikeButDetail.error alike).encode disk).1, ?_⟩
  intro gateway other alike disk moves run twin
  have start : (Running.start gateway.settings disk).Paired World.AlikeButLog Stage.Twins
      (.start other.settings disk) := by
    rw [alike.settings]
    exact ⟨⟨_, rfl⟩, .nil⟩
  have reached := alike.after moves start
  constructor
  · apply reached.response?
    rintro ⟨request, stage⟩ ⟨_, twinStage⟩ ⟨rfl, stages⟩
    exact congrArg (Option.map _) stages.response?
  · intro request
    have dispatched := alike.run request 4 reached.world (.same .admitted)
    have served := alike.run request 5 reached.world (.same .arrived)
    exact ⟨dispatched.2.response?, congrArg (Option.map _) served.2.response?⟩

def previewSettings : Settings :=
  { shortSettings with previewsEnabled := true }

/-- The address that a client asks to preview is the detail of the error, and is logged. Without it the client
is sent the same. -/
theorem previewRequest_detail_unseen : ∃ gateway other response,
    Gateway.withHandlers previewSettings none Endpoint.handler = .ok gateway ∧
      Gateway.withHandlers previewSettings none (fun endpoint => endpoint.handler.withoutDetail) = .ok other ∧
      let moves := .arrive previewRequest :: List.replicate 5 (.advance 0)
      let run := gateway.after moves (.start gateway.settings .empty)
      let twin := other.after moves (.start other.settings .empty)
      run.world.log ≠ twin.world.log ∧ run.response? 0 = some response ∧ twin.response? 0 = some response := by
  have evaluated : ((Gateway.withHandlers previewSettings none Endpoint.handler).toOption.bind fun gateway =>
      (Gateway.withHandlers previewSettings none (fun endpoint => endpoint.handler.withoutDetail)).toOption.bind
        fun other =>
          let moves := .arrive previewRequest :: List.replicate 5 (.advance 0)
          let run := gateway.after moves (.start gateway.settings .empty)
          let twin := other.after moves (.start other.settings .empty)
          if run.world.log = twin.world.log then none else run.response? 0).isSome = true := by
    decide +kernel
  obtain ⟨response, found⟩ := Option.isSome_iff_exists.mp evaluated
  obtain ⟨gateway, made, found⟩ := Option.bind_eq_some_iff.mp found
  obtain ⟨other, otherMade, found⟩ := Option.bind_eq_some_iff.mp found
  have built := eq_ok_of_toOption made
  have otherBuilt := eq_ok_of_toOption otherMade
  obtain ⟨logs, answered⟩ := Option.ite_none_left_eq_some.mp found
  have results := Gateway.withHandlers_alike (fun endpoint => endpoint.handler.alike_withoutDetail)
    previewSettings none
  rw [built, otherBuilt] at results
  cases results with
  | ok alike =>
    obtain ⟨same, _⟩ := Gateway.details_unseen.2.2 gateway other alike .empty
      (.arrive previewRequest :: List.replicate 5 (.advance 0))
    exact ⟨gateway, other, response, built, otherBuilt, logs, answered, (same 0).symm.trans answered⟩

end MediaServer
