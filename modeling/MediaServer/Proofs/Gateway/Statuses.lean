import MediaServer.Proofs.Gateway.Download
import MediaServer.Proofs.Gateway.Shapes

namespace MediaServer

/-- The codes that the protocol gives a status of their own. -/
def protocolStatuses : List (String × Nat) := [
  ("M_UNKNOWN_TOKEN", 403),
  ("M_NOT_FOUND", 404),
  ("M_MEDIA_TOO_LARGE", 413),
  ("M_BAD_REQUEST", 400),
  ("M_METHOD_NOT_ALLOWED", 405)]

/-- The status that the protocol gives to a code as clients are told it. -/
def protocolStatus (code : String) : Nat :=
  (protocolStatuses.lookup code).getD 500

/-- A further code with the text of one that has a status of its own. -/
def ErrorCode.Shadows : ErrorCode → Prop
  | .other text => text ∈ protocolStatuses.map (·.1)
  | _ => False

instance (code : ErrorCode) : Decidable code.Shadows :=
  match code with
  | .other text => inferInstanceAs (Decidable (text ∈ protocolStatuses.map (·.1)))
  | .unknownToken | .notFound | .mediaTooLarge | .badRequest | .methodNotAllowed | .unknown =>
    inferInstanceAs (Decidable False)

theorem protocolStatus_of_not_mem {code : String} (further : code ∉ protocolStatuses.map (·.1)) :
    protocolStatus code = 500 := by
  rw [protocolStatus, List.lookup_eq_none_iff.mpr]
  · rfl
  · intro entry member
    have other : code ≠ entry.1 := fun same => further (List.mem_map.mpr ⟨entry, member, same.symm⟩)
    exact bne_iff_ne.mpr other

theorem protocolStatus_ne_of_mem {code : String} (own : code ∈ protocolStatuses.map (·.1)) :
    protocolStatus code ≠ 500 := by
  have all : ∀ code ∈ protocolStatuses.map (·.1), protocolStatus code ≠ 500 := by decide
  exact all code own

/-- The status of an error is the one of its code as clients are told it, but for further codes that shadow
one of the protocol. -/
theorem ErrorCode.status_eq (code : ErrorCode) :
    code.status = if code.Shadows then 500 else protocolStatus code.text := by
  cases code with
  | other text =>
    by_cases own : text ∈ protocolStatuses.map (·.1)
    · exact (if_pos own).symm
    · exact (protocolStatus_of_not_mem own).symm.trans (if_neg own).symm
  | _ => decide

theorem ErrorCode.Shadows.text_mem {code : ErrorCode} (shadows : code.Shadows) :
    code.text ∈ protocolStatuses.map (·.1) := by
  cases code with
  | other text => exact shadows
  | _ => exact shadows.elim

/-- Codes that clients are told alike have one status, unless just one of them shadows the other. -/
theorem ErrorCode.status_eq_iff {code other : ErrorCode} (same : code.text = other.text) :
    code.status = other.status ↔ (code.Shadows ↔ other.Shadows) := by
  rw [status_eq code, status_eq other, same]
  by_cases shadows : code.Shadows <;> by_cases otherShadows : other.Shadows
  · simp [shadows, otherShadows]
  · have own := same ▸ shadows.text_mem
    simp [shadows, otherShadows, (protocolStatus_ne_of_mem own).symm]
  · simp [shadows, otherShadows, protocolStatus_ne_of_mem otherShadows.text_mem]
  · simp [shadows, otherShadows]

/-- An error whose code says nothing that is left to another one. -/
def Reply.Plain : Reply → Prop
  | .error fault => ¬ fault.code.Shadows
  | _ => True

section Handlers

variable {context : Context} {disk : Disk}

theorem Context.findMedia_plain {fault : ApiError} (refused : (context.findMedia disk).1 = .error fault) :
    ¬ fault.code.Shadows := by
  unfold findMedia at refused
  split at refused
  · split at refused
    · cases refused
      exact id
    · split at refused <;> cases refused <;> exact id
  · cases refused
    exact id

theorem Context.dimension_plain {name : String} {limit : Nat} {fault : ApiError}
    (refused : context.dimension name limit = .error fault) : ¬ fault.code.Shadows := by
  unfold dimension at refused
  dsimp only at refused
  split at refused
  · cases refused
  · split at refused
    · cases refused
      exact id
    · split at refused <;> cases refused
      exact id

theorem Context.thumbnailFault_plain {fault : ApiError} (refused : context.thumbnailFault? = some fault) :
    ¬ fault.code.Shadows := by
  unfold thumbnailFault? at refused
  split at refused
  · rename_i width
    cases refused
    exact dimension_plain width
  · split at refused
    · rename_i height
      cases refused
      exact dimension_plain height
    · split at refused <;> cases refused
      exact id

theorem Context.previewUrl_plain : ¬ context.previewUrl.code.Shadows := by
  unfold previewUrl
  split
  · exact id
  · split <;> exact id

theorem Context.identicon_plain {fault : ApiError} (refused : context.identicon = .error fault) :
    ¬ fault.code.Shadows := by
  rcases context.identicon_cases with ⟨_, made⟩ | ⟨_, missing⟩ | ⟨_, _, sized, made⟩
  · rw [made] at refused
    cases refused
  · rw [missing] at refused
    cases refused
    exact id
  · rw [made] at refused
    cases refused
    exact dimension_plain sized

theorem Reply.ofExcept_plain {α : Type} {wrap : α → Reply} {result : Except ApiError α}
    (wraps : ∀ value, (wrap value).Plain) (plain : ∀ fault, result = .error fault → ¬ fault.code.Shadows) :
    (Reply.ofExcept wrap result).Plain := by
  cases result with
  | ok value => exact wraps value
  | error fault => exact plain fault rfl

theorem Context.foundMedia_plain (name : StoredMedia → String) :
    (Reply.ofExcept .media ((context.findMedia disk).1.map fun media => media.stream (name media))).Plain := by
  refine Reply.ofExcept_plain (fun _ => trivial) fun fault refused => ?_
  rcases looked : (context.findMedia disk).1 with missing | media
  · rw [looked] at refused
    cases refused
    exact findMedia_plain looked
  · rw [looked] at refused
    cases refused

theorem Context.upload_plain {outcome : Outcome} (handled : context.upload disk = some outcome) :
    outcome.reply.Plain := by
  unfold upload at handled
  dsimp only at handled
  split at handled
  · cases handled
    exact id
  · split at handled
    · cases handled
    · cases handled
      unfold storeUpload
      split
      · trivial
      · exact id
    all_goals
      cases handled
      exact id

/-- The handlers of the media interface know no codes but those that have a name. -/
theorem Endpoint.handler_plain (endpoint : Endpoint) {outcome : Outcome}
    (handled : endpoint.handler context disk = some outcome) : outcome.reply.Plain := by
  cases endpoint with
  | upload => exact context.upload_plain handled
  | download =>
    cases handled
    exact Context.foundMedia_plain fun media => (context.capture? "filename").getD media.filename
  | thumbnail =>
    cases handled
    unfold Context.thumbnail
    split
    · rename_i refused
      exact Context.thumbnailFault_plain refused
    · exact Context.foundMedia_plain fun media => media.filename
  | previewUrl =>
    cases handled
    exact Context.previewUrl_plain
  | identicon =>
    cases handled
    exact Reply.ofExcept_plain (fun _ => trivial) fun fault => Context.identicon_plain

end Handlers

/-- What is handed on to be answered is plain. -/
def Stage.Plain : Stage → Prop
  | .handled _ reply => reply.Plain
  | _ => True

section Steps

variable {gateway : Gateway} {world : World} {request : Request} {stage : Stage} {disk : Disk}

/-- Neither a host that is not served nor a path that leads nowhere is told by a further code. -/
theorem Gateway.route_plain (requestId : Nat) : (gateway.route world request requestId).2.Plain := by
  unfold route
  split
  · split
    · trivial
    · trivial
    · exact id
    · exact id
  · exact id

theorem Gateway.step_plain (builtIn : stage.BuiltIn) : (gateway.step world request stage).2.Plain := by
  cases stage with
  | arrived =>
    rcases (@step_arrived gateway world request).2 with next | next
    all_goals
      rw [next]
      trivial
  | admitted => trivial
  | numbered requestId => exact route_plain requestId
  | routed requestId handler captures =>
    obtain ⟨endpoint, rfl⟩ := builtIn
    rw [step]
    rcases handled : endpoint.handler (gateway.context request requestId captures) world.disk with _ | outcome
    · simp only [handle, handled]
      trivial
    · rw [handle_disk handled]
      exact endpoint.handler_plain handled
  | handled requestId reply => trivial
  | answered response => trivial

/-- Whatever the handlers of the media interface are asked, they answer with plain codes. -/
theorem Gateway.BuiltIn.replied_plain (media : gateway.BuiltIn) {moves : List Move} {place : Nat} {reply : Reply}
    {point : Disk} (replied : gateway.Replied disk moves place request reply point) : reply.Plain := by
  obtain ⟨before, later, requestId, _, handled, _⟩ := replied
  have kept : ∀ running : Running, (running.BuiltIn ∧ ∀ entry ∈ running.requests, entry.2.Plain) → ∀ move,
      (gateway.move running move).BuiltIn ∧ ∀ entry ∈ (gateway.move running move).requests, entry.2.Plain :=
    fun running ⟨builtIn, plain⟩ move => ⟨media.move builtIn move,
      @stages_move gateway running (fun _ stage => stage.Plain) (fun _ => trivial)
        (fun _ _ member _ => step_plain (builtIn _ member)) plain move⟩
  have start : (Running.start gateway.settings disk).BuiltIn ∧
      ∀ entry ∈ (Running.start gateway.settings disk).requests, entry.2.Plain :=
    ⟨fun _ nothing => absurd nothing List.not_mem_nil, fun _ nothing => absurd nothing List.not_mem_nil⟩
  have reached := after_invariant kept start before
  exact reached.2 _ (Running.mem_requests handled)

/-- What a reply was made into is what is sent, in that move and ever after. -/
theorem Gateway.Replied.sent {moves : List Move} {place : Nat} {reply : Reply} {point : Disk}
    (replied : gateway.Replied disk moves place request reply point) :
    (gateway.after moves (.start gateway.settings disk)).response? place =
      some (((reply.encode point).1.withBase gateway.settings.general.serverName).finish request.method) := by
  obtain ⟨before, later, requestId, rfl, handled, rfl⟩ := replied
  have stepped := Running.requests_set_self handled
    (gateway.step (gateway.after before (.start gateway.settings disk)).world request (.handled requestId reply)).2
  rw [after_append, after_cons, move_advance handled]
  exact Running.response?_eq_some_iff.mpr ⟨request, _, answered_after later stepped, rfl⟩

end Steps

/-- The status of an error follows from the code that clients are told. Whoever is answered by an error is sent the
status that the protocol gives to the code in the body, or 500 for a further code that shadows one of the protocol;
no handler of the media interface answers with such a code, and neither the gate nor the lookup does, whatever the
handlers are. So two errors that tell the same code have the same status, unless just one of them shadows it. -/
theorem Gateway.error_status {gateway : Gateway} {disk : Disk} {moves : List Move} {place : Nat}
    {request : Request} {fault : ApiError} {point : Disk}
    (replied : gateway.Replied disk moves place request (.error fault) point) :
    ∃ sent, (gateway.after moves (.start gateway.settings disk)).response? place = some sent ∧
      sent.status = (if fault.code.Shadows then 500 else protocolStatus fault.code.text) ∧
      (request.method ≠ "HEAD" → ∃ content, sent.payload = .bytes content ∧
        Json.read? content = some (errorBody fault.code.text fault.message)) ∧
      (gateway.BuiltIn → ¬ fault.code.Shadows) ∧
      (∀ world asked requestId, (gateway.step world asked (.numbered requestId)).2.Plain) ∧
      ∀ (other : Gateway) otherDisk otherMoves otherPlace otherRequest otherFault otherPoint otherSent,
        other.Replied otherDisk otherMoves otherPlace otherRequest (.error otherFault) otherPoint →
          (other.after otherMoves (.start other.settings otherDisk)).response? otherPlace = some otherSent →
            fault.code.text = otherFault.code.text →
              (sent.status = otherSent.status ↔ (fault.code.Shadows ↔ otherFault.code.Shadows)) := by
  refine ⟨_, replied.sent, ?_, ?_, fun media => media.replied_plain replied, fun _ _ => route_plain, ?_⟩
  · rw [Response.status_finish]
    exact fault.code.status_eq
  · intro body
    rw [Response.payload_finish body]
    exact ⟨_, rfl, errorBody_read fault.code.text fault.message⟩
  · intro other _ _ _ _ otherFault _ otherSent otherReplied answered same
    obtain rfl := Option.some.inj (otherReplied.sent.symm.trans answered)
    rw [Response.status_finish, Response.status_finish]
    exact ErrorCode.status_eq_iff same

/-- A handler that makes up a code of the protocol. -/
def shadowFault : ApiError :=
  ⟨.other "M_NOT_FOUND", "Not found", none⟩

/-- The body says that nothing was found, and the status that the server is at fault. -/
theorem shadowFault_status :
    ((Reply.error shadowFault).encode .empty).1.status ≠ protocolStatus shadowFault.code.text ∧
      ((Reply.error shadowFault).encode .empty).1.payload =
        ((Reply.error (.notFound "Not found")).encode .empty).1.payload ∧
      ((Reply.error shadowFault).encode .empty).1.status ≠
        ((Reply.error (.notFound "Not found")).encode .empty).1.status := by
  refine ⟨by decide, rfl, by decide⟩

/-- A route whose handler answers like that. -/
def shadowRegistrations : List (Registration Handler) :=
  [⟨"GET", "/nowhere", .pure fun _ => .error shadowFault⟩]

/-- The same request is told the same by that handler and by a gateway without routes, under another status. -/
theorem strayRequest_statuses : ∃ routes sent plain,
    RouteTable.ofRegistrations shadowRegistrations = .ok routes ∧
    (Gateway.after ⟨Settings.default, routes, none⟩ (.arrive strayRequest :: List.replicate 5 (.advance 0))
      (.start Settings.default .empty)).response? 0 = some sent ∧
    (Gateway.after ⟨Settings.default, .empty, none⟩ (.arrive strayRequest :: List.replicate 4 (.advance 0))
      (.start Settings.default .empty)).response? 0 = some plain ∧
    sent.status = 500 ∧ plain.status = 404 ∧ sent.status ≠ plain.status := by
  obtain ⟨routes, accepted, shadowed⟩ : ∃ routes, RouteTable.ofRegistrations shadowRegistrations = .ok routes ∧
      Gateway.Replied ⟨Settings.default, routes, none⟩ .empty
        (.arrive strayRequest :: List.replicate 5 (.advance 0)) 0 strayRequest (.error shadowFault) .empty :=
    ⟨_, rfl, .arrive strayRequest :: List.replicate 4 (.advance 0), [], 0, rfl, rfl, rfl⟩
  have missed : Gateway.Replied ⟨Settings.default, .empty, none⟩ .empty
      (.arrive strayRequest :: List.replicate 4 (.advance 0)) 0 strayRequest
      (.error (.notFound "Not found")) .empty :=
    ⟨.arrive strayRequest :: List.replicate 3 (.advance 0), [], 0, rfl, rfl, rfl⟩
  obtain ⟨plain, answered, own, _⟩ := Gateway.error_status missed
  obtain ⟨sent, told, failed, _, _, _, alike⟩ := Gateway.error_status shadowed
  have apart := (alike _ _ _ _ _ _ _ _ missed answered rfl).not.mpr (by decide)
  exact ⟨routes, sent, plain, accepted, told, answered, failed, own, apart⟩

end MediaServer
