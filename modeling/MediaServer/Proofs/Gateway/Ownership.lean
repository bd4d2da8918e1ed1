import MediaServer.Proofs.Gateway.Steps
import MediaServer.Proofs.Message.Header

namespace MediaServer

def rejectedBody : String :=
  "\x7b\"code\":\"M_UNKNOWN_TOKEN\",\"message\":\"Authentication Failed\"\x7d"

/-- What every request for a host that is not served here is answered. -/
def Response.rejected (serverName : String) : Response :=
  ⟨403, ("content-type", jsonType) :: BaseHeaders.ofServer serverName, .bytes (Utf8.encode rejectedBody)⟩

theorem ApiError.authFailed_encode (disk : Disk) :
    (Reply.error .authFailed).encode disk =
      (.ofJson 403 (Utf8.encode rejectedBody), [.repliedJson "error" 403 rejectedBody], disk) := by
  have body : ApiError.authFailed.body.toText = rejectedBody := by decide +kernel
  rw [Reply.encode, encodeJson, body]
  rfl

/-- Where the routes lead a request. -/
def Lookup.stage (requestId : Nat) : Lookup Handler → Stage
  | .found handler captures => .routed requestId handler captures
  | .preflight => .handled requestId .empty
  | .methodNotAllowed => .handled requestId (.error .methodNotAllowed)
  | .notFound => .handled requestId (.error (.notFound "Not found"))

section Gate

variable {gateway : Gateway} {world : World} {request : Request} {stage : Stage} {requestId : Nat}
  {handler : Handler} {captures : Captures}

theorem Gateway.route_served (served : request.host ∈ gateway.settings.homeservers) :
    gateway.route world request requestId =
      (world, (gateway.routes.lookup request.method request.uri.path).stage requestId) := by
  rw [route, if_pos (Settings.serves_iff.mpr served)]
  split
  · rename_i found
    rw [found]
    rfl
  · rename_i preflight
    rw [preflight]
    rfl
  · rename_i other
    rw [other]
    rfl
  · rename_i none
    rw [none]
    rfl

/-- The stages that a request with an id may be at. -/
def Gateway.Permits (gateway : Gateway) (request : Request) (requestId : Nat) : Stage → Prop
  | .arrived => False
  | .admitted => False
  | .numbered number => number = requestId
  | .routed number handler captures => number = requestId ∧
      gateway.call? request requestId = some (handler, gateway.context request requestId captures)
  | .handled number _ => number = requestId
  | .answered _ => True

theorem Gateway.Effect.permits {later : World} {next : Stage}
    (effect : gateway.Effect world request stage later next)
    (permits : gateway.Permits request requestId stage) : gateway.Permits request requestId next := by
  cases effect with
  | enter => exact permits
  | refuse => trivial
  | number => cases permits
  | call asked =>
    cases permits
    exact ⟨rfl, asked⟩
  | pass => exact permits
  | wait => exact permits
  | finish => exact permits.1
  | answer => trivial
  | rest => trivial

theorem Gateway.Permits.run (count : Nat) (world : World)
    (permits : gateway.Permits request requestId stage) :
    gateway.Permits request requestId (gateway.run request count (world, stage)).2 := by
  induction count generalizing world stage with
  | zero => exact permits
  | succ count ih => exact ih _ ((gateway.step_effect world request stage).permits permits)

/-- An admitted request gets to a handler if and only if its host is served and the routes find the handler. -/
theorem Gateway.run_routed_iff :
    (∃ count, (gateway.run request count (world, .admitted)).2 = .routed requestId handler captures) ↔
      requestId = world.issued ∧ request.host ∈ gateway.settings.homeservers ∧
        gateway.routes.lookup request.method request.uri.path = .found handler captures := by
  constructor
  · rintro ⟨_ | count, reached⟩
    · cases reached
    -- The request has its id after one step, and from there all stages are those of this id.
    · have numbered : gateway.Permits request world.issued (world.number request).2 := rfl
      have permits := numbered.run count (world.number request).1
      change (gateway.run request count (world.number request)).2 = _ at reached
      rw [reached] at permits
      exact ⟨permits.1, Gateway.call?_eq_some_iff.mp permits.2⟩
  · rintro ⟨rfl, served, found⟩
    refine ⟨2, ?_⟩
    simp only [Gateway.run, Gateway.step, World.number, Gateway.route_served served, found, Lookup.stage]

theorem Gateway.dispatch_foreign (gateway : Gateway) (world : World)
    (foreign : request.host ∉ gateway.settings.homeservers) :
    gateway.dispatch world request =
      ({ world with
          issued := world.issued + 1
          tally := world.tally.record ⟨request.method, 403, "error"⟩ }.note
            (some (request.span world.issued))
            [request.receivedEvent, .hostRejected, .repliedJson "error" 403 rejectedBody],
        some (Response.rejected gateway.settings.general.serverName)) := by
  have unserved : ¬ gateway.settings.serves request.host = true :=
    fun served => foreign (Settings.serves_iff.mp served)
  have headers := BaseHeaders.ofServer_apply gateway.settings.general.serverName "content-type" jsonType
    (by simp)
  simp only [dispatch, run, step, World.number, route, if_neg unserved, answer, ApiError.authFailed_encode,
    Response.ofJson, headers]
  simp only [World.note, List.append_assoc]
  rfl

end Gate

/-- A request for a host that is not served gets one answer, whatever it asks for and whatever there is:
no handler is called, its body is left alone, and no more happens than that the request is counted and
logged. Only for a host that is served do the routes decide which handler is called. -/
theorem Gateway.ownership_gate (gateway : Gateway) (world : World) (request : Request) :
    (request.host ∉ gateway.settings.homeservers →
      gateway.dispatch world request =
          ({ world with
              issued := world.issued + 1
              tally := world.tally.record ⟨request.method, 403, "error"⟩ }.note
                (some (request.span world.issued))
                [request.receivedEvent, .hostRejected, .repliedJson "error" 403 rejectedBody],
            some (Response.rejected gateway.settings.general.serverName)) ∧
        (¬ ∃ count requestId handler captures,
          (gateway.run request count (world, .admitted)).2 = .routed requestId handler captures) ∧
        (∀ body, gateway.dispatch world { request with body := body } = gateway.dispatch world request) ∧
        ∀ (other : Gateway) (elsewhere : World) (also : Request), other.settings = gateway.settings →
          also.host ∉ gateway.settings.homeservers →
            (other.dispatch elsewhere also).2 = (gateway.dispatch world request).2) ∧
    (request.host ∈ gateway.settings.homeservers →
      (gateway.run request 2 (world, .admitted)).2 =
          (gateway.routes.lookup request.method request.uri.path).stage world.issued ∧
        ∀ requestId handler captures,
          (∃ count, (gateway.run request count (world, .admitted)).2 = .routed requestId handler captures) ↔
            requestId = world.issued ∧
              gateway.routes.lookup request.method request.uri.path = .found handler captures) := by
  refine ⟨fun foreign => ?_, fun own => ?_⟩
  · have answered := gateway.dispatch_foreign world foreign
    refine ⟨answered, ?_, fun body => ?_, fun other elsewhere also same alsoForeign => ?_⟩
    · rintro ⟨count, requestId, handler, captures, reached⟩
      exact foreign (Gateway.run_routed_iff.mp ⟨count, reached⟩).2.1
    · exact (@dispatch_foreign { request with body := body } gateway world foreign).trans answered.symm
    · have alike := other.dispatch_foreign elsewhere (same ▸ alsoForeign)
      rw [answered, alike, same]
  · refine ⟨?_, fun requestId handler captures => ?_⟩
    · simp only [Gateway.run, Gateway.step, World.number, Gateway.route_served own]
    · rw [Gateway.run_routed_iff]
      simp only [own, true_and]

/-- The host header is no text, so that the URI names the host. -/
def unreadableHost : Request where
  method := "POST"
  uri := ⟨some "evil.example", "/_matrix/media/r0/upload", none⟩
  headers := [("host", [0xFF])]
  body := ⟨[[1, 2]], .complete⟩
  peer? := none
  arrival := 0
  newId := "a1"
  guardFirst := fun _ => false

def ownHost : Request :=
  { unreadableHost with headers := [("host", Utf8.encode "localhost:8448")] }

theorem unreadableHost_rejected :
    let gateway : Gateway := ⟨.default, .empty, none⟩
    let world : World := ⟨0, .empty, none, .empty, []⟩
    (gateway.dispatch world unreadableHost).2 = some (Response.rejected "media-gateway") ∧
      (gateway.run ownHost 2 (world, .admitted)).2 = .handled 0 (.error (.notFound "Not found")) := by
  intro gateway world
  have foreign : unreadableHost.host ∉ gateway.settings.homeservers := by decide +kernel
  have own : ownHost.host ∈ gateway.settings.homeservers := by decide +kernel
  refine ⟨?_, ?_⟩
  · rw [((gateway.ownership_gate world unreadableHost).1 foreign).1]
    rfl
  · rw [((gateway.ownership_gate world ownHost).2 own).1]
    rfl

end MediaServer
