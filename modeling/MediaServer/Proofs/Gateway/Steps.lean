import MediaServer.Gateway.Stage

namespace MediaServer

/-- The client of a request has no token left when the request arrives. -/
def World.refuses (world : World) (request : Request) : Bool :=
  match world.limiter? with
  | none => false
  | some limiter => !(limiter.check request.client request.arrival).1

theorem Settings.serves_iff {settings : Settings} {host : String} :
    settings.serves host = true ↔ host ∈ settings.homeservers :=
  List.contains_iff_mem

/-- The handler that a request has to get to, if there is one, and what the handler gets to see. -/
def Gateway.call? (gateway : Gateway) (request : Request) (requestId : Nat) : Option (Handler × Context) :=
  if request.host ∈ gateway.settings.homeservers then
    match gateway.routes.lookup request.method request.uri.path with
    | .found handler captures => some (handler, gateway.context request requestId captures)
    | _ => none
  else none

theorem Gateway.call?_eq_some_iff {gateway : Gateway} {request : Request} {requestId : Nat} {handler : Handler}
    {captures : Captures} :
    gateway.call? request requestId = some (handler, gateway.context request requestId captures) ↔
      request.host ∈ gateway.settings.homeservers ∧
        gateway.routes.lookup request.method request.uri.path = .found handler captures := by
  unfold call?
  by_cases served : request.host ∈ gateway.settings.homeservers
  · rw [if_pos served]
    split
    · rename_i found
      rw [found, Option.some.injEq, Prod.mk.injEq, Lookup.found.injEq]
      refine ⟨fun ⟨same, sees⟩ => ⟨served, same, congrArg Context.captures sees⟩, ?_⟩
      rintro ⟨_, rfl, rfl⟩
      exact ⟨rfl, rfl⟩
    · rename_i unfound
      constructor
      · intro nothing
        cases nothing
      · rintro ⟨_, found⟩
        exact absurd found (unfound handler captures)
  · simp [served]

/-- The handler that a request gets to sees the id of the request. -/
theorem Gateway.call?_requestId (gateway : Gateway) {request : Request} {requestId : Nat}
    {call : Handler × Context} (asked : call ∈ gateway.call? request requestId) :
    call.2.requestId = requestId := by
  unfold call? at asked
  split at asked
  · split at asked
    · obtain rfl := Option.some.inj asked
      rfl
    · cases asked
  · cases asked

/-- The reply to a request that gets to no handler. -/
def Gateway.unrouted (gateway : Gateway) (request : Request) : Reply :=
  if request.host ∈ gateway.settings.homeservers then
    match gateway.routes.lookup request.method request.uri.path with
    | .preflight => .empty
    | .methodNotAllowed => .error .methodNotAllowed
    | _ => .error (.notFound "Not found")
  else .error .authFailed

/-- All that a step of a request can do to what requests share, and the stage it leads to. -/
inductive Gateway.Effect (gateway : Gateway) (world : World) (request : Request) :
    Stage → World → Stage → Prop
  | enter {limiter? : Option (Limiter Float)} (room : world.refuses request = false)
      (kept : world.limiter? = none → limiter? = none) :
      Effect gateway world request .arrived { world with limiter? := limiter? } .admitted
  | refuse {limiter? : Option (Limiter Float)} {log : List LogEntry} (full : world.refuses request = true) :
      Effect gateway world request .arrived
        { world with limiter? := limiter?, tally := world.tally.recordLimited, log := log }
        (.answered .rateLimited)
  | number {log : List LogEntry} :
      Effect gateway world request .admitted { world with issued := world.issued + 1, log := log }
        (.numbered world.issued)
  | call {requestId : Nat} {handler : Handler} {captures : Captures}
      (asked : gateway.call? request requestId =
        some (handler, gateway.context request requestId captures)) :
      Effect gateway world request (.numbered requestId) world (.routed requestId handler captures)
  | pass {requestId : Nat} {log : List LogEntry} (unasked : gateway.call? request requestId = none) :
      Effect gateway world request (.numbered requestId) { world with log := log }
        (.handled requestId (gateway.unrouted request))
  | wait {requestId : Nat} {handler : Handler} {captures : Captures}
      (waits : handler (gateway.context request requestId captures) world.disk = none) :
      Effect gateway world request (.routed requestId handler captures) world
        (.routed requestId handler captures)
  | finish {requestId : Nat} {handler : Handler} {captures : Captures} {outcome : Outcome} {log : List LogEntry}
      (ends : handler (gateway.context request requestId captures) world.disk = some outcome) :
      Effect gateway world request (.routed requestId handler captures)
        { world with disk := outcome.disk, log := log } (.handled requestId outcome.reply)
  | answer {requestId : Nat} {reply : Reply} {label : TallyLabel} {log : List LogEntry} {response : Response}
      (inRate : response.status ≠ 429) :
      Effect gateway world request (.handled requestId reply)
        { world with disk := (reply.encode world.disk).2.2, tally := world.tally.record label, log := log }
        (.answered response)
  | rest {response : Response} :
      Effect gateway world request (.answered response) world (.answered response)

theorem ErrorCode.status_ne_limited (code : ErrorCode) : code.status ≠ 429 := by
  cases code <;> simp [status]

/-- No answer but that of the limiter tells a client to wait. -/
theorem Reply.encode_status_ne_limited (reply : Reply) (disk : Disk) : (reply.encode disk).1.status ≠ 429 := by
  have generic : Response.genericError.status ≠ 429 := by simp [Response.genericError, Response.ofJson]
  cases reply with
  | empty => simp [encode, encodeJson, Response.ofJson]
  | error fault => exact fault.code.status_ne_limited
  | media stream =>
    rw [encode, MediaStream.encode]
    split
    · exact generic
    · simp
  | image generated =>
    rw [encode, GeneratedImage.encode]
    split
    · exact generic
    · simp
  | raw value =>
    cases value with
    | ok value => simp [encode, encodeJson, Response.ofJson]
    | error reason => exact generic

section Steps

variable (gateway : Gateway) (world : World) (request : Request)

theorem Gateway.arrived_effect :
    gateway.Effect world request .arrived (gateway.step world request .arrived).1
      (gateway.step world request .arrived).2 := by
  rcases limited : world.limiter? with _ | limiter
  · have room : world.refuses request = false := by simp only [World.refuses, limited]
    have same : gateway.step world request .arrived = (world, .admitted) := by
      simp only [step, World.admit, limited]
    rw [same]
    exact @Effect.enter gateway world request world.limiter? room id
  · rcases checked : limiter.check request.client request.arrival with ⟨_ | _, next⟩
    · have full : world.refuses request = true := by simp [World.refuses, limited, checked]
      simp only [step, World.admit, limited, checked]
      exact .refuse full
    · have room : world.refuses request = false := by simp [World.refuses, limited, checked]
      simp only [step, World.admit, limited, checked]
      exact .enter room fun none => by rw [limited] at none; cases none

theorem Gateway.route_effect (requestId : Nat) :
    gateway.Effect world request (.numbered requestId) (gateway.route world request requestId).1
      (gateway.route world request requestId).2 := by
  by_cases served : request.host ∈ gateway.settings.homeservers
  · have passes := Settings.serves_iff.mpr served
    rcases looked : gateway.routes.lookup request.method request.uri.path with ⟨handler, captures⟩ | _ | _ | _
    · simp only [route, if_pos passes, looked]
      exact .call (by simp only [call?, if_pos served, looked])
    all_goals
      have reply := @Effect.pass gateway world request requestId world.log
        (by simp only [call?, if_pos served, looked])
      simp only [unrouted, if_pos served, looked] at reply
      simp only [route, if_pos passes, looked]
      exact reply
  · have stopped : ¬ gateway.settings.serves request.host = true :=
      fun own => served (Settings.serves_iff.mp own)
    have reply := @Effect.pass gateway world request requestId
      (world.note (some (request.span requestId)) [.hostRejected]).log (by simp only [call?, if_neg served])
    simp only [unrouted, if_neg served] at reply
    simp only [route, if_neg stopped]
    exact reply

theorem Gateway.step_effect (stage : Stage) :
    gateway.Effect world request stage (gateway.step world request stage).1
      (gateway.step world request stage).2 := by
  cases stage with
  | arrived => exact gateway.arrived_effect world request
  | admitted => exact .number
  | numbered requestId => exact gateway.route_effect world request requestId
  | routed requestId handler captures =>
    rcases handled : handler (gateway.context request requestId captures) world.disk with _ | outcome
    · simp only [step, handle, handled]
      exact .wait handled
    · simp only [step, handle, handled]
      exact .finish handled
  | handled requestId reply => exact .answer (reply.encode_status_ne_limited world.disk)
  | answered response => exact .rest

end Steps

/-- Without a limiter no request is refused, and no step sets one up. -/
theorem Gateway.Effect.unlimited {gateway : Gateway} {world later : World} {request : Request} {stage next : Stage}
    (effect : gateway.Effect world request stage later next) (unlimited : world.limiter? = none) :
    later.limiter? = none := by
  cases effect with
  | enter _ kept => exact kept unlimited
  | refuse full =>
    rw [World.refuses, unlimited] at full
    cases full
  | _ => exact unlimited

end MediaServer
