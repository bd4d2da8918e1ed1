import MediaServer.Gateway.Context
import MediaServer.Gateway.Tally
import MediaServer.Quota.Limiter
import MediaServer.Reply.Encode
import MediaServer.Reply.BaseHeaders
import MediaServer.Log.Query

namespace MediaServer

/-- What does not change while a server runs. -/
structure Gateway where
  settings : Settings
  routes : RouteTable Handler
  identicons? : Option IdenticonMaker

/-- What requests share and change: the number of ids issued, the disk, the buckets of
clients if rates are limited, the counters, and the log. -/
structure World where
  issued : Nat
  disk : Disk
  limiter? : Option (Limiter Float)
  tally : Tally
  log : List LogEntry

/-- How far a request has come. Each stage is left by one step, and other requests may take
steps in between. -/
inductive Stage
  | arrived
  | admitted
  | numbered (requestId : Nat)
  | routed (requestId : Nat) (handler : Handler) (captures : Captures)
  | handled (requestId : Nat) (reply : Reply)
  | answered (response : Response)

def Request.span (request : Request) (requestId : Nat) : Span :=
  ⟨requestId, request.method, request.host, request.uri.path, request.client⟩

def World.note (world : World) (span? : Option Span) (events : List Event) : World :=
  { world with log := world.log ++ events.map (⟨·, span?⟩) }

def Request.receivedEvent (request : Request) : Event :=
  .received ((request.headers.text? "content-type").getD "")
    ((request.headers.text? "content-length").getD "") (logSafeQuery request.uri.query?)

/-- A client that sends too often is refused before its request gets an id. -/
def World.admit (world : World) (request : Request) : World × Stage :=
  match world.limiter? with
  | none => (world, .admitted)
  | some limiter =>
    match limiter.check request.client request.arrival with
    | (true, limiter) => ({ world with limiter? := some limiter }, .admitted)
    | (false, limiter) =>
      let world := { world with limiter? := some limiter, tally := world.tally.recordLimited }
      (world.note none [.limitExceeded request.client], .answered .rateLimited)

def World.number (world : World) (request : Request) : World × Stage :=
  let requestId := world.issued
  let world := { world with issued := world.issued + 1 }
  (world.note (some (request.span requestId)) [request.receivedEvent], .numbered requestId)

/-- Only requests for a host that is served here get to the routes. -/
def Gateway.route (gateway : Gateway) (world : World) (request : Request) (requestId : Nat) :
    World × Stage :=
  if gateway.settings.serves request.host then
    match gateway.routes.lookup request.method request.uri.path with
    | .found handler captures => (world, .routed requestId handler captures)
    | .preflight => (world, .handled requestId .empty)
    | .methodNotAllowed => (world, .handled requestId (.error .methodNotAllowed))
    | .notFound => (world, .handled requestId (.error (.notFound "Not found")))
  else
    (world.note (some (request.span requestId)) [.hostRejected],
      .handled requestId (.error .authFailed))

/-- What the handler of a request gets to see. The guard is held as long as the handler runs. -/
def Gateway.context (gateway : Gateway) (request : Request) (requestId : Nat) (captures : Captures) :
    Context where
  requestId := requestId
  method := request.method
  path := request.uri.path
  host := request.host
  client := request.client
  captures := captures
  query := Form.decode (request.uri.query?.getD "")
  headers := request.headers
  settings := gateway.settings
  identicons? := gateway.identicons?
  guard := .held
  body? := some request.body
  newId := request.newId
  guardFirst := request.guardFirst

/-- Runs a handler; one that waits has not left its stage. -/
def Gateway.handle (gateway : Gateway) (world : World) (request : Request) (requestId : Nat)
    (handler : Handler) (captures : Captures) : World × Stage :=
  match handler (gateway.context request requestId captures) world.disk with
  | none => (world, .routed requestId handler captures)
  | some outcome =>
    ({ world with disk := outcome.disk }.note (some (request.span requestId)) outcome.events,
      .handled requestId outcome.reply)

/-- Makes the response, sets the base headers at last, and counts the answer. -/
def Gateway.answer (gateway : Gateway) (world : World) (request : Request) (requestId : Nat)
    (reply : Reply) : World × Stage :=
  let (response, events, disk) := reply.encode world.disk
  let base := BaseHeaders.ofServer gateway.settings.general.serverName
  let world := { world with
    disk := disk, tally := world.tally.record ⟨request.method, response.status, reply.kind⟩ }
  (world.note (some (request.span requestId)) events,
    .answered { response with headers := base.apply response.headers })

def Gateway.step (gateway : Gateway) (world : World) (request : Request) : Stage → World × Stage
  | .arrived => world.admit request
  | .admitted => world.number request
  | .numbered requestId => gateway.route world request requestId
  | .routed requestId handler captures => gateway.handle world request requestId handler captures
  | .handled requestId reply => gateway.answer world request requestId reply
  | .answered response => (world, .answered response)

def Gateway.run (gateway : Gateway) (request : Request) : Nat → World × Stage → World × Stage
  | 0, state => state
  | count + 1, (world, stage) => gateway.run request count (gateway.step world request stage)

def Stage.response? : Stage → Option Response
  | .answered response => some response
  | _ => none

/-- Answers an admitted request; none if its handler still waits after all other steps. -/
def Gateway.dispatch (gateway : Gateway) (world : World) (request : Request) :
    World × Option Response :=
  let (world, stage) := gateway.run request 4 (world, .admitted)
  (world, stage.response?)

end MediaServer
