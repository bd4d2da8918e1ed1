import MediaServer.Gateway.Stage
import MediaServer.Gateway.Endpoints

namespace MediaServer

def Payload.knownLength? : Payload → Option Nat
  | .bytes content => some content.length
  | _ => none

def Response.withLength (response : Response) : Response :=
  match response.payload.knownLength? with
  | none => response
  | some length =>
    if response.headers.contains "content-length" then response
    else
      { response with
        headers := response.headers ++ [("content-length", Utf8.encode (toString length))] }

def Response.withoutBody (response : Response) : Response :=
  { response with payload := .bytes [] }

/-- A response as it is sent: a length that is known is announced, and the answer to HEAD has no body. -/
def Response.finish (method : String) (response : Response) : Response :=
  if method = "HEAD" then response.withLength.withoutBody else response.withLength

def Gateway.serve (gateway : Gateway) (world : World) (request : Request) : World × Option Response :=
  let (world, stage) := gateway.run request 5 (world, .arrived)
  (world, stage.response?.map (Response.finish request.method))

def Gateway.withHandlers (settings : Settings) (identicons? : Option IdenticonMaker)
    (handlers : Endpoint → Handler) : Except RouteFault Gateway :=
  (mediaRoutes handlers settings.general.apiPrefix settings.general.versions).map fun routes =>
    ⟨settings, routes, identicons?⟩

def Gateway.ofSettings (settings : Settings) (identicons? : Option IdenticonMaker) :
    Except RouteFault Gateway :=
  Gateway.withHandlers settings identicons? Endpoint.handler

def RateLimit.limiter? (limit : RateLimit) : Option (Limiter Float) :=
  if limit.enabled then some (.start limit.requestsPerSecond limit.burstCount limit.bucketTtl)
  else none

/-- The world before the first request. A server name that no header can hold has been logged. -/
def World.start (settings : Settings) (disk : Disk) : World :=
  ⟨0, disk, settings.rateLimit.limiter?, .empty,
    (BaseHeaders.events settings.general.serverName).map (⟨·, none⟩)⟩

end MediaServer
