import MediaServer.Message.Header
import MediaServer.Message.Uri
import MediaServer.Message.Address
import MediaServer.Message.Body

namespace MediaServer

/-- A request, when it arrived in nanoseconds, and what chance adds to its run: the id an item
gets that it stores, and in which order the guard and the body are looked at. -/
structure Request where
  method : String
  uri : Uri
  headers : Headers
  body : Incoming
  peer? : Option Address
  arrival : Nat
  newId : String
  guardFirst : Schedule

/-- The host that is asked, without a port: the host header if it is text, or else the host of the URI. -/
def hostOf (headers : Headers) (uri : Uri) : String :=
  let named := ((headers.text? "host").or uri.host?).getD ""
  String.ofList (cutAt ':' named.toList).1

/-- Who asks: the header that proxies set, if it is text and not empty, or else the peer. -/
def clientOf (headers : Headers) (peer? : Option Address) : String :=
  match (headers.text? "x-forwarded-for").filter (· != "") with
  | some forwarded => forwarded
  | none =>
    match peer? with
    | some address => address.show
    | none => "unknown"

def Request.host (request : Request) : String :=
  hostOf request.headers request.uri

def Request.client (request : Request) : String :=
  clientOf request.headers request.peer?

end MediaServer
