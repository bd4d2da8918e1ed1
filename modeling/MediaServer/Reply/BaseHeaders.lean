import MediaServer.Message.Header
import MediaServer.Log.Event

namespace MediaServer

def defaultServerName : String := "media-gateway"

abbrev BaseHeaders := Headers

/-- The value of the server header: a name that no header can hold is replaced. -/
def serverHeader (name : String) : Bytes :=
  if Headers.isLegal (Utf8.encode name) then Utf8.encode name else Utf8.encode defaultServerName

def BaseHeaders.ofServer (name : String) : BaseHeaders := [
  ("access-control-allow-headers",
    Utf8.encode "Origin, X-Requested-With, Content-Type, Accept, Authorization"),
  ("access-control-allow-methods", Utf8.encode "GET, POST, OPTIONS"),
  ("access-control-allow-origin", Utf8.encode "*"),
  ("content-security-policy",
    Utf8.encode ("default-src 'none'; script-src 'none'; plugin-types application/pdf; " ++
      "style-src 'unsafe-inline'; object-src 'self'")),
  ("cache-control", Utf8.encode "public,max-age=86400,s-maxage=86400"),
  ("server", serverHeader name)]

def BaseHeaders.events (name : String) : List Event :=
  if Headers.isLegal (Utf8.encode name) then [] else [.serverNameInvalid name]

/-- Sets each of the base headers, whatever was there under its name. -/
def BaseHeaders.apply (base : BaseHeaders) (headers : Headers) : Headers :=
  base.foldl (fun headers (name, value) => headers.insert name value) headers

end MediaServer
