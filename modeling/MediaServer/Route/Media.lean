import MediaServer.Route.Table

namespace MediaServer

/-- What the media interface offers. -/
inductive Endpoint
  | upload
  | download
  | thumbnail
  | previewUrl
  | identicon
  deriving DecidableEq, Repr

def Endpoint.name : Endpoint → String
  | .upload => "upload"
  | .download => "download"
  | .thumbnail => "thumbnail"
  | .previewUrl => "preview_url"
  | .identicon => "identicon"

def itemPath : String := "/\x7bserver:authority\x7d/\x7bmedia_id:media_id\x7d"

/-- The routes of one version: method, path below the version, and endpoint. -/
def Endpoint.routes : List (String × String × Endpoint) := [
  ("POST", "/upload", .upload),
  ("GET", "/download" ++ itemPath, .download),
  ("GET", "/download" ++ itemPath ++ "/\x7bfilename:filename\x7d", .download),
  ("GET", "/thumbnail" ++ itemPath, .thumbnail),
  ("GET", "/preview_url", .previewUrl),
  ("GET", "/identicon/\x7bseed:*\x7d", .identicon)]

def RouteTable.addVersion {α : Type} (handlers : Endpoint → α) (path : String) (table : RouteTable α)
    (version : String) : Except RouteFault (RouteTable α) :=
  Endpoint.routes.foldlM
    (fun table (method, below, endpoint) =>
      table.add method (path ++ "/" ++ version ++ below) (handlers endpoint))
    table

/-- The media interface below a path, once for every version. -/
def mediaRoutes {α : Type} (handlers : Endpoint → α) (path : String) (versions : List String) :
    Except RouteFault (RouteTable α) :=
  versions.foldlM (RouteTable.addVersion handlers path) .empty

end MediaServer
