namespace MediaServer

structure General where
  bindAddress : String
  port : Nat
  apiPrefix : String
  serverName : String
  versions : List String

/-- The largest upload in bytes, and the directory that keeps the media. -/
structure Uploads where
  maxBytes : Nat
  storagePath : String

/-- The largest thumbnail that may be asked for. -/
structure Thumbnails where
  maxWidth : Nat
  maxHeight : Nat

/-- Each client may send `burstCount` requests at once and `requestsPerSecond` in the long run.
A client that was silent for `bucketTtl` seconds is forgotten. -/
structure RateLimit where
  enabled : Bool
  requestsPerSecond : Float
  burstCount : Nat
  bucketTtl : Nat

structure Observability where
  logLevel : String
  metricsEnabled : Bool
  metricsAddress : String

/-- All settings of a server. `homeservers` names the domains it serves media for. -/
structure Settings where
  general : General
  homeservers : List String
  uploads : Uploads
  thumbnails : Thumbnails
  previewsEnabled : Bool
  identiconsEnabled : Bool
  rateLimit : RateLimit
  observability : Observability

def General.default : General :=
  ⟨"0.0.0.0", 8000, "/_matrix/media", "media-gateway", ["r0", "v1"]⟩

def Uploads.default : Uploads :=
  ⟨100 * 1024 * 1024, "./media"⟩

def Thumbnails.default : Thumbnails :=
  ⟨800, 600⟩

def RateLimit.default : RateLimit :=
  ⟨false, 1, 10, 3600⟩

def Observability.default : Observability :=
  ⟨"media_gateway=info,tower_http=info", false, "0.0.0.0:9090"⟩

def Settings.default : Settings where
  general := .default
  homeservers := ["localhost"]
  uploads := .default
  thumbnails := .default
  previewsEnabled := false
  identiconsEnabled := true
  rateLimit := .default
  observability := .default

/-- The address and port to listen on. -/
def Settings.listenAddress (settings : Settings) : String :=
  settings.general.bindAddress ++ ":" ++ toString settings.general.port

/-- A host is served if it is one of the configured domains, letter for letter. -/
def Settings.serves (settings : Settings) (host : String) : Bool :=
  settings.homeservers.contains host

end MediaServer
