import MediaServer.Settings.Basic
import MediaServer.Text.Space
import MediaServer.Text.Digits
import MediaServer.Decimal.Notation

namespace MediaServer

inductive SettingsFault
  | noHomeservers
  | emptyHomeserverName
  | noVersions
  | invalidVersion (version : String)
  | invalidPath (apiPrefix : String)
  | zeroUploadLimit
  | zeroThumbnailLimit
  | invalidRate (rate : Float)
  | zeroBurst

def SettingsFault.message : SettingsFault → String
  | .noHomeservers => "at least one homeserver must be configured"
  | .emptyHomeserverName => "homeserver name must not be empty"
  | .noVersions => "at least one API version must be configured"
  | .invalidVersion version =>
    "invalid API version \x60" ++ version ++ "\x60: only lowercase letters and digits are allowed"
  | .invalidPath path => "api_prefix \x60" ++ path ++ "\x60 must start with \x60/\x60 and must not end with \x60/\x60"
  | .zeroUploadLimit => "uploads.max_bytes must be greater than zero"
  | .zeroThumbnailLimit => "thumbnail limits must be greater than zero"
  | .invalidRate rate => "rate_limit.requests_per_second must be positive, got " ++ writeFloat .plain rate
  | .zeroBurst => "rate_limit.burst_count must be at least 1"

/-- A version is made of lower-case letters and digits. -/
def isVersion (version : String) : Bool :=
  !version.isEmpty && version.toList.all fun c => ('a' ≤ c && c ≤ 'z') || isDigit c

/-- The path before the versions starts with a slash and ends with something else. -/
def isPathPrefix (path : String) : Bool :=
  path.toList.head? = some '/' && path.toList.getLast? ≠ some '/'

def isPositiveRate (rate : Float) : Bool :=
  rate.isFinite && 0 < rate

def faultUnless (holds : Bool) (fault : SettingsFault) : List SettingsFault :=
  if holds then [] else [fault]

/-- All that is wrong with the settings, in a fixed order. -/
def Settings.faults (settings : Settings) : List SettingsFault :=
  faultUnless (!settings.homeservers.isEmpty) .noHomeservers ++
  faultUnless (!settings.homeservers.any isBlank) .emptyHomeserverName ++
  faultUnless (!settings.general.versions.isEmpty) .noVersions ++
  (settings.general.versions.filter (!isVersion ·)).map .invalidVersion ++
  faultUnless (isPathPrefix settings.general.apiPrefix) (.invalidPath settings.general.apiPrefix) ++
  faultUnless (settings.uploads.maxBytes ≠ 0) .zeroUploadLimit ++
  faultUnless (settings.thumbnails.maxWidth ≠ 0 && settings.thumbnails.maxHeight ≠ 0) .zeroThumbnailLimit ++
  if settings.rateLimit.enabled then
    faultUnless (isPositiveRate settings.rateLimit.requestsPerSecond)
      (.invalidRate settings.rateLimit.requestsPerSecond) ++
    faultUnless (settings.rateLimit.burstCount ≠ 0) .zeroBurst
  else []

def Settings.isValid (settings : Settings) : Bool :=
  settings.faults.isEmpty

end MediaServer
