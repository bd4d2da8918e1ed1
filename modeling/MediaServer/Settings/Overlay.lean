import MediaServer.Settings.Basic
import MediaServer.Text.Escaped
import MediaServer.Text.Digits
import MediaServer.Decimal.Notation
import MediaServer.Toml.Basic

namespace MediaServer

/-- Why a document is no settings file: a required member is missing, a value is of the wrong
type, a whole number does not fit, or a list in the place of a table is too short. -/
inductive TypeFault
  | missing (name : String)
  | wrongType (found wanted : String)
  | outOfRange (value : Int) (wanted : String)
  | tooShort (wanted : String)
  deriving DecidableEq, Repr

def TypeFault.message : TypeFault → String
  | .missing name => "missing field \x60" ++ name ++ "\x60"
  | .wrongType found wanted => "invalid type: " ++ found ++ ", expected " ++ wanted
  | .outOfRange value wanted =>
    "invalid value: integer \x60" ++ toString value ++ "\x60, expected " ++ wanted
  | .tooShort wanted => "invalid length 0, expected " ++ wanted

/-- How a value that does not fit is named. -/
def Toml.describe : Toml → String
  | .text value => "string " ++ Escaped.quote value
  | .integer value => "integer \x60" ++ toString value ++ "\x60"
  | .float value => "floating point \x60" ++ writeFloat .pointed value ++ "\x60"
  | .boolean value => "boolean \x60" ++ toString value ++ "\x60"
  | .moment => "map"
  | .list _ => "sequence"
  | .table _ => "map"

def Toml.refuse {α : Type} (value : Toml) (wanted : String) : Except TypeFault α :=
  .error (.wrongType value.describe wanted)

def Toml.asText : Toml → Except TypeFault String
  | .text value => .ok value
  | value => value.refuse "a string"

def Toml.asBoolean : Toml → Except TypeFault Bool
  | .boolean value => .ok value
  | value => value.refuse "a boolean"

/-- A whole number from zero to the limit. -/
def Toml.asNatural (limit : Nat) (wanted : String) : Toml → Except TypeFault Nat
  | .integer value =>
    if 0 ≤ value && value ≤ limit then .ok value.toNat else .error (.outOfRange value wanted)
  | value => value.refuse wanted

/-- A whole number may stand for a floating-point one. -/
def Toml.asFloat : Toml → Except TypeFault Float
  | .float value => .ok value
  | .integer value => .ok (Float.ofInt value)
  | value => value.refuse "f64"

def Toml.asList {α : Type} (read : Toml → Except TypeFault α) : Toml → Except TypeFault (List α)
  | .list items => items.mapM read
  | value => value.refuse "a sequence"

/-- A member of a section: its name, and what a value of it changes. -/
structure Field (σ : Type) where
  name : String
  change : Toml → Except TypeFault (σ → σ)

/-- A field whose value is read and then put into the section. -/
def Field.of {σ α : Type} (name : String) (read : Toml → Except TypeFault α) (put : α → σ → σ) :
    Field σ :=
  ⟨name, fun value => (read value).map put⟩

/-- Lets a member change the section. Members that no field is named for change nothing. -/
def Field.take {σ : Type} (fields : List (Field σ)) (state : σ) (member : String × Toml) :
    Except TypeFault σ :=
  match fields.find? (·.name == member.1) with
  | none => .ok state
  | some field => (field.change member.2).map (· state)

def Field.takeAll {σ : Type} (fields : List (Field σ)) (state : σ) (members : List (String × Toml)) :
    Except TypeFault σ :=
  members.foldlM (Field.take fields) state

/-- Lays a section over its defaults. It is a table, or a list of values for the
first of the fields in their order, where more values than fields do no harm. -/
def Field.overlay {σ : Type} (wanted : String) (fields : List (Field σ)) (start : σ) :
    Toml → Except TypeFault σ
  | .table members => Field.takeAll fields start members
  | .moment => .ok start
  | .list items => Field.takeAll fields start ((fields.map (·.name)).zip items)
  | value => value.refuse wanted

def General.fields : List (Field General) := [
  .of "bind_address" Toml.asText fun value s => { s with bindAddress := value },
  .of "port" (Toml.asNatural max16 "u16") fun value s => { s with port := value },
  .of "api_prefix" Toml.asText fun value s => { s with apiPrefix := value },
  .of "server_name" Toml.asText fun value s => { s with serverName := value },
  .of "versions" (Toml.asList Toml.asText) fun value s => { s with versions := value }]

def Uploads.fields : List (Field Uploads) := [
  .of "max_bytes" (Toml.asNatural max64 "u64") fun value s => { s with maxBytes := value },
  .of "storage_path" Toml.asText fun value s => { s with storagePath := value }]

def Thumbnails.fields : List (Field Thumbnails) := [
  .of "max_width" (Toml.asNatural max32 "u32") fun value s => { s with maxWidth := value },
  .of "max_height" (Toml.asNatural max32 "u32") fun value s => { s with maxHeight := value }]

def switchFields : List (Field Bool) := [
  .of "enabled" Toml.asBoolean fun value _ => value]

def RateLimit.fields : List (Field RateLimit) := [
  .of "enabled" Toml.asBoolean fun value s => { s with enabled := value },
  .of "requests_per_second" Toml.asFloat fun value s => { s with requestsPerSecond := value },
  .of "burst_count" (Toml.asNatural max32 "u32") fun value s => { s with burstCount := value },
  .of "bucket_ttl_secs" (Toml.asNatural max64 "u64") fun value s => { s with bucketTtl := value }]

def Observability.fields : List (Field Observability) := [
  .of "log_level" Toml.asText fun value s => { s with logLevel := value },
  .of "metrics_enabled" Toml.asBoolean fun value s => { s with metricsEnabled := value },
  .of "metrics_address" Toml.asText fun value s => { s with metricsAddress := value }]

/-- The name of a domain, which has no default. -/
def readHomeserver : Toml → Except TypeFault String
  | .table members =>
    (Field.takeAll [.of "name" Toml.asText fun name _ => some name] none members).bind fun
      | some name => .ok name
      | none => .error (.missing "name")
  | .moment => .error (.missing "name")
  | .list (name :: _) => name.asText
  | .list [] => .error (.tooShort "struct HomeserverConfig with 1 element")
  | value => value.refuse "struct HomeserverConfig"

def Settings.fields : List (Field Settings) := [
  .of "general" (Field.overlay "struct GeneralConfig" General.fields .default)
    fun value s => { s with general := value },
  .of "homeservers" (Toml.asList readHomeserver) fun value s => { s with homeservers := value },
  .of "uploads" (Field.overlay "struct UploadsConfig" Uploads.fields .default)
    fun value s => { s with uploads := value },
  .of "thumbnails" (Field.overlay "struct ThumbnailsConfig" Thumbnails.fields .default)
    fun value s => { s with thumbnails := value },
  .of "url_previews" (Field.overlay "struct UrlPreviewsConfig" switchFields false)
    fun value s => { s with previewsEnabled := value },
  .of "identicons" (Field.overlay "struct IdenticonsConfig" switchFields true)
    fun value s => { s with identiconsEnabled := value },
  .of "rate_limit" (Field.overlay "struct RateLimitConfig" RateLimit.fields .default)
    fun value s => { s with rateLimit := value },
  .of "observability" (Field.overlay "struct ObservabilityConfig" Observability.fields .default)
    fun value s => { s with observability := value }]

/-- The settings a document describes: what it gives, and defaults for all else. -/
def Settings.ofMembers (members : List (String × Toml)) : Except TypeFault Settings :=
  Field.takeAll Settings.fields .default members

end MediaServer
