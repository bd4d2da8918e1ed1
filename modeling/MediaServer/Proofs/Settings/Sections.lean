import MediaServer.Proofs.Settings.Fields

namespace MediaServer

def Toml.text? : Toml → Option String
  | .text value => some value
  | _ => none

def Toml.boolean? : Toml → Option Bool
  | .boolean value => some value
  | _ => none

/-- A whole number from zero to the limit. -/
def Toml.natural? (limit : Nat) : Toml → Option Nat
  | .integer value => if 0 ≤ value ∧ value ≤ limit then some value.toNat else none
  | _ => none

/-- A floating-point number, or a whole one. -/
def Toml.number? : Toml → Option Float
  | .float value => some value
  | .integer value => some (Float.ofInt value)
  | _ => none

def Toml.list? {α : Type} (read? : Toml → Option α) : Toml → Option (List α)
  | .list items => items.mapM read?
  | _ => none

/-- The name of a domain. It is the only member that counts, and the first if there are no keys. -/
def Toml.homeserver? : Toml → Option String
  | .table members => (members.lookup "name").bind Toml.text?
  | .list (name :: _) => name.text?
  | _ => none

/-- A list or a date, which is taken in the place of a table. -/
def Toml.isStandIn : Toml → Bool
  | .list _ => true
  | .moment => true
  | _ => false

def General.settings : List (Setting General) := [
  ⟨["bind_address"], String, Toml.text?, (·.bindAddress)⟩,
  ⟨["port"], Nat, Toml.natural? max16, (·.port)⟩,
  ⟨["api_prefix"], String, Toml.text?, (·.apiPrefix)⟩,
  ⟨["server_name"], String, Toml.text?, (·.serverName)⟩,
  ⟨["versions"], List String, Toml.list? Toml.text?, (·.versions)⟩]

def Uploads.settings : List (Setting Uploads) := [
  ⟨["max_bytes"], Nat, Toml.natural? max64, (·.maxBytes)⟩,
  ⟨["storage_path"], String, Toml.text?, (·.storagePath)⟩]

def Thumbnails.settings : List (Setting Thumbnails) := [
  ⟨["max_width"], Nat, Toml.natural? max32, (·.maxWidth)⟩,
  ⟨["max_height"], Nat, Toml.natural? max32, (·.maxHeight)⟩]

def switchSettings : List (Setting Bool) := [
  ⟨["enabled"], Bool, Toml.boolean?, id⟩]

def RateLimit.settings : List (Setting RateLimit) := [
  ⟨["enabled"], Bool, Toml.boolean?, (·.enabled)⟩,
  ⟨["requests_per_second"], Float, Toml.number?, (·.requestsPerSecond)⟩,
  ⟨["burst_count"], Nat, Toml.natural? max32, (·.burstCount)⟩,
  ⟨["bucket_ttl_secs"], Nat, Toml.natural? max64, (·.bucketTtl)⟩]

def Observability.settings : List (Setting Observability) := [
  ⟨["log_level"], String, Toml.text?, (·.logLevel)⟩,
  ⟨["metrics_enabled"], Bool, Toml.boolean?, (·.metricsEnabled)⟩,
  ⟨["metrics_address"], String, Toml.text?, (·.metricsAddress)⟩]

/-- A section of the settings: the name of its table, and where its part is kept. -/
structure Section where
  name : String
  Part : Type
  view : Settings → Part
  settings : List (Setting Part)

def generalSection : Section :=
  ⟨"general", General, (·.general), General.settings⟩

def uploadsSection : Section :=
  ⟨"uploads", Uploads, (·.uploads), Uploads.settings⟩

def thumbnailsSection : Section :=
  ⟨"thumbnails", Thumbnails, (·.thumbnails), Thumbnails.settings⟩

def previewsSection : Section :=
  ⟨"url_previews", Bool, (·.previewsEnabled), switchSettings⟩

def identiconsSection : Section :=
  ⟨"identicons", Bool, (·.identiconsEnabled), switchSettings⟩

def rateLimitSection : Section :=
  ⟨"rate_limit", RateLimit, (·.rateLimit), RateLimit.settings⟩

def observabilitySection : Section :=
  ⟨"observability", Observability, (·.observability), Observability.settings⟩

def Section.all : List Section :=
  [generalSection, uploadsSection, thumbnailsSection, previewsSection, identiconsSection, rateLimitSection,
    observabilitySection]

/-- The list of domains, which is a setting as a whole. -/
def Settings.homeserversSetting : Setting Settings :=
  ⟨["homeservers"], List String, Toml.list? Toml.homeserver?, (·.homeservers)⟩

def Settings.all : List (Setting Settings) :=
  Settings.homeserversSetting ::
    Section.all.flatMap fun part => part.settings.map (·.within part.name part.view)

section Readers

theorem Toml.asText_reads : Toml.Reads Toml.asText Toml.text? := by
  intro value _
  cases value <;> rfl

theorem Toml.asBoolean_reads : Toml.Reads Toml.asBoolean Toml.boolean? := by
  intro value _
  cases value <;> rfl

theorem Toml.asFloat_reads : Toml.Reads Toml.asFloat Toml.number? := by
  intro value _
  cases value <;> rfl

theorem Toml.asNatural_reads (limit : Nat) (wanted : String) :
    Toml.Reads (Toml.asNatural limit wanted) (Toml.natural? limit) := by
  intro value _
  cases value with
  | integer value => by_cases fits : 0 ≤ value ∧ value ≤ limit <;> simp [asNatural, natural?, fits, Except.toOption]
  | _ => rfl

theorem Toml.asList_reads {α : Type} {read : Toml → Except TypeFault α} {read? : Toml → Option α}
    (reads : Toml.Reads read read?) : Toml.Reads (Toml.asList read) (Toml.list? read?) := by
  intro value distinct
  cases distinct with
  | @list items each =>
    rw [asList, list?]
    induction items with
    | nil => rfl
    | cons item items ih =>
      obtain ⟨own, others⟩ := List.forall_mem_cons.mp each
      rw [List.mapM_cons, List.mapM_cons, ← ih others, ← reads item own]
      rcases read item with fault | first
      · rfl
      · rcases items.mapM read with fault | rest <;> rfl
  | _ => rfl

/-- The only field of a domain, which has no value before it is given. -/
theorem homeserver_schema : Field.Schema
    [.of "name" Toml.asText fun name _ => some name]
    [⟨["name"], Option String, fun value => value.text?.map some, id⟩] where
  names := by decide
  realized := by
    refine .cons ⟨rfl, ?_, ?_⟩ .nil
    · intro value distinct
      simp only [Field.of_change_eq_ok_iff, ← Toml.asText_reads value distinct]
      cases value.asText <;> simp [Except.toOption]
    · intro value change distinct done state
      obtain ⟨name, read, rfl⟩ := Field.of_change_eq_ok_iff.mp done
      simp [← Toml.asText_reads value distinct, read, Except.toOption]
  apart := by simp [Field.of_name]

theorem readHomeserver_reads : Toml.Reads readHomeserver Toml.homeserver? := by
  intro value distinct
  cases value with
  | list items =>
    cases distinct with
    | list each =>
      cases items with
      | nil => rfl
      | cons name others => exact Toml.asText_reads name (each name (List.mem_cons_self ..))
  | table members =>
    rw [readHomeserver, Toml.homeserver?]
    rcases done : Field.takeAll [.of "name" Toml.asText fun name _ => some name] none members with fault | later
    · -- Nothing but the name can be refused, so it is given and is no text.
      have refused : ¬ ∃ later, Field.takeAll [.of "name" Toml.asText fun name _ => some name] none members =
          .ok later := by simp [done]
      rw [homeserver_schema.takeAll_ok_iff distinct, List.forall_mem_singleton, Setting.Accepts,
        Toml.at?_singleton] at refused
      simp only [not_forall] at refused
      obtain ⟨value, given, bad⟩ := refused
      rw [given, Option.bind_some]
      rcases text : value.text? with _ | name
      · rfl
      · simp [text] at bad
    · have holds := homeserver_schema.takeAll_holds distinct done
      rw [List.forall_mem_singleton, Setting.holds_iff rfl] at holds
      obtain ⟨absent, present⟩ := holds
      rcases given : members.lookup "name" with _ | value
      · obtain rfl : later = none := absent given
        rfl
      · have own : value.text?.map some = some later := present value given
        rw [Option.bind_some]
        rcases text : value.text? with _ | name
        · rw [text] at own
          cases own
        · rw [text] at own
          cases own
          rfl
  | _ => rfl

end Readers

section Schemas

theorem General.schema : Field.Schema General.fields General.settings where
  names := by decide
  realized :=
    .cons (.of Toml.asText_reads fun _ _ => rfl) <|
    .cons (.of (Toml.asNatural_reads _ _) fun _ _ => rfl) <|
    .cons (.of Toml.asText_reads fun _ _ => rfl) <|
    .cons (.of Toml.asText_reads fun _ _ => rfl) <|
    .cons (.of (Toml.asList_reads Toml.asText_reads) fun _ _ => rfl) .nil
  apart := by simp [General.fields, General.settings, Field.of_name, Field.of_keeps_iff]

theorem Uploads.schema : Field.Schema Uploads.fields Uploads.settings where
  names := by decide
  realized :=
    .cons (.of (Toml.asNatural_reads _ _) fun _ _ => rfl) <|
    .cons (.of Toml.asText_reads fun _ _ => rfl) .nil
  apart := by simp [Uploads.fields, Uploads.settings, Field.of_name, Field.of_keeps_iff]

theorem Thumbnails.schema : Field.Schema Thumbnails.fields Thumbnails.settings where
  names := by decide
  realized :=
    .cons (.of (Toml.asNatural_reads _ _) fun _ _ => rfl) <|
    .cons (.of (Toml.asNatural_reads _ _) fun _ _ => rfl) .nil
  apart := by simp [Thumbnails.fields, Thumbnails.settings, Field.of_name, Field.of_keeps_iff]

theorem switch_schema : Field.Schema switchFields switchSettings where
  names := by decide
  realized := .cons (.of Toml.asBoolean_reads fun _ _ => rfl) .nil
  apart := by simp [switchFields, switchSettings, Field.of_name]

theorem RateLimit.schema : Field.Schema RateLimit.fields RateLimit.settings where
  names := by decide
  realized :=
    .cons (.of Toml.asBoolean_reads fun _ _ => rfl) <|
    .cons (.of Toml.asFloat_reads fun _ _ => rfl) <|
    .cons (.of (Toml.asNatural_reads _ _) fun _ _ => rfl) <|
    .cons (.of (Toml.asNatural_reads _ _) fun _ _ => rfl) .nil
  apart := by simp [RateLimit.fields, RateLimit.settings, Field.of_name, Field.of_keeps_iff]

theorem Observability.schema : Field.Schema Observability.fields Observability.settings where
  names := by decide
  realized :=
    .cons (.of Toml.asText_reads fun _ _ => rfl) <|
    .cons (.of Toml.asBoolean_reads fun _ _ => rfl) <|
    .cons (.of Toml.asText_reads fun _ _ => rfl) .nil
  apart := by simp [Observability.fields, Observability.settings, Field.of_name, Field.of_keeps_iff]

end Schemas

/-- What a section is read with takes its tables, and each of its settings as it is given there. -/
structure Section.ReadBy (part : Section) (read : Toml → Except TypeFault part.Part) : Prop where
  accepted : ∀ {value : Toml}, value.Distinct → value.isStandIn = false →
    ((∃ own, read value = .ok own) ↔
      (∃ members, value = .table members) ∧ ∀ setting ∈ part.settings, setting.Accepts value)
  holds : ∀ {value : Toml} {own}, value.Distinct → value.isStandIn = false → read value = .ok own →
    ∀ setting ∈ part.settings, setting.Holds value (part.view .default) own

/-- A section as one setting. -/
def Section.whole (part : Section) (read : Toml → Except TypeFault part.Part) : Setting Settings :=
  ⟨[part.name], part.Part, fun value => (read value).toOption, part.view⟩

theorem Section.ReadBy.overlay {part : Section} {fields : List (Field part.Part)} {start : part.Part}
    (schema : Field.Schema fields part.settings) (default : part.view .default = start) (wanted : String) :
    part.ReadBy (Field.overlay wanted fields start) where
  accepted {value} distinct plain := by
    cases value with
    | table members =>
      rw [Field.overlay, schema.takeAll_ok_iff distinct]
      simp
    | list items => cases plain
    | moment => cases plain
    | _ => simp [Field.overlay, Toml.refuse]
  holds {value own} distinct plain done := by
    subst default
    cases value with
    | table members => exact schema.takeAll_holds distinct done
    | list items => cases plain
    | moment => cases plain
    | _ => cases done

end MediaServer
