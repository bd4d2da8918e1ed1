import MediaServer.Proofs.Settings.Sections
import MediaServer.Settings.Load

namespace MediaServer

/-- Sections are written as tables: none is a list or a date, which would be taken in the place of one. -/
def Settings.InTables (members : List (String × Toml)) : Prop :=
  ∀ part ∈ Section.all, ∀ value ∈ members.lookup part.name, value.isStandIn = false

instance (members : List (String × Toml)) : Decidable (Settings.InTables members) :=
  inferInstanceAs (Decidable (∀ part ∈ Section.all, ∀ value ∈ members.lookup part.name, value.isStandIn = false))

/-- Every section that is given is a table, and what is given for a setting is a value of it. -/
structure Settings.Accepts (members : List (String × Toml)) : Prop where
  sections : ∀ part ∈ Section.all, ∀ value ∈ members.lookup part.name, ∃ inner, value = .table inner
  settings : ∀ setting ∈ Settings.all, setting.Accepts (.table members)

/-- The documented default of every setting. -/
def Settings.documented : Settings where
  general := {
    bindAddress := "0.0.0.0"
    port := 8000
    apiPrefix := "/_matrix/media"
    serverName := "media-gateway"
    versions := ["r0", "v1"] }
  homeservers := ["localhost"]
  uploads := { maxBytes := 104857600, storagePath := "./media" }
  thumbnails := { maxWidth := 800, maxHeight := 600 }
  previewsEnabled := false
  identiconsEnabled := true
  rateLimit := { enabled := false, requestsPerSecond := 1, burstCount := 10, bucketTtl := 3600 }
  observability := {
    logLevel := "media_gateway=info,tower_http=info"
    metricsEnabled := false
    metricsAddress := "0.0.0.0:9090" }

/-- Every setting is what is given for it, or its default if nothing is given. -/
def Settings.Overlays (members : List (String × Toml)) (settings : Settings) : Prop :=
  ∀ setting ∈ Settings.all, setting.Holds (.table members) .documented settings

theorem Settings.documented_eq_default : Settings.documented = .default :=
  rfl

/-- What each section is read with. -/
def Section.readers : List ((part : Section) × (Toml → Except TypeFault part.Part)) := [
  ⟨generalSection, Field.overlay "struct GeneralConfig" General.fields .default⟩,
  ⟨uploadsSection, Field.overlay "struct UploadsConfig" Uploads.fields .default⟩,
  ⟨thumbnailsSection, Field.overlay "struct ThumbnailsConfig" Thumbnails.fields .default⟩,
  ⟨previewsSection, Field.overlay "struct UrlPreviewsConfig" switchFields false⟩,
  ⟨identiconsSection, Field.overlay "struct IdenticonsConfig" switchFields true⟩,
  ⟨rateLimitSection, Field.overlay "struct RateLimitConfig" RateLimit.fields .default⟩,
  ⟨observabilitySection, Field.overlay "struct ObservabilityConfig" Observability.fields .default⟩]

/-- Sections, each as one setting, and the list of domains, in the order of the fields. -/
def Settings.outline : List (Setting Settings) :=
  (Section.readers.map fun entry => entry.1.whole entry.2).insertIdx 1 Settings.homeserversSetting

section Outline

theorem Section.readers_readBy : ∀ entry ∈ Section.readers, entry.1.ReadBy entry.2 := by
  simp only [readers, List.forall_mem_cons]
  exact ⟨.overlay General.schema rfl _, .overlay Uploads.schema rfl _, .overlay Thumbnails.schema rfl _,
    .overlay switch_schema rfl _, .overlay switch_schema rfl _, .overlay RateLimit.schema rfl _,
    .overlay Observability.schema rfl _, List.forall_mem_nil _⟩

theorem Section.exists_reader {part : Section} (member : part ∈ Section.all) :
    ∃ read, part.ReadBy read ∧ part.whole read ∈ Settings.outline := by
  have all : Section.all = Section.readers.map (·.1) := rfl
  rw [all] at member
  obtain ⟨entry, inside, rfl⟩ := List.mem_map.mp member
  refine ⟨entry.2, Section.readers_readBy entry inside, ?_⟩
  rw [Settings.outline, List.mem_insertIdx (by decide)]
  exact Or.inr (List.mem_map_of_mem inside)

theorem Settings.outline_cases {setting : Setting Settings} (member : setting ∈ Settings.outline) :
    setting = Settings.homeserversSetting ∨
      ∃ part ∈ Section.all, ∃ read, part.ReadBy read ∧ setting = part.whole read := by
  rw [outline, List.mem_insertIdx (by decide)] at member
  rcases member with rfl | inside
  · exact Or.inl rfl
  · obtain ⟨entry, among, rfl⟩ := List.mem_map.mp inside
    exact Or.inr ⟨entry.1, List.mem_map_of_mem among, entry.2, Section.readers_readBy entry among, rfl⟩

theorem Settings.homeserversSetting_mem_outline : Settings.homeserversSetting ∈ Settings.outline := by
  rw [outline, List.mem_insertIdx (by decide)]
  exact Or.inl rfl

theorem Settings.outline_schema : Field.Schema Settings.fields Settings.outline where
  names := by decide
  realized :=
    .cons (.of (fun _ _ => rfl) fun _ _ => rfl) <|
    .cons (.of (Toml.asList_reads readHomeserver_reads) fun _ _ => rfl) <|
    .cons (.of (fun _ _ => rfl) fun _ _ => rfl) <|
    .cons (.of (fun _ _ => rfl) fun _ _ => rfl) <|
    .cons (.of (fun _ _ => rfl) fun _ _ => rfl) <|
    .cons (.of (fun _ _ => rfl) fun _ _ => rfl) <|
    .cons (.of (fun _ _ => rfl) fun _ _ => rfl) <|
    .cons (.of (fun _ _ => rfl) fun _ _ => rfl) .nil
  apart := by
    simp [Settings.fields, Settings.outline, Section.readers, Section.whole, Settings.homeserversSetting,
      Field.of_name, Field.of_keeps_iff, generalSection, uploadsSection, thumbnailsSection, previewsSection, identiconsSection,
      rateLimitSection, observabilitySection]

end Outline

section Members

variable {members : List (String × Toml)} {settings : Settings}

theorem Settings.mem_all {setting : Setting Settings} : setting ∈ Settings.all ↔
    setting = Settings.homeserversSetting ∨
      ∃ part ∈ Section.all, ∃ own ∈ part.settings, setting = own.within part.name part.view := by
  simp only [all, List.mem_cons, List.mem_flatMap, List.mem_map, eq_comm]

theorem Toml.at?_cons (name : String) (path : List String) :
    (Toml.table members).at? (name :: path) = (members.lookup name).bind (Toml.at? path) :=
  rfl

/-- A document is accepted exactly if nothing in it is of a wrong type. -/
theorem Settings.ofMembers_ok_iff (distinct : (Toml.table members).Distinct) (tables : Settings.InTables members) :
    (∃ settings, Settings.ofMembers members = .ok settings) ↔ Settings.Accepts members := by
  obtain ⟨_, each⟩ := Toml.table_distinct_iff.mp distinct
  rw [ofMembers, outline_schema.takeAll_ok_iff distinct]
  constructor
  · intro accepts
    -- A section that is given is read, so it is a table in which every setting is accepted.
    have whole : ∀ part ∈ Section.all, ∀ value, members.lookup part.name = some value →
        (∃ inner, value = .table inner) ∧ ∀ setting ∈ part.settings, setting.Accepts value := by
      intro part member value given
      obtain ⟨read, readBy, inside⟩ := Section.exists_reader member
      obtain ⟨own, made⟩ := accepts _ inside value (by rwa [Section.whole, Toml.at?_singleton])
      rw [← readBy.accepted (each _ (mem_of_lookup given)) (tables part member value given)]
      exact ⟨own, eq_ok_of_toOption made⟩
    refine ⟨fun part member value given => (whole part member value given).1, ?_⟩
    intro setting inside
    rcases mem_all.mp inside with rfl | ⟨part, member, own, among, rfl⟩
    · exact accepts _ homeserversSetting_mem_outline
    · intro value found
      rw [Setting.within, Toml.at?_cons] at found
      obtain ⟨table, given, found⟩ := Option.bind_eq_some_iff.mp found
      exact (whole part member table given).2 own among value found
  · intro accepts setting inside
    rcases outline_cases inside with rfl | ⟨part, member, read, readBy, rfl⟩
    · exact accepts.settings _ (mem_all.mpr (Or.inl rfl))
    · intro value given
      rw [Section.whole, Toml.at?_singleton] at given
      have able := (readBy.accepted (each _ (mem_of_lookup given)) (tables part member value given)).mpr
        ⟨accepts.sections part member value given, fun own among found there =>
          accepts.settings _ (mem_all.mpr (Or.inr ⟨part, member, own, among, rfl⟩)) found
            (by rw [Setting.within, Toml.at?_cons, given]; exact there)⟩
      obtain ⟨own, made⟩ := able
      exact ⟨own, congrArg Except.toOption made⟩

/-- What a document is read as lays what it gives over the defaults. -/
theorem Settings.ofMembers_overlays (distinct : (Toml.table members).Distinct) (tables : Settings.InTables members)
    (done : Settings.ofMembers members = .ok settings) : Settings.Overlays members settings := by
  obtain ⟨_, each⟩ := Toml.table_distinct_iff.mp distinct
  have holds := outline_schema.takeAll_holds distinct done
  intro setting inside
  rw [Settings.documented_eq_default]
  rcases mem_all.mp inside with rfl | ⟨part, member, own, among, rfl⟩
  · exact holds _ homeserversSetting_mem_outline
  · obtain ⟨read, readBy, whole⟩ := Section.exists_reader member
    obtain ⟨absent, present⟩ := (Setting.holds_iff rfl).mp (holds _ whole)
    rw [Setting.Holds, Setting.within, Toml.at?_cons]
    rcases given : members.lookup part.name with _ | value
    · exact congrArg own.view (absent given)
    · have made := eq_ok_of_toOption (present value given)
      exact readBy.holds (each _ (mem_of_lookup given)) (tables part member value given) made own among

/-- Settings that agree in each one are the same. -/
theorem Settings.eq_of_views {other : Settings}
    (same : ∀ setting ∈ Settings.all, setting.view settings = setting.view other) : settings = other := by
  obtain ⟨⟨_, _, _, _, _⟩, _, ⟨_, _⟩, ⟨_, _⟩, _, _, ⟨_, _, _, _⟩, _, _, _⟩ := settings
  obtain ⟨⟨_, _, _, _, _⟩, _, ⟨_, _⟩, ⟨_, _⟩, _, _, ⟨_, _, _, _⟩, _, _, _⟩ := other
  simp [all, Section.all, homeserversSetting, Setting.within, generalSection, uploadsSection, thumbnailsSection,
    previewsSection, identiconsSection, rateLimitSection, observabilitySection, General.settings, Uploads.settings,
    Thumbnails.settings, switchSettings, RateLimit.settings, Observability.settings] at same
  simp [same]

/-- What lays the same over the defaults is the same. -/
theorem Settings.Overlays.unique {other : Settings} (overlays : Settings.Overlays members settings)
    (also : Settings.Overlays members other) : other = settings :=
  eq_of_views fun setting inside => (overlays setting inside).agree (also setting inside) rfl

end Members

/-- The keys that a document may have on its top level. -/
def Settings.topKeys : List String :=
  Settings.all.filterMap (·.path.head?)

/-- The keys that the section of a name may have. -/
def Settings.keysUnder (name : String) : List String :=
  Settings.all.filterMap fun setting =>
    match setting.path with
    | [first, key] => if first = name then some key else none
    | _ => none

/-- A table without its members of other keys. -/
def Toml.keep (keys : List String) : Toml → Toml
  | .table members => .table (members.filter (·.1 ∈ keys))
  | value => value

/-- A value of a known key without all that is unknown in it. -/
def Toml.known (name : String) : Toml → Toml
  | .list items => if name = "homeservers" then .list (items.map (Toml.keep ["name"])) else .list items
  | value => value.keep (Settings.keysUnder name)

/-- A document without its unknown keys, on any level. -/
def Settings.known (members : List (String × Toml)) : List (String × Toml) :=
  (members.filter (·.1 ∈ Settings.topKeys)).map fun (name, value) => (name, value.known name)

section Unknown

variable {σ : Type} {fields : List (Field σ)} {start : σ} {members : List (String × Toml)}

/-- Members that no field is named for change nothing. -/
theorem Field.takeAll_filter {keys : List String} (known : ∀ field ∈ fields, field.name ∈ keys) :
    Field.takeAll fields start (members.filter (·.1 ∈ keys)) = Field.takeAll fields start members := by
  induction members generalizing start with
  | nil => rfl
  | cons member members ih =>
    by_cases kept : member.1 ∈ keys
    · rw [List.filter_cons_of_pos (by simpa using kept), takeAll_cons, takeAll_cons]
      simp only [ih]
    · have unknown : fields.find? (·.name == member.1) = none := by
        rw [List.find?_eq_none]
        intro field among same
        exact kept (beq_iff_eq.mp same ▸ known field among)
      rw [List.filter_cons_of_neg (by simpa using kept), ih, takeAll_cons, take, unknown]
      rfl

/-- A value counts only for what its field makes of it. -/
theorem Field.takeAll_map {other : String → Toml → Toml}
    (same : ∀ field ∈ fields, ∀ value, field.change (other field.name value) = field.change value) :
    Field.takeAll fields start (members.map fun (name, value) => (name, other name value)) =
      Field.takeAll fields start members := by
  induction members generalizing start with
  | nil => rfl
  | cons member members ih =>
    obtain ⟨name, value⟩ := member
    have taken : Field.take fields start (name, other name value) = Field.take fields start (name, value) := by
      rw [take, take]
      rcases found : fields.find? (·.name == name) with _ | field
      · simp only [found]
      · have here : field.name = name := by simpa using List.find?_some found
        simp only [found, ← same field (List.mem_of_find?_eq_some found) value, here]
    rw [List.map_cons, takeAll_cons, takeAll_cons, taken]
    simp only [ih]

theorem Field.overlay_known {name : String} (apart : name ≠ "homeservers")
    (known : ∀ field ∈ fields, field.name ∈ Settings.keysUnder name) (wanted : String) (value : Toml) :
    Field.overlay wanted fields start (value.known name) = Field.overlay wanted fields start value := by
  cases value with
  | list items => rw [Toml.known, if_neg apart]
  | table members => exact takeAll_filter known
  | _ => rfl

theorem readHomeserver_keep (value : Toml) : readHomeserver (value.keep ["name"]) = readHomeserver value := by
  cases value with
  | table members => rw [Toml.keep, readHomeserver, readHomeserver, Field.takeAll_filter (by simp [Field.of_name])]
  | _ => rfl

theorem asList_known (value : Toml) :
    Toml.asList readHomeserver (value.known "homeservers") = Toml.asList readHomeserver value := by
  cases value with
  | list items =>
    rw [Toml.known, if_pos rfl, Toml.asList, Toml.asList, List.mapM_map]
    simp only [Function.comp_def, readHomeserver_keep]
  | _ => rfl

theorem Field.of_change_congr {α : Type} {name : String} {read : Toml → Except TypeFault α} {put : α → σ → σ}
    {value other : Toml} (same : read other = read value) :
    (Field.of name read put).change other = (Field.of name read put).change value := by
  simp only [Field.of, same]

/-- Unknown keys change nothing, on any level, not even the reason why a document is refused. -/
theorem Settings.ofMembers_known (members : List (String × Toml)) :
    Settings.ofMembers (Settings.known members) = Settings.ofMembers members := by
  have same : ∀ field ∈ Settings.fields, ∀ value : Toml,
      field.change (value.known field.name) = field.change value := by
    simp only [Settings.fields, List.forall_mem_cons]
    exact ⟨fun value => Field.of_change_congr (Field.overlay_known (by decide) (by decide) _ value),
      fun value => Field.of_change_congr (asList_known value),
      fun value => Field.of_change_congr (Field.overlay_known (by decide) (by decide) _ value),
      fun value => Field.of_change_congr (Field.overlay_known (by decide) (by decide) _ value),
      fun value => Field.of_change_congr (Field.overlay_known (by decide) (by decide) _ value),
      fun value => Field.of_change_congr (Field.overlay_known (by decide) (by decide) _ value),
      fun value => Field.of_change_congr (Field.overlay_known (by decide) (by decide) _ value),
      fun value => Field.of_change_congr (Field.overlay_known (by decide) (by decide) _ value),
      List.forall_mem_nil _⟩
  rw [ofMembers, known, Field.takeAll_map same, Field.takeAll_filter (by decide), ofMembers]

end Unknown

theorem Settings.parse_refused {text : String} {members : List (String × Toml)} {fault : TypeFault}
    (read : Toml.read? text = some members) (refused : Settings.ofMembers members = .error fault) :
    Settings.parse text = .error (.badType fault) := by
  simp only [parse, read, refused]

theorem Settings.parse_made {text : String} {members : List (String × Toml)} {settings : Settings}
    (read : Toml.read? text = some members) (made : Settings.ofMembers members = .ok settings) :
    Settings.parse text = if settings.isValid then .ok settings else .error (.invalid settings.faults) := by
  simp only [parse, read, made]

/-- Settings are what a document gives, laid over the defaults field by field. If no value is of a wrong type,
there is one way to do so, and the document is read as these settings if they are valid and is refused with
all their faults if they are not; else it is refused for the type. Unknown keys make no difference, and each
setting depends on nothing but what is given for it. -/
theorem Settings.parse_overlays {text : String} {members : List (String × Toml)}
    (read : Toml.read? text = some members) (tables : Settings.InTables members) :
    ((∃ fault, Settings.parse text = .error (.badType fault)) ↔ ¬ Settings.Accepts members) ∧
      (Settings.Accepts members → ∃ settings, Settings.ofMembers members = .ok settings ∧
        (∀ other, Settings.Overlays members other ↔ other = settings) ∧
        Settings.parse text = if settings.isValid then .ok settings else .error (.invalid settings.faults)) ∧
      (∀ settings, Settings.parse text = .ok settings → settings.isValid ∧ Settings.Overlays members settings) ∧
      ∀ other others, Toml.read? other = some others →
        (Settings.known others = Settings.known members → Settings.parse other = Settings.parse text) ∧
        (Settings.InTables others → ∀ settings changed, Settings.ofMembers members = .ok settings →
          Settings.ofMembers others = .ok changed → ∀ setting ∈ Settings.all,
            (Toml.table others).at? setting.path = (Toml.table members).at? setting.path →
              setting.view changed = setting.view settings) := by
  have distinct := Toml.read?_distinct read
  have accepted := ofMembers_ok_iff distinct tables
  have overlaid : ∀ settings, Settings.ofMembers members = .ok settings → Settings.Overlays members settings :=
    fun _ => ofMembers_overlays distinct tables
  refine ⟨?_, ?_, ?_, ?_⟩
  · rw [← accepted]
    rcases made : Settings.ofMembers members with fault | settings
    · simp [parse_refused read made]
    · rw [parse_made read made]
      by_cases valid : settings.isValid = true <;> simp [valid]
  · intro accepts
    obtain ⟨settings, made⟩ := accepted.mpr accepts
    refine ⟨settings, made, fun other => ⟨(overlaid settings made).unique, ?_⟩, parse_made read made⟩
    rintro rfl
    exact overlaid other made
  · intro settings parsed
    rcases made : Settings.ofMembers members with fault | own
    · rw [parse_refused read made] at parsed
      cases parsed
    · rw [parse_made read made] at parsed
      split at parsed
      · rename_i valid
        cases parsed
        exact ⟨valid, overlaid settings made⟩
      · cases parsed
  · intro other others also
    refine ⟨fun same => ?_, ?_⟩
    · have alike : Settings.ofMembers others = Settings.ofMembers members := by
        rw [← ofMembers_known others, same, ofMembers_known]
      rcases made : Settings.ofMembers members with fault | settings
      · rw [parse_refused read made, parse_refused also (alike.trans made)]
      · rw [parse_made read made, parse_made also (alike.trans made)]
    · intro tablesToo settings changed made madeToo setting inside same
      have holds := overlaid settings made setting inside
      exact holds.agree (ofMembers_overlays (Toml.read?_distinct also) tablesToo madeToo setting inside) same

/-- Two sections and a list of domains, with keys that mean nothing. -/
def partialDocument : String :=
  "colour = \"red\"\n[[homeservers]]\nname = \"example.org\"\nport = 1\n[general]\nport = 8123\nsize = 3\n" ++
    "[rate_limit]\nrequests_per_second = 2\n"

theorem partialDocument_overlaid : ∃ members settings, Toml.read? partialDocument = some members ∧
    Settings.InTables members ∧ Settings.parse partialDocument = .ok settings ∧
    Settings.Overlays members settings ∧ settings.general.port = 8123 ∧
    settings.homeservers = ["example.org"] ∧ settings.thumbnails.maxWidth = 800 := by
  have evaluated : ((Toml.read? partialDocument).bind fun members =>
      (Settings.parse partialDocument).toOption.map fun settings =>
        (decide (Settings.InTables members), settings.general.port, settings.homeservers,
          settings.thumbnails.maxWidth)) = some (true, 8123, ["example.org"], 800) := by
    decide +kernel
  obtain ⟨members, read, found⟩ := Option.bind_eq_some_iff.mp evaluated
  obtain ⟨settings, made, seen⟩ := Option.map_eq_some_iff.mp found
  simp only [Prod.mk.injEq, decide_eq_true_eq] at seen
  obtain ⟨tables, port, homeservers, width⟩ := seen
  have parsed := eq_ok_of_toOption made
  obtain ⟨-, -, overlaid, -⟩ := Settings.parse_overlays read tables
  exact ⟨members, settings, read, tables, parsed, (overlaid settings parsed).2, port, homeservers, width⟩

end MediaServer
