import MediaServer.Gateway.Serve
import MediaServer.Proofs.Route.Base

namespace MediaServer

theorem faultUnless_eq_nil {holds : Bool} {fault : SettingsFault} :
    faultUnless holds fault = [] ↔ holds = true := by
  cases holds <;> simp [faultUnless]

/-- What valid settings say of the paths: some versions, each made of what versions are made of, and
a path that starts with a slash and does not end with one. -/
theorem Settings.general_of_valid {settings : Settings} (valid : settings.isValid) :
    settings.general.versions ≠ [] ∧ (∀ version ∈ settings.general.versions, isVersion version = true) ∧
      isPathPrefix settings.general.apiPrefix = true := by
  rw [isValid, List.isEmpty_iff] at valid
  simp only [faults, List.append_eq_nil_iff, faultUnless_eq_nil, List.map_eq_nil_iff, List.filter_eq_nil_iff,
    Bool.not_eq_true] at valid
  obtain ⟨⟨⟨⟨⟨⟨_, some⟩, named⟩, path⟩, _⟩, _⟩, _⟩ := valid
  exact ⟨by simpa using some, by simpa using named, path⟩

/-- Parts that a path with its slash is written as are the parts of the path read as a pattern. -/
theorem isPathPrefix_parts_iff {path : String} (slash : isPathPrefix path = true) {base : List Segment} :
    Segment.writeAll base = path ∧ Segment.Proper [] base ↔
      RoutePattern.parse path = .ok ⟨path, base⟩ := by
  have some : Segment.writeAll base = path → base ≠ [] := by
    rintro rfl rfl
    exact absurd slash (by decide)
  rw [RoutePattern.parse_eq_ok_iff]
  exact ⟨fun ⟨written, proper⟩ => ⟨rfl, written, some written, proper⟩,
    fun ⟨_, written, _, proper⟩ => ⟨written, proper⟩⟩

variable {settings : Settings}

theorem Gateway.withHandlers_ok_iff {identicons? : Option IdenticonMaker} {handlers : Endpoint → Handler} :
    (∃ gateway, withHandlers settings identicons? handlers = .ok gateway) ↔
      ∃ table, mediaRoutes handlers settings.general.apiPrefix settings.general.versions = .ok table := by
  unfold withHandlers
  cases mediaRoutes handlers settings.general.apiPrefix settings.general.versions <;> simp [Except.map]

theorem Gateway.withHandlers_error_iff {identicons? : Option IdenticonMaker} {handlers : Endpoint → Handler}
    {fault : RouteFault} :
    withHandlers settings identicons? handlers = .error fault ↔
      mediaRoutes handlers settings.general.apiPrefix settings.general.versions = .error fault := by
  unfold withHandlers
  cases mediaRoutes handlers settings.general.apiPrefix settings.general.versions <;> simp [Except.map]

/-- Of valid settings, the gateway can be built exactly for those that name no version twice and whose path
is a pattern below which the media interface fits; its routes never conflict. -/
theorem Settings.routable_iff (valid : settings.isValid) (identicons? : Option IdenticonMaker)
    (handlers : Endpoint → Handler) :
    ((∃ gateway, Gateway.withHandlers settings identicons? handlers = .ok gateway) ↔
      settings.general.versions.Nodup ∧
        ∃ base, RoutePattern.parse settings.general.apiPrefix = .ok base ∧ Segment.IsBase base.segments) ∧
    ∀ pattern, Gateway.withHandlers settings identicons? handlers ≠ .error (.conflict pattern) := by
  obtain ⟨some, named, path⟩ := Settings.general_of_valid valid
  have literal : ∀ version ∈ settings.general.versions, (Segment.literal version).Wellformed :=
    fun version known => Segment.wellformed_of_isVersion (named version known)
  constructor
  · rw [Gateway.withHandlers_ok_iff, mediaRoutes_ok_iff literal some]
    refine and_congr_right fun _ => ⟨?_, ?_⟩
    · rintro ⟨base, written, proper, isBase⟩
      exact ⟨_, (isPathPrefix_parts_iff path).mp ⟨written, proper⟩, isBase⟩
    · rintro ⟨base, parsed, isBase⟩
      obtain ⟨_, written, _, proper⟩ := RoutePattern.parse_eq_ok_iff.mp parsed
      exact ⟨base.segments, written, proper, isBase⟩
  · intro pattern
    rw [ne_eq, Gateway.withHandlers_error_iff]
    exact mediaRoutes_no_conflict literal handlers _ pattern

/-- The usual settings with another path and other versions. -/
def Settings.routedBelow (apiPrefix : String) (versions : List String) : Settings :=
  { Settings.default with general := { General.default with apiPrefix, versions } }

/-- A path may capture what the routes do not. -/
theorem Settings.captured_realm_routable :
    let settings := Settings.routedBelow "/\x7brealm:media_id\x7d/media" ["r0", "v1"]
    settings.isValid ∧
      ∃ gateway, Gateway.withHandlers settings none Endpoint.handler = .ok gateway := by
  have valid : (Settings.routedBelow "/\x7brealm:media_id\x7d/media" ["r0", "v1"]).isValid := by
    decide +kernel
  refine ⟨valid, (Settings.routable_iff valid none Endpoint.handler).1.mpr ⟨by decide, ?_⟩⟩
  refine ⟨⟨"/\x7brealm:media_id\x7d/media", [.capture "realm" .mediaId, .literal "media"]⟩, ?_, ?_⟩
  · decide +kernel
  · exact ⟨by decide, by decide, by decide⟩

/-- Valid settings may name a version twice, or have an empty part within their path. -/
theorem Settings.valid_unroutable :
    (Settings.routedBelow "/_matrix/media" ["r0", "r0"]).isValid ∧
      (¬ ∃ gateway, Gateway.withHandlers (.routedBelow "/_matrix/media" ["r0", "r0"]) none Endpoint.handler =
        .ok gateway) ∧
    (Settings.routedBelow "/a//b" ["r0"]).isValid ∧
      Gateway.withHandlers (.routedBelow "/a//b" ["r0"]) none Endpoint.handler =
        .error (.malformed "/a//b/r0/upload" .emptySegment) := by
  refine ⟨by decide +kernel, ?_, by decide +kernel, ?_⟩
  · rw [Gateway.withHandlers_ok_iff]
    rintro ⟨table, accepted⟩
    exact absurd (mediaRoutes_versions_nodup accepted) (by decide)
  · rw [Gateway.withHandlers_error_iff]
    rfl

end MediaServer
