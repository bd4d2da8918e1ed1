import MediaServer.Proofs.Route.Completeness
import MediaServer.Proofs.Route.Surface

namespace MediaServer

section Taken

variable {segments : List Segment} {parts : List String} {taken : Taken} {captures : Captures}
  {name value : String} {kind : CaptureClass}

theorem Segment.mem_names_of_mem (member : capture name kind ∈ segments) : name ∈ segments.flatMap names :=
  List.mem_flatMap.mpr ⟨_, member, List.mem_singleton_self name⟩

theorem Segment.Takes.capture_mem (takes : Takes segments parts taken) {text : String}
    (member : (name, kind, text) ∈ taken) : capture name kind ∈ segments := by
  induction takes with
  | done => cases member
  | literal _ ih => exact List.mem_cons_of_mem _ (ih member)
  | one _ _ _ ih =>
    rcases List.mem_cons.mp member with here | inside
    · cases here
      exact List.mem_cons_self
    · exact List.mem_cons_of_mem _ (ih inside)
  | tail =>
    cases List.mem_singleton.mp member
    exact List.mem_cons_self

/-- Every value that is captured is of the class it was taken for. -/
theorem Taken.mem_of_decode? (decoded : taken.decode? = some captures) (member : (name, value) ∈ captures) :
    ∃ kind text, (name, kind, text) ∈ taken ∧ kind.accepts value = true := by
  induction taken generalizing captures with
  | nil =>
    obtain rfl : [] = captures := Option.some.inj decoded
    cases member
  | cons entry taken ih =>
    obtain ⟨ownName, kind, text⟩ := entry
    obtain ⟨first, rest, rfl, read, others⟩ := decode?_cons_iff.mp decoded
    rcases List.mem_cons.mp member with here | inside
    · obtain ⟨own, made, _, accepted⟩ := value?_eq_some_iff.mp read
      rw [made] at here
      cases here
      exact ⟨kind, text, List.mem_cons_self, accepted⟩
    · obtain ⟨kind, text, within, accepted⟩ := ih others inside
      exact ⟨kind, text, List.mem_cons_of_mem _ within, accepted⟩

end Taken

/-- The pattern of a route behind these parts. -/
def MediaRoute.patternBehind (route : MediaRoute) (base : List Segment) : RoutePattern :=
  ⟨Segment.writeAll (base ++ route.segments), base ++ route.segments⟩

variable {α : Type} {handlers : Endpoint → α} {path : String} {versions : List String} {table : RouteTable α}

/-- Whatever stands before its parts, a route of the media interface ends with them. -/
theorem MediaRoute.parse_registration_segments {version : String} {route : MediaRoute} (member : route ∈ all)
    {pattern : RoutePattern}
    (parsed : RoutePattern.parse (route.registration handlers path version).pattern = .ok pattern) :
    Segment.Proper [] pattern.segments ∧
      ∃ front, Segment.writeAll front = path ++ "/" ++ version ∧ pattern.segments = front ++ route.segments := by
  obtain ⟨_, written, _, proper⟩ := RoutePattern.parse_eq_ok_iff.mp parsed
  obtain ⟨front, split, start⟩ := Segment.eq_append_of_writeAll proper.wellformed
    (MediaRoute.proper route member).wellformed written
  exact ⟨proper, front, start, split⟩

/-- Whatever the path and the version are, they are read as parts behind which all routes of the version stand. -/
theorem mediaRoutes_version_base {version : String} (accepted : mediaRoutes handlers path versions = .ok table)
    (known : version ∈ versions) :
    ∃ base, RoutePattern.parse (path ++ "/" ++ version) = .ok ⟨path ++ "/" ++ version, base⟩ ∧
      (∀ segment ∈ base, segment.isTail = false) ∧
      ∀ route ∈ MediaRoute.all,
        RoutePattern.parse (route.registration handlers path version).pattern = .ok (route.patternBehind base) := by
  rw [mediaRoutes_eq_ofRegistrations] at accepted
  have behind : ∀ route ∈ MediaRoute.all, ∃ base, Segment.writeAll base = path ++ "/" ++ version ∧
      Segment.Proper [] base ∧ (∀ segment ∈ base, segment.isTail = false) ∧
      RoutePattern.parse (route.registration handlers path version).pattern = .ok (route.patternBehind base) := by
    intro route member
    obtain ⟨⟨source, segments⟩, opens⟩ := RouteTable.ofRegistrations_opens accepted _
      (mem_mediaRegistrations_iff.mpr ⟨version, known, route, member, rfl⟩)
    obtain ⟨proper, base, start, rfl⟩ := MediaRoute.parse_registration_segments member opens.parsed
    obtain ⟨-, written, -⟩ := RoutePattern.parse_eq_ok_iff.mp opens.parsed
    have filled := MediaRoute.segments_ne_nil route member
    obtain ⟨baseProper, tailless, -⟩ := (Segment.proper_append_iff filled).mp proper
    refine ⟨base, start, baseProper, tailless, ?_⟩
    exact RoutePattern.parse_eq_ok_iff.mpr ⟨written, written, List.append_ne_nil_of_right_ne_nil _ filled, proper⟩
  obtain ⟨base, start, proper, tailless, _⟩ := behind _ List.mem_cons_self
  have filled : base ≠ [] := by
    rintro rfl
    have chars := congrArg String.toList start
    simp [Segment.writeAll] at chars
  refine ⟨base, RoutePattern.parse_eq_ok_iff.mpr ⟨rfl, start, filled, proper⟩, tailless, ?_⟩
  -- The text says of which parts it is made, so these are the same for all routes.
  intro route member
  obtain ⟨also, sameStart, properAlso, _, parsed⟩ := behind route member
  obtain rfl := Segment.writeAll_inj proper.wellformed properAlso.wellformed (start.trans sameStart.symm)
  exact parsed

section Found

variable (accepted : mediaRoutes handlers path versions = .ok table) {method asked : String} {handler : α}
  {captures : Captures} (found : table.lookup method asked = .found handler captures)

include accepted found

/-- Behind a handler that is found there is the pattern of a route that has taken the path. -/
theorem mediaRoutes_found_behind :
    ∃ version ∈ versions, ∃ base, ∃ route ∈ MediaRoute.all, handler = handlers route.endpoint ∧
      (∀ other ∈ MediaRoute.all, Segment.Proper [] (base ++ other.segments)) ∧
      ∃ parts taken, Segment.Takes (base ++ route.segments) parts taken ∧ taken.decode? = some captures := by
  have registrations := accepted
  rw [mediaRoutes_eq_ofRegistrations] at registrations
  obtain ⟨indexed, holds⟩ := RouteTable.ofRegistrations_sound registrations
  have given := holds.lookup_given indexed method asked
  rw [found] at given
  rcases given with missed | ⟨pattern, captures, ⟨registered, taken, ⟨parts, _, takes⟩, decoded⟩, given⟩
  · cases missed
  cases given with
  | found _ handled =>
    obtain ⟨version, known, route, member, same⟩ := mem_mediaRegistrations_iff.mp handled
    obtain ⟨entry, inside, parsed⟩ := registered
    have source : entry.pattern = (route.registration handlers path version).pattern := by
      rw [same]
      exact (RoutePattern.parse_eq_ok_iff.mp parsed).1.symm
    obtain ⟨base, _, _, behind⟩ := mediaRoutes_version_base accepted known
    obtain rfl : route.patternBehind base = pattern := by
      rw [source, behind route member] at parsed
      exact Except.ok.inj parsed
    refine ⟨version, known, base, route, member, (congrArg Registration.handler same).symm, ?_, parts, taken, takes,
      decoded⟩
    intro other otherMember
    obtain ⟨_, _, _, proper⟩ := RoutePattern.parse_eq_ok_iff.mp (behind other otherMember)
    exact proper

/-- What is captured under a name that the routes know is of the class that they give to it. The path and the
versions may be any text, even one that captures more. -/
theorem mediaRoutes_captured {route : MediaRoute} (member : route ∈ MediaRoute.all) {name value : String}
    {kind : CaptureClass} (named : Segment.capture name kind ∈ route.segments)
    (captured : captures.lookup name = some value) : kind.accepts value = true := by
  obtain ⟨_, _, base, own, ownMember, _, proper, parts, taken, takes, decoded⟩ :=
    mediaRoutes_found_behind accepted found
  obtain ⟨ownKind, text, within, accepts⟩ := Taken.mem_of_decode? decoded (mem_of_lookup captured)
  rcases List.mem_append.mp (takes.capture_mem within) with before | inside
  · have distinct := (proper route member).distinct
    rw [List.flatMap_append, List.nodup_append] at distinct
    exact absurd rfl
      (distinct.2.2 name (Segment.mem_names_of_mem before) name (Segment.mem_names_of_mem named))
  · have alike : ∀ route ∈ MediaRoute.all, ∀ other ∈ MediaRoute.all, ∀ segment ∈ route.segments,
        ∀ also ∈ other.segments, segment.names = also.names → segment.names ≠ [] → segment = also := by
      decide +kernel
    have same := alike own ownMember route member _ inside _ named rfl (List.cons_ne_nil _ _)
    cases same
    exact accepts

/-- A lookup finds the handler of a route, and what the route captures is of the classes it names. -/
theorem mediaRoutes_found_cases :
    ∃ route ∈ MediaRoute.all, handler = handlers route.endpoint ∧
      ∀ name kind value, Segment.capture name kind ∈ route.segments →
        captures.lookup name = some value → kind.accepts value = true := by
  obtain ⟨_, _, _, route, member, same, _⟩ := mediaRoutes_found_behind accepted found
  exact ⟨route, member, same, fun _ _ _ named captured => mediaRoutes_captured accepted found member named captured⟩

end Found

end MediaServer
