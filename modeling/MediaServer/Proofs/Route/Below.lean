import MediaServer.Proofs.Route.Base

namespace MediaServer

section Taken

variable {segments : List Segment} {parts : List String} {taken : Taken} {captures : Captures}

/-- Parts that are no tail take one part of a path each and leave the rest to what follows them. -/
theorem Segment.Takes.split_base {base : List Segment} (tailless : ∀ segment ∈ base, segment.isTail = false)
    (takes : Takes (base ++ segments) parts taken) :
    ∃ front rest own below, parts = front ++ rest ∧ front.length = base.length ∧ taken = own ++ below ∧
      Takes segments rest below := by
  induction base generalizing parts taken with
  | nil => exact ⟨[], parts, [], taken, rfl, rfl, rfl, takes⟩
  | cons segment base ih =>
    obtain ⟨here, others⟩ := List.forall_mem_cons.mp tailless
    generalize whole : segment :: base ++ segments = all at takes
    cases takes with
    | done => cases whole
    | literal takes =>
      obtain ⟨rfl, rfl⟩ := List.cons.inj whole
      obtain ⟨front, rest, own, below, rfl, same, rfl, follows⟩ := ih others takes
      exact ⟨_ :: front, rest, own, below, rfl, congrArg (· + 1) same, rfl, follows⟩
    | one single filled takes =>
      obtain ⟨rfl, rfl⟩ := List.cons.inj whole
      obtain ⟨front, rest, own, below, rfl, same, rfl, follows⟩ := ih others takes
      exact ⟨_ :: front, rest, _ :: own, below, rfl, congrArg (· + 1) same, rfl, follows⟩
    | tail =>
      obtain ⟨rfl, _⟩ := List.cons.inj whole
      cases here

theorem Taken.value?_eq_some_iff {name part : String} {kind : CaptureClass} {entry : String × String} :
    Taken.value? (name, kind, part) = some entry ↔
      ∃ value, entry = (name, value) ∧ Percent.decodeText? part = some value ∧ kind.accepts value = true := by
  rw [Taken.value?, Option.bind_eq_some_iff]
  constructor
  · rintro ⟨value, decoded, kept⟩
    split at kept
    · rename_i accepted
      exact ⟨value, (Option.some.inj kept).symm, decoded, accepted⟩
    · cases kept
  · rintro ⟨value, rfl, decoded, accepted⟩
    exact ⟨value, decoded, if_pos accepted⟩

theorem Taken.decode?_cons_iff {entry : String × CaptureClass × String} {taken : Taken} {captures : Captures} :
    Taken.decode? (entry :: taken) = some captures ↔
      ∃ value rest, captures = value :: rest ∧ Taken.value? entry = some value ∧
        Taken.decode? taken = some rest := by
  rw [Taken.decode?, Taken.decode?, List.mapM_cons]
  constructor
  · intro made
    obtain ⟨value, first, made⟩ := Option.bind_eq_some_iff.mp made
    obtain ⟨rest, others, made⟩ := Option.bind_eq_some_iff.mp made
    exact ⟨value, rest, (Option.some.inj made).symm, first, others⟩
  · rintro ⟨value, rest, rfl, first, others⟩
    rw [first, others]
    rfl

/-- The captures have values together, or one of them has none. -/
theorem Taken.decode?_isSome_iff : (Taken.decode? taken).isSome ↔ ∀ entry ∈ taken, (Taken.value? entry).isSome := by
  induction taken with
  | nil => simp [Taken.decode?]
  | cons entry taken ih =>
    rw [List.forall_mem_cons, ← ih]
    constructor
    · intro known
      obtain ⟨captures, decoded⟩ := Option.isSome_iff_exists.mp known
      obtain ⟨value, rest, rfl, first, others⟩ := Taken.decode?_cons_iff.mp decoded
      rw [first, others]
      exact ⟨rfl, rfl⟩
    · rintro ⟨first, others⟩
      obtain ⟨value, first⟩ := Option.isSome_iff_exists.mp first
      obtain ⟨rest, others⟩ := Option.isSome_iff_exists.mp others
      rw [Taken.decode?_cons_iff.mpr ⟨value, rest, rfl, first, others⟩]
      rfl

/-- What is captured has the names that were given a text, in their order. -/
theorem Taken.names_of_decode? (decoded : Taken.decode? taken = some captures) :
    captures.map (·.1) = taken.map (·.1) := by
  induction taken generalizing captures with
  | nil =>
    obtain rfl : [] = captures := Option.some.inj decoded
    rfl
  | cons entry taken ih =>
    obtain ⟨name, kind, text⟩ := entry
    obtain ⟨value, rest, rfl, first, others⟩ := Taken.decode?_cons_iff.mp decoded
    obtain ⟨own, rfl, _⟩ := Taken.value?_eq_some_iff.mp first
    rw [List.map_cons, List.map_cons, ih others]

theorem Taken.mem_of_value? (decoded : Taken.decode? taken = some captures) {entry : String × CaptureClass × String}
    (member : entry ∈ taken) {value : String × String} (read : Taken.value? entry = some value) :
    value ∈ captures := by
  induction taken generalizing captures with
  | nil => cases member
  | cons other taken ih =>
    obtain ⟨own, rest, rfl, first, others⟩ := Taken.decode?_cons_iff.mp decoded
    rcases List.mem_cons.mp member with rfl | inside
    · rw [first, Option.some.injEq] at read
      rw [read]
      exact List.mem_cons_self
    · exact List.mem_cons_of_mem _ (ih others inside)

end Taken

variable {α : Type} {handlers : Endpoint → α} {base : List Segment} {versions : List String}

theorem MediaRoute.registration_below (route : MediaRoute) (base : List Segment) (version : String) :
    route.registration handlers (Segment.writeAll base) version =
      ⟨route.method, (route.patternBelow base version).source, handlers route.endpoint⟩ := by
  rw [registration, patternBelow, Segment.writeAll_append, Segment.writeAll_literal_cons, ← String.append_assoc,
    ← String.append_assoc]

section Below

variable (literalVersions : ∀ version ∈ versions, (Segment.literal version).Wellformed)
  (proper : Segment.Proper [] base) (isBase : Segment.IsBase base)

include literalVersions proper isBase

/-- The patterns of the interface are those of its routes below the parts that its path is made of. -/
theorem registered_below_iff {pattern : RoutePattern} :
    pattern.Registered (mediaRegistrations handlers (Segment.writeAll base) versions) ↔
      ∃ version ∈ versions, ∃ route ∈ MediaRoute.all, pattern = route.patternBelow base version := by
  constructor
  · rintro ⟨entry, registered, parsed⟩
    obtain ⟨version, known, route, member, rfl⟩ := mem_mediaRegistrations_iff.mp registered
    have literal := literalVersions version known
    obtain ⟨also, written, rfl, fits⟩ := (MediaRoute.parse_registration_iff literal member).mp parsed
    have properAlso := ((Segment.proper_below_iff literal member).mp fits).1
    obtain rfl := Segment.writeAll_inj properAlso.wellformed proper.wellformed written
    exact ⟨version, known, route, member, rfl⟩
  · rintro ⟨version, known, route, member, rfl⟩
    have literal := literalVersions version known
    obtain ⟨fits, _⟩ := (Segment.isBase_iff literal).mpr ⟨proper, isBase⟩ route member
    exact ⟨_, mem_mediaRegistrations_iff.mpr ⟨version, known, route, member, rfl⟩,
      (MediaRoute.parse_registration_iff literal member).mpr ⟨base, rfl, rfl, fits⟩⟩

omit literalVersions proper in
/-- No path is that of two routes, or of two versions: all parts of the base take one part of it. -/
theorem MediaRoute.eq_of_takes_below {route other : MediaRoute} (member : route ∈ all) (otherMember : other ∈ all)
    {version also path : String} {taken alsoTaken : Taken}
    (takes : (route.patternBelow base version).Takes path taken)
    (otherTakes : (other.patternBelow base also).Takes path alsoTaken) : version = also ∧ route = other := by
  obtain ⟨parts, split, takes⟩ := takes
  obtain ⟨otherParts, otherSplit, otherTakes⟩ := otherTakes
  obtain rfl : parts = otherParts := Option.some.inj (split.symm.trans otherSplit)
  obtain ⟨front, rest, _, _, rfl, length, _, takes⟩ := takes.split_base isBase.tailless
  obtain ⟨otherFront, otherRest, _, _, same, otherLength, _, otherTakes⟩ := otherTakes.split_base isBase.tailless
  obtain ⟨rfl, rfl⟩ := List.append_inj same (length.trans otherLength.symm)
  cases takes with
  | literal takes =>
    cases otherTakes with
    | literal otherTakes => exact ⟨rfl, MediaRoute.eq_of_takes otherMember member otherTakes takes⟩

/-- No two patterns of the interface take one path, so the one that does is the best. -/
theorem MediaRoute.best_below {version path : String} (known : version ∈ versions) {route : MediaRoute}
    (member : route ∈ all) {taken : Taken} (takes : (route.patternBelow base version).Takes path taken) :
    (route.patternBelow base version).Best (mediaRegistrations handlers (Segment.writeAll base) versions) path
      taken := by
  have registered := @registered_below_iff α handlers base versions literalVersions proper isBase
  refine ⟨registered.mpr ⟨version, known, route, member, rfl⟩, takes, ?_⟩
  rintro other ⟨otherRegistered, also, otherTakes⟩ different
  obtain ⟨version₂, _, route₂, member₂, rfl⟩ := registered.mp otherRegistered
  obtain ⟨rfl, rfl⟩ := MediaRoute.eq_of_takes_below isBase member member₂ takes otherTakes
  exact absurd rfl different

section Lookup

variable {table : RouteTable α} (accepted : mediaRoutes handlers (Segment.writeAll base) versions = .ok table)
  {version path : String} (known : version ∈ versions) {route : MediaRoute} (member : route ∈ MediaRoute.all)
  {taken : Taken} (takes : (route.patternBelow base version).Takes path taken)

include accepted known member takes

/-- The answer for a path that the pattern of a route takes. -/
theorem mediaRoutes_lookup_below (method : String) :
    Lookup.IsOf (mediaRegistrations handlers (Segment.writeAll base) versions) method
      (route.patternBelow base version) taken.decode? (table.lookup method path) := by
  rw [mediaRoutes_eq_ofRegistrations] at accepted
  obtain ⟨indexed, holds⟩ := RouteTable.ofRegistrations_sound accepted
  exact holds.lookup_of_best indexed
    (MediaRoute.best_below literalVersions proper isBase known member takes) method

theorem mediaRoutes_missing_below (none : taken.decode? = none) (method : String) :
    table.lookup method path = .notFound := by
  have answer := mediaRoutes_lookup_below literalVersions proper isBase accepted known member takes method
  rwa [none] at answer

/-- The paths of the media interface lead to its handlers. -/
theorem mediaRoutes_found_below {captures : Captures} (decoded : taken.decode? = some captures) :
    table.lookup route.method path = .found (handlers route.endpoint) captures := by
  have answer :=
    mediaRoutes_lookup_below literalVersions proper isBase accepted known member takes route.method
  rw [decoded, Lookup.IsOf, if_neg (MediaRoute.method_ne_options route member)] at answer
  exact answer.1 _ (mem_mediaRegistrations_iff.mpr
    ⟨version, known, route, member, route.registration_below base version⟩)

end Lookup

end Below

/-- Literal parts are a base like others. -/
theorem MediaRoute.pattern_eq_below (route : MediaRoute) (texts : List String) (version : String) :
    route.pattern (texts ++ [version]) = route.patternBelow (texts.map .literal) version := by
  simp [pattern, patternBelow]

/-- Of all versions and routes, only one takes a path. -/
theorem MediaRoute.eq_of_takes_pattern {route other : MediaRoute} (member : route ∈ all)
    (otherMember : other ∈ all) {texts : List String} {version also path : String} {taken alsoTaken : Taken}
    (takes : (route.pattern (texts ++ [version])).Takes path taken)
    (otherTakes : (other.pattern (texts ++ [also])).Takes path alsoTaken) : version = also ∧ route = other := by
  rw [pattern_eq_below] at takes otherTakes
  exact eq_of_takes_below (Segment.isBase_literals texts) member otherMember takes otherTakes

theorem mem_slashed_registrations_iff {texts : List String} {entry : Registration α} :
    entry ∈ mediaRegistrations handlers (slashed texts) versions ↔
      ∃ version ∈ versions, ∃ route ∈ MediaRoute.all,
        entry = ⟨route.method, (route.pattern (texts ++ [version])).source, handlers route.endpoint⟩ := by
  simp only [mem_mediaRegistrations_iff, MediaRoute.pattern_eq_below, slashed, MediaRoute.registration_below,
    eq_comm (a := entry)]

section Literal

variable {texts : List String} (literal : ∀ text ∈ texts, (Segment.literal text).Wellformed)
  (literalVersions : ∀ version ∈ versions, (Segment.literal version).Wellformed)

include literal

theorem Segment.proper_map_literal : Proper [] (texts.map Segment.literal) := by
  have proper := proper_literals literal (proper_nil [])
  rwa [List.append_nil] at proper

include literalVersions

theorem forall_literal {version : String} (known : version ∈ versions) :
    ∀ text ∈ texts ++ [version], (Segment.literal text).Wellformed := by
  rw [List.forall_mem_append, List.forall_mem_singleton]
  exact ⟨literal, literalVersions version known⟩

theorem registered_mediaRegistrations_iff {pattern : RoutePattern} :
    pattern.Registered (mediaRegistrations handlers (slashed texts) versions) ↔
      ∃ version ∈ versions, ∃ route ∈ MediaRoute.all, pattern = route.pattern (texts ++ [version]) := by
  simp only [MediaRoute.pattern_eq_below]
  exact registered_below_iff literalVersions (Segment.proper_map_literal literal) (Segment.isBase_literals texts)

variable {table : RouteTable α} (accepted : mediaRoutes handlers (slashed texts) versions = .ok table)
  {version : String} (known : version ∈ versions)

include accepted known

/-- The answer for a path that the pattern of a route takes. -/
theorem mediaRoutes_lookup {path : String} {route : MediaRoute} (member : route ∈ MediaRoute.all)
    {taken : Taken} (takes : (route.pattern (texts ++ [version])).Takes path taken) (method : String) :
    Lookup.IsOf (mediaRegistrations handlers (slashed texts) versions) method
      (route.pattern (texts ++ [version])) taken.decode? (table.lookup method path) := by
  rw [MediaRoute.pattern_eq_below] at takes ⊢
  exact mediaRoutes_lookup_below literalVersions (Segment.proper_map_literal literal)
    (Segment.isBase_literals texts) accepted known member takes method

theorem mediaRoutes_found {route : MediaRoute} (member : route ∈ MediaRoute.all) {parts : List String}
    {taken : Taken} (takes : Segment.Takes route.segments parts taken) (clean : ∀ part ∈ parts, '/' ∉ part.toList)
    {captures : Captures} (decoded : taken.decode? = some captures) :
    table.lookup route.method (slashed (texts ++ version :: parts)) =
      .found (handlers route.endpoint) captures := by
  have split : pathParts? (slashed (texts ++ version :: parts)) = some (texts ++ version :: parts) := by
    apply pathParts?_slashed (by simp)
    rw [List.forall_mem_append, List.forall_mem_cons]
    exact ⟨fun text within => (literal text within).noSlash, (literalVersions version known).noSlash, clean⟩
  have whole := MediaRoute.takes_pattern_iff.mpr ⟨parts, split, takes⟩
  rw [MediaRoute.pattern_eq_below] at whole
  exact mediaRoutes_found_below literalVersions (Segment.proper_map_literal literal)
    (Segment.isBase_literals texts) accepted known member whole decoded

end Literal

section Paths

variable {handlers : Endpoint → α} {texts versions : List String} {table : RouteTable α}
  (accepted : mediaRoutes handlers (slashed texts) versions = .ok table)
  (literal : ∀ text ∈ texts, (Segment.literal text).Wellformed)
  (literalVersions : ∀ version ∈ versions, (Segment.literal version).Wellformed)
  {version : String} (known : version ∈ versions)

include accepted literal literalVersions known

theorem mediaRoutes_upload :
    table.lookup "POST" (slashed texts ++ "/" ++ version ++ "/upload") = .found (handlers .upload) [] := by
  have path : slashed (texts ++ [version, "upload"]) = slashed texts ++ "/" ++ version ++ "/upload" := by
    have parts : texts ++ [version, "upload"] = texts ++ [version] ++ ["upload"] := by simp
    have last : slashed ["upload"] = "/upload" := by decide +kernel
    rw [parts, slashed_append, slashed_append, slashed_singleton version, last]
    simp only [String.append_assoc]
  have clean : ∀ part ∈ ["upload"], '/' ∉ part.toList := by decide +kernel
  rw [← path]
  exact mediaRoutes_found literal literalVersions accepted known (List.mem_cons_self ..) (.literal .done) clean rfl

theorem mediaRoutes_download {server mediaId : String} (host : CaptureClass.authority.accepts server = true)
    (id : CaptureClass.mediaId.accepts mediaId = true) :
    table.lookup "GET" (slashed texts ++ "/" ++ version ++ "/download/" ++ server ++ "/" ++ mediaId) =
      .found (handlers .download) [("server", server), ("media_id", mediaId)] := by
  have path : slashed (texts ++ [version, "download", server, mediaId]) =
      slashed texts ++ "/" ++ version ++ "/download/" ++ server ++ "/" ++ mediaId := by
    have parts : texts ++ [version, "download", server, mediaId] =
        texts ++ [version] ++ ["download"] ++ [server] ++ [mediaId] := by simp
    have middle : slashed ["download"] ++ "/" = "/download/" := by decide +kernel
    rw [parts, slashed_append, slashed_append, slashed_append, slashed_append, slashed_singleton version,
      slashed_singleton server, slashed_singleton mediaId, ← middle]
    simp only [String.append_assoc]
  have clean : ∀ part ∈ ["download", server, mediaId], '/' ∉ part.toList := by
    rw [List.forall_mem_cons, List.forall_mem_cons, List.forall_mem_singleton]
    exact ⟨by decide +kernel, CaptureClass.not_mem_of_accepts host rfl, CaptureClass.not_mem_of_accepts id rfl⟩
  have takes : Segment.Takes
      [.literal "download", .capture "server" .authority, .capture "media_id" .mediaId]
      ["download", server, mediaId] [("server", .authority, server), ("media_id", .mediaId, mediaId)] := by
    refine .literal (.one (by decide) (by simp) (.one (by decide) ?_ .done))
    exact fun nothing => CaptureClass.ne_empty_of_accepts (by decide) id nothing.1
  have decoded : Taken.decode? [("server", .authority, server), ("media_id", .mediaId, mediaId)] =
      some [("server", server), ("media_id", mediaId)] := by
    simp [Taken.decode?, Taken.value?_of_accepts host rfl, Taken.value?_of_accepts id rfl]
  rw [← path]
  exact mediaRoutes_found literal literalVersions accepted known
    (List.mem_cons_of_mem _ (List.mem_cons_self ..)) takes clean decoded

end Paths

end MediaServer
