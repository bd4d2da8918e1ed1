import MediaServer.Proofs.Route.Captures

namespace MediaServer

/-- A part of a path that is a percent-encoding of a value of the class. -/
structure CaptureClass.Encodes (kind : CaptureClass) (part value : String) : Prop where
  accepted : kind.accepts value = true
  written : Percent.Writes (Utf8.encode part) (Utf8.encode value)

/-- What is asked for below a version with encoded values, the endpoint that it is asked of, and the values. -/
inductive Endpoint.Encoded : String → Endpoint → Captures → Prop
  | download {host item server mediaId : String} :
      CaptureClass.authority.Encodes host server → CaptureClass.mediaId.Encodes item mediaId →
        Encoded ("/download/" ++ host ++ "/" ++ item) .download [("server", server), ("media_id", mediaId)]
  | downloadAs {host item file server mediaId filename : String} :
      CaptureClass.authority.Encodes host server → CaptureClass.mediaId.Encodes item mediaId →
        CaptureClass.filename.Encodes file filename →
          Encoded ("/download/" ++ host ++ "/" ++ item ++ "/" ++ file) .download
            [("server", server), ("media_id", mediaId), ("filename", filename)]
  | thumbnail {host item server mediaId : String} :
      CaptureClass.authority.Encodes host server → CaptureClass.mediaId.Encodes item mediaId →
        Encoded ("/thumbnail/" ++ host ++ "/" ++ item) .thumbnail [("server", server), ("media_id", mediaId)]
  | identicon {rest seed : String} :
      Percent.Writes (Utf8.encode rest) (Utf8.encode seed) →
        Encoded ("/identicon/" ++ rest) .identicon [("seed", seed)]

/-- A slash is no escape, so a part that encodes a value without slashes has none. -/
theorem CaptureClass.Encodes.reads {kind : CaptureClass} {part value : String} (encodes : kind.Encodes part value)
    (single : kind ≠ .tail) : kind.Reads part value := by
  refine ⟨?_, Percent.decodeText?_of_writes encodes.written, encodes.accepted⟩
  intro slash
  have refused : kind.admits '/' = false := by
    cases kind with
    | tail => exact absurd rfl single
    | _ => decide
  have member := (Utf8.mem_encode_iff (c := '/') (by decide)).mpr slash
  rcases encodes.written.mem member with meant | percent | digit
  · exact not_mem_of_accepts encodes.accepted refused ((Utf8.mem_encode_iff (by decide)).mp meant)
  · exact absurd percent (by decide)
  · exact absurd digit (by decide)

theorem Endpoint.Encoded.below {ending : String} {endpoint : Endpoint} {captures : Captures}
    (encoded : Encoded ending endpoint captures) : endpoint.Below ending captures ∧ endpoint.method = "GET" := by
  cases encoded with
  | download host item => exact ⟨.download (host.reads (by decide)) (item.reads (by decide)), rfl⟩
  | downloadAs host item file =>
    exact ⟨.downloadAs (host.reads (by decide)) (item.reads (by decide)) (file.reads (by decide)), rfl⟩
  | thumbnail host item => exact ⟨.thumbnail (host.reads (by decide)) (item.reads (by decide)), rfl⟩
  | identicon written => exact ⟨.identicon (Percent.decodeText?_of_writes written), rfl⟩

section Yields

variable {base segments : List Segment} {front parts : List String} {opened captures : Captures}

theorem Taken.decode?_append {own below : Taken} (ownDecoded : own.decode? = some opened)
    (decoded : below.decode? = some captures) : (own ++ below).decode? = some (opened ++ captures) := by
  rw [decode?] at ownDecoded decoded ⊢
  rw [List.mapM_append, ownDecoded, decoded]
  rfl

theorem Segment.Takes.append {own below : Taken} (tailless : ∀ segment ∈ base, segment.isTail = false)
    (takes : Takes base front own) (follows : Takes segments parts below) :
    Takes (base ++ segments) (front ++ parts) (own ++ below) := by
  induction takes with
  | done => exact follows
  | literal _ ih => exact .literal (ih (List.forall_mem_cons.mp tailless).2)
  | one single filled _ ih =>
    refine .one single ?_ (ih (List.forall_mem_cons.mp tailless).2)
    exact fun nothing => filled ⟨nothing.1, (List.append_eq_nil_iff.mp nothing.2).1⟩
  | tail => exact absurd (tailless _ List.mem_cons_self) (by simp [isTail])

/-- What parts without a tail yield stands before what those behind them yield. -/
theorem Segment.Yields.append (tailless : ∀ segment ∈ base, segment.isTail = false)
    (yields : Yields base front opened) (follows : Yields segments parts captures) :
    Yields (base ++ segments) (front ++ parts) (opened ++ captures) := by
  obtain ⟨whole, own, takes, ownDecoded⟩ := yields
  obtain ⟨wholeBelow, below, takesBelow, decoded⟩ := follows
  exact ⟨List.forall_mem_append.mpr ⟨whole, wholeBelow⟩, own ++ below, takes.append tailless takesBelow,
    Taken.decode?_append ownDecoded decoded⟩

end Yields

theorem MediaRoute.patternBelow_eq_behind (route : MediaRoute) (base : List Segment) (version : String) :
    route.patternBelow base version = route.patternBehind (base ++ [.literal version]) := by
  simp [patternBelow, patternBehind]

variable {α : Type} {handlers : Endpoint → α} {path : String} {versions : List String} {table : RouteTable α}
  {version : String}

/-- What the parts in front and a route yield from a path, the route's pattern takes from it. -/
theorem MediaRoute.takes_behind {route : MediaRoute} (member : route ∈ all) {base : List Segment}
    (tailless : ∀ segment ∈ base, segment.isTail = false) {front parts : List String} {opened captures : Captures}
    (yields : Segment.Yields base front opened) (below : Segment.Yields route.segments parts captures) :
    ∃ taken, (route.patternBehind base).Takes (slashed front ++ slashed parts) taken ∧
      taken.decode? = some (opened ++ captures) := by
  obtain ⟨whole, taken, takes, decoded⟩ := yields.append tailless below
  have filled : front ++ parts ≠ [] := by
    intro nothing
    rw [nothing] at takes
    generalize all : base ++ route.segments = segments at takes
    cases takes
    exact segments_ne_nil route member (List.append_eq_nil_iff.mp all).2
  rw [← slashed_append]
  exact ⟨taken, ⟨_, pathParts?_slashed filled whole, takes⟩, decoded⟩

section Behind

variable {base : List Segment}
  (parsed : RoutePattern.parse (path ++ "/" ++ version) = .ok ⟨path ++ "/" ++ version, base⟩)
  (accepted : mediaRoutes handlers path versions = .ok table) (known : version ∈ versions)
  {route : MediaRoute} (member : route ∈ MediaRoute.all) {asked : String} {taken : Taken}

include accepted known member

include parsed in
/-- Behind literal versions a pattern that takes a path is the only one. -/
theorem mediaRoutes_best_behind (literal : ∀ other ∈ versions, (Segment.literal other).Wellformed)
    (takes : (route.patternBehind base).Takes asked taken) :
    (route.patternBehind base).Best (mediaRegistrations handlers path versions) asked taken := by
  obtain ⟨start, rfl, proper, isBase⟩ := mediaRoutes_path_isBase literal accepted (List.ne_nil_of_mem known)
  obtain ⟨-, written, -, baseProper⟩ := RoutePattern.parse_eq_ok_iff.mp parsed
  have versioned : ∀ segment ∈ start ++ [.literal version], segment.Wellformed := by
    rw [List.forall_mem_append, List.forall_mem_singleton]
    exact ⟨proper.wellformed, literal version known⟩
  have split : base = start ++ [.literal version] := by
    apply Segment.writeAll_inj baseProper.wellformed versioned
    have nothing : Segment.writeAll [] = "" := rfl
    rw [written, Segment.writeAll_append, Segment.writeAll_literal_cons, nothing, String.append_empty,
      String.append_assoc]
  subst split
  rw [← MediaRoute.patternBelow_eq_behind] at takes ⊢
  exact MediaRoute.best_below literal proper isBase known member takes

/-- The route whose pattern is the best leads to its handler, if what it takes has values. -/
theorem mediaRoutes_found_of_best {captures : Captures}
    (source : (route.registration handlers path version).pattern = (route.patternBehind base).source)
    (best : (route.patternBehind base).Best (mediaRegistrations handlers path versions) asked taken)
    (decoded : taken.decode? = some captures) :
    table.lookup route.method asked = .found (handlers route.endpoint) captures := by
  rw [mediaRoutes_eq_ofRegistrations] at accepted
  obtain ⟨indexed, holds⟩ := RouteTable.ofRegistrations_sound accepted
  have answer := holds.lookup_of_best indexed best route.method
  rw [decoded, Lookup.IsOf, if_neg (MediaRoute.method_ne_options route member), ← source] at answer
  exact answer.1 _ (mem_mediaRegistrations_iff.mpr ⟨version, known, route, member, rfl⟩)

end Behind

/-- A percent-encoding of values below a version leads to the handler with these values, behind what the path and
the version themselves capture, unless a registered pattern that comes first takes the path as well. Where the
versions are literal parts no other pattern takes it. -/
theorem mediaRoutes_found_encoded (accepted : mediaRoutes handlers path versions = .ok table)
    (known : version ∈ versions) :
    ∃ base, RoutePattern.parse (path ++ "/" ++ version) = .ok ⟨path ++ "/" ++ version, base⟩ ∧
      ∀ front opened ending endpoint captures, Segment.Yields base front opened →
        Endpoint.Encoded ending endpoint captures →
          ∃ route ∈ MediaRoute.all, route.endpoint = endpoint ∧
            (route.patternBehind base).Matches (mediaRegistrations handlers path versions)
              (slashed front ++ ending) ∧
            ((∀ other ∈ versions, (Segment.literal other).Wellformed) ∨
                (∀ other : RoutePattern,
                  other.Matches (mediaRegistrations handlers path versions) (slashed front ++ ending) →
                    ¬ other.Before (route.patternBehind base)) →
              table.lookup "GET" (slashed front ++ ending) = .found (handlers endpoint) (opened ++ captures)) := by
  obtain ⟨base, parsed, tailless, behind⟩ := mediaRoutes_version_base accepted known
  refine ⟨base, parsed, ?_⟩
  intro front opened ending endpoint captures yields encoded
  obtain ⟨below, get⟩ := encoded.below
  obtain ⟨route, member, rfl, parts, rfl, yieldsBelow⟩ := below.route
  obtain ⟨taken, takes, decoded⟩ := MediaRoute.takes_behind member tailless yields yieldsBelow
  have registered : (route.patternBehind base).Registered (mediaRegistrations handlers path versions) :=
    ⟨_, mem_mediaRegistrations_iff.mpr ⟨version, known, route, member, rfl⟩, behind route member⟩
  refine ⟨route, member, rfl, ⟨registered, taken, takes⟩, fun free => ?_⟩
  have best : (route.patternBehind base).Best (mediaRegistrations handlers path versions)
      (slashed front ++ slashed parts) taken := by
    rcases free with literal | first
    · exact mediaRoutes_best_behind parsed accepted known member literal takes
    · rw [mediaRoutes_eq_ofRegistrations] at accepted
      obtain ⟨indexed, holds⟩ := RouteTable.ofRegistrations_sound accepted
      exact holds.best_of_first indexed registered takes first
  have source := (RoutePattern.parse_eq_ok_iff.mp (behind route member)).1
  rw [← get, MediaRoute.endpoint_method route member]
  exact mediaRoutes_found_of_best accepted known member source.symm best decoded

theorem tenantRoutes_found : ∃ table : RouteTable Endpoint,
    mediaRoutes id "/\x7btenant:filename\x7d" ["r0", "v1"] = .ok table ∧ "v1" ∈ ["r0", "v1"] ∧
      table.lookup "GET" "/acme/v1/download/example.org/abc/a%2dB" =
        .found .download [("tenant", "acme"), ("server", "example.org"), ("media_id", "abc"), ("filename", "a-B")] := by
  have literal : ∀ other ∈ ["r0", "v1"], (Segment.literal other).Wellformed := by
    simp [Segment.Wellformed, isBrace]
  obtain ⟨table, accepted⟩ : ∃ table : RouteTable Endpoint,
      mediaRoutes id "/\x7btenant:filename\x7d" ["r0", "v1"] = .ok table := by
    have proper : Segment.Proper [] [.capture "tenant" .filename] := by
      refine ⟨?_, by simp, by decide, by decide⟩
      simp [Segment.Wellformed, isCaptureName, isAlphanumeric]
    have isBase : Segment.IsBase [.capture "tenant" .filename] := ⟨by decide, by decide, by decide⟩
    obtain ⟨table, accepted, -⟩ := mediaRoutes_accepted_below literal id proper isBase (by decide)
    exact ⟨table, accepted⟩
  have known : "v1" ∈ ["r0", "v1"] := by decide
  refine ⟨table, accepted, known, ?_⟩
  obtain ⟨base, parsed, answers⟩ := mediaRoutes_found_encoded accepted known
  have read : RoutePattern.parse ("/\x7btenant:filename\x7d" ++ "/" ++ "v1") =
      .ok ⟨"/\x7btenant:filename\x7d" ++ "/" ++ "v1", [.capture "tenant" .filename, .literal "v1"]⟩ := by
    decide
  obtain rfl : [.capture "tenant" .filename, .literal "v1"] = base := by
    rw [read, Except.ok.injEq] at parsed
    exact congrArg RoutePattern.segments parsed
  have yields : Segment.Yields [.capture "tenant" .filename, .literal "v1"] ["acme", "v1"] [("tenant", "acme")] := by
    refine (Segment.yields_one_iff (by decide)).mpr ⟨"acme", "acme", ["v1"], [], rfl, rfl, ?_, ?_⟩
    · exact ⟨by decide, by decide, by decide⟩
    · exact (Segment.yields_literal_iff (by decide)).mpr ⟨[], rfl, Segment.yields_nil_iff.mpr ⟨rfl, rfl⟩⟩
  have plain (kind : CaptureClass) (value : String) (accepted : kind.accepts value = true)
      (unescaped : 0x25 ∉ Utf8.encode value) : kind.Encodes value value :=
    ⟨accepted, Percent.writes_self unescaped⟩
  have host := plain .authority "example.org" (by decide) (by decide)
  have item := plain .mediaId "abc" (by decide) (by decide)
  have file : CaptureClass.filename.Encodes "a%2dB" "a-B" := by
    refine ⟨by decide, ?_⟩
    have hyphen : Percent.Writes [0x25, 0x32, 0x64, 0x42] [0x2D, 0x42] :=
      .escaped (x := 2) (y := 13) (by decide) (by decide) (Percent.writes_self (by decide))
    exact .plain (by decide) hyphen
  obtain ⟨_, _, _, _, found⟩ := answers _ _ _ _ _ yields (.downloadAs host item file)
  exact found (Or.inl literal)

/-- A seed that goes on like a version does is taken for it, unless its slashes are escaped. -/
theorem nestedVersion_hides_seed : ∃ table : RouteTable Endpoint,
    mediaRoutes id "/m" ["x", "x/identicon"] = .ok table ∧
      Endpoint.Encoded "/identicon/download/s/m" .identicon [("seed", "download/s/m")] ∧
      table.lookup "GET" "/m/x/identicon/download/s/m" = .found .download [("server", "s"), ("media_id", "m")] ∧
      Endpoint.Encoded "/identicon/download%2fs%2Fm" .identicon [("seed", "download/s/m")] ∧
      table.lookup "GET" "/m/x/identicon/download%2fs%2Fm" = .found .identicon [("seed", "download/s/m")] := by
  have looked : (mediaRoutes id "/m" ["x", "x/identicon"]).toOption.map (fun table =>
      (table.lookup "GET" "/m/x/identicon/download/s/m", table.lookup "GET" "/m/x/identicon/download%2fs%2Fm")) =
        some (.found .download [("server", "s"), ("media_id", "m")],
          .found .identicon [("seed", "download/s/m")]) := by
    decide +kernel
  obtain ⟨table, made, answers⟩ := Option.map_eq_some_iff.mp looked
  obtain ⟨plain, escaped⟩ := Prod.mk.inj answers
  have slash (low : UInt8) (digit : hexDigit? low = some 15) : Percent.Writes [0x25, 0x32, low] [0x2F] :=
    .escaped (x := 2) (by decide) digit .nil
  have text (written : String) (unescaped : 0x25 ∉ Utf8.encode written) := Percent.writes_self unescaped
  have first := (text "download" (by decide)).append (slash 0x66 (by decide))
  have second := (text "s" (by decide)).append (slash 0x46 (by decide))
  have whole := (first.append second).append (text "m" (by decide))
  have spelled : Utf8.encode "download%2fs%2Fm" = Utf8.encode "download" ++ [0x25, 0x32, 0x66] ++
      (Utf8.encode "s" ++ [0x25, 0x32, 0x46]) ++ Utf8.encode "m" := by decide
  have meant : Utf8.encode "download/s/m" = Utf8.encode "download" ++ [0x2F] ++ (Utf8.encode "s" ++ [0x2F]) ++
      Utf8.encode "m" := by decide
  rw [← spelled, ← meant] at whole
  refine ⟨table, eq_ok_of_toOption made, ?_, plain, .identicon whole, escaped⟩
  exact .identicon (text "download/s/m" (by decide))

end MediaServer
