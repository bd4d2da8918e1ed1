import MediaServer.Proofs.Route.Below

namespace MediaServer

def Endpoint.method : Endpoint → String
  | .upload => "POST"
  | _ => "GET"

theorem MediaRoute.endpoint_method : ∀ route ∈ all, route.endpoint.method = route.method := by
  decide

/-- One part of a path that stands for a value: percent-decoded it is this value, which is of the class. -/
structure CaptureClass.Reads (kind : CaptureClass) (part value : String) : Prop where
  whole : '/' ∉ part.toList
  decoded : Percent.decodeText? part = some value
  accepted : kind.accepts value = true

/-- What may stand below a version, the endpoint it asks for, and the values that are captured. -/
inductive Endpoint.Below : String → Endpoint → Captures → Prop
  | upload : Below "/upload" .upload []
  | download {host item server mediaId : String} :
      CaptureClass.authority.Reads host server → CaptureClass.mediaId.Reads item mediaId →
        Below ("/download/" ++ host ++ "/" ++ item) .download [("server", server), ("media_id", mediaId)]
  | downloadAs {host item file server mediaId filename : String} :
      CaptureClass.authority.Reads host server → CaptureClass.mediaId.Reads item mediaId →
        CaptureClass.filename.Reads file filename →
          Below ("/download/" ++ host ++ "/" ++ item ++ "/" ++ file) .download
            [("server", server), ("media_id", mediaId), ("filename", filename)]
  | thumbnail {host item server mediaId : String} :
      CaptureClass.authority.Reads host server → CaptureClass.mediaId.Reads item mediaId →
        Below ("/thumbnail/" ++ host ++ "/" ++ item) .thumbnail [("server", server), ("media_id", mediaId)]
  | previewUrl : Below "/preview_url" .previewUrl []
  | identicon {rest seed : String} :
      Percent.decodeText? rest = some seed → Below ("/identicon/" ++ rest) .identicon [("seed", seed)]

/-- A path of the media interface: below one of the versions, it asks for an endpoint. -/
def MediaPath (apiPrefix : String) (versions : List String) (path : String) (endpoint : Endpoint)
    (captures : Captures) : Prop :=
  ∃ version ∈ versions, ∃ ending, path = apiPrefix ++ "/" ++ version ++ ending ∧ endpoint.Below ending captures

theorem slashed_nil : slashed [] = "" :=
  rfl

theorem slashed_cons (text : String) (texts : List String) :
    slashed (text :: texts) = "/" ++ text ++ slashed texts := by
  rw [← slashed_singleton, ← slashed_append, List.singleton_append]

theorem toList_pieces (chars : List Char) :
    ((pieces '/' chars).map String.ofList).map String.toList = pieces '/' chars := by
  simp [Function.comp_def]

theorem pieces_whole (chars : List Char) :
    ∀ part ∈ (pieces '/' chars).map String.ofList, '/' ∉ part.toList := by
  intro part member
  obtain ⟨piece, inside, rfl⟩ := List.mem_map.mp member
  rw [String.toList_ofList]
  exact pieces_clean '/' chars piece inside

theorem toList_slashed_pieces (chars : List Char) :
    (slashed ((pieces '/' chars).map String.ofList)).toList = '/' :: chars := by
  rw [toList_slashed (by simpa using pieces_ne_nil '/' chars), toList_pieces, intercalate_pieces]

/-- The parts of a path are the texts between its slashes. -/
theorem pathParts?_eq_some_iff {path : String} {parts : List String} :
    pathParts? path = some parts ↔
      parts ≠ [] ∧ (∀ part ∈ parts, '/' ∉ part.toList) ∧ path = slashed parts := by
  constructor
  · intro split
    unfold pathParts? at split
    split at split
    · rename_i rest slash
      cases split
      have written := toList_slashed_pieces rest
      rw [← slash, String.toList_inj] at written
      exact ⟨by simpa using pieces_ne_nil '/' rest, pieces_whole rest, written.symm⟩
    · cases split
  · rintro ⟨filled, clean, rfl⟩
    exact pathParts?_slashed filled clean

theorem CaptureClass.Reads.ne_empty {kind : CaptureClass} {part value : String} (reads : kind.Reads part value)
    (single : kind ≠ .tail) : part ≠ "" := by
  rintro rfl
  have decoded := reads.decoded
  rw [Percent.decodeText?_of_not_mem (by simp), Option.some.injEq] at decoded
  exact CaptureClass.ne_empty_of_accepts single reads.accepted decoded.symm

/-- These segments take the parts of a path, and what they capture decodes to these values. -/
def Segment.Yields (segments : List Segment) (parts : List String) (captures : Captures) : Prop :=
  (∀ part ∈ parts, '/' ∉ part.toList) ∧
    ∃ taken, Takes segments parts taken ∧ taken.decode? = some captures

section Yields

variable {segments : List Segment} {parts : List String} {captures : Captures}

theorem Segment.yields_nil_iff : Segment.Yields [] parts captures ↔ parts = [] ∧ captures = [] := by
  constructor
  · rintro ⟨_, taken, takes, decoded⟩
    cases takes
    exact ⟨rfl, (Option.some.inj decoded).symm⟩
  · rintro ⟨rfl, rfl⟩
    exact ⟨by simp, [], .done, rfl⟩

theorem Segment.yields_literal_iff {text : String} (clean : '/' ∉ text.toList) :
    Segment.Yields (.literal text :: segments) parts captures ↔
      ∃ others, parts = text :: others ∧ Segment.Yields segments others captures := by
  constructor
  · rintro ⟨whole, taken, takes, decoded⟩
    cases takes with
    | literal takes => exact ⟨_, rfl, (List.forall_mem_cons.mp whole).2, taken, takes, decoded⟩
  · rintro ⟨others, rfl, whole, taken, takes, decoded⟩
    exact ⟨List.forall_mem_cons.mpr ⟨clean, whole⟩, taken, .literal takes, decoded⟩

/-- That no part is empty at the end needs no mention: its class refuses the empty value. -/
theorem Segment.yields_one_iff {name : String} {kind : CaptureClass} (single : kind ≠ .tail) :
    Segment.Yields (.capture name kind :: segments) parts captures ↔
      ∃ part value others rest, parts = part :: others ∧ captures = (name, value) :: rest ∧
        kind.Reads part value ∧ Segment.Yields segments others rest := by
  constructor
  · rintro ⟨whole, taken, takes, decoded⟩
    cases takes with
    | one _ _ takes =>
      obtain ⟨entry, rest, rfl, first, others⟩ := Taken.decode?_cons_iff.mp decoded
      obtain ⟨value, rfl, decodes, accepted⟩ := Taken.value?_eq_some_iff.mp first
      have ⟨here, wholeRest⟩ := List.forall_mem_cons.mp whole
      exact ⟨_, value, _, rest, rfl, rfl, ⟨here, decodes, accepted⟩, wholeRest, _, takes, others⟩
    | tail => exact absurd rfl single
  · rintro ⟨part, value, others, rest, rfl, rfl, reads, whole, taken, takes, decoded⟩
    refine ⟨List.forall_mem_cons.mpr ⟨reads.whole, whole⟩, _,
      .one single (fun nothing => reads.ne_empty single nothing.1) takes, ?_⟩
    exact Taken.decode?_cons_iff.mpr ⟨_, rest, rfl,
      Taken.value?_eq_some_iff.mpr ⟨value, rfl, reads.decoded, reads.accepted⟩, decoded⟩

theorem Segment.yields_tail_iff {name : String} :
    Segment.Yields [.capture name .tail] parts captures ↔
      ∃ rest value, parts = (pieces '/' rest.toList).map String.ofList ∧ captures = [(name, value)] ∧
        Percent.decodeText? rest = some value := by
  constructor
  · rintro ⟨whole, taken, takes, decoded⟩
    cases takes with
    | one single => exact absurd rfl single
    | @tail _ part others =>
      obtain ⟨entry, rest, rfl, first, nothing⟩ := Taken.decode?_cons_iff.mp decoded
      obtain ⟨value, rfl, decodes, _⟩ := Taken.value?_eq_some_iff.mp first
      cases nothing
      refine ⟨_, value, ?_, rfl, decodes⟩
      have clean : ∀ piece ∈ (part :: others).map String.toList, '/' ∉ piece := by
        intro piece member
        obtain ⟨text, inside, rfl⟩ := List.mem_map.mp member
        exact whole text inside
      rw [String.toList_ofList, joinParts, pieces_intercalate clean (by simp)]
      simp [Function.comp_def]
  · rintro ⟨rest, value, rfl, rfl, decodes⟩
    have joined : String.ofList (joinParts ((pieces '/' rest.toList).map String.ofList)) = rest := by
      rw [joinParts, toList_pieces, intercalate_pieces, String.ofList_toList]
    have whole := pieces_whole rest.toList
    obtain ⟨part, others, filled⟩ := List.exists_cons_of_ne_nil (pieces_ne_nil '/' rest.toList)
    rw [filled, List.map_cons] at joined whole ⊢
    refine ⟨whole, _, .tail, ?_⟩
    rw [joined]
    exact Taken.decode?_cons_iff.mpr ⟨_, [], rfl,
      Taken.value?_eq_some_iff.mpr ⟨value, rfl, decodes, CaptureClass.tail_accepts value⟩, rfl⟩

/-- The three routes of an item begin alike. -/
theorem Segment.yields_item_iff {word : String} (clean : '/' ∉ word.toList) :
    Segment.Yields (.literal word :: .capture "server" .authority :: .capture "media_id" .mediaId :: segments)
        parts captures ↔
      ∃ host item server mediaId others rest, parts = word :: host :: item :: others ∧
        captures = ("server", server) :: ("media_id", mediaId) :: rest ∧
        CaptureClass.authority.Reads host server ∧ CaptureClass.mediaId.Reads item mediaId ∧
        Segment.Yields segments others rest := by
  rw [yields_literal_iff clean]
  constructor
  · rintro ⟨_, rfl, yields⟩
    obtain ⟨host, server, _, _, rfl, rfl, readsHost, yields⟩ := (yields_one_iff (by decide)).mp yields
    obtain ⟨item, mediaId, others, rest, rfl, rfl, readsItem, yields⟩ := (yields_one_iff (by decide)).mp yields
    exact ⟨host, item, server, mediaId, others, rest, rfl, rfl, readsHost, readsItem, yields⟩
  · rintro ⟨host, item, server, mediaId, others, rest, rfl, rfl, readsHost, readsItem, yields⟩
    refine ⟨_, rfl, (yields_one_iff (by decide)).mpr ⟨host, server, _, _, rfl, rfl, readsHost, ?_⟩⟩
    exact (yields_one_iff (by decide)).mpr ⟨item, mediaId, others, rest, rfl, rfl, readsItem, yields⟩

end Yields

theorem slashed_item (word host item : String) (others : List String) :
    slashed (word :: host :: item :: others) = "/" ++ word ++ "/" ++ host ++ "/" ++ item ++ slashed others := by
  simp only [slashed_cons, String.append_assoc]

theorem slashed_pieces (rest : String) :
    slashed ((pieces '/' rest.toList).map String.ofList) = "/" ++ rest := by
  rw [← String.toList_inj, toList_slashed_pieces, String.toList_append]
  rfl

/-- The words of the routes are single parts of a path. -/
theorem MediaRoute.words_whole :
    '/' ∉ "upload".toList ∧ '/' ∉ "download".toList ∧ '/' ∉ "thumbnail".toList ∧
      '/' ∉ "preview_url".toList ∧ '/' ∉ "identicon".toList := by
  decide +kernel

section Below

variable {ending : String} {endpoint : Endpoint} {captures : Captures}

/-- What stands below a version is taken by a route of the endpoint. -/
theorem Endpoint.Below.route (asks : endpoint.Below ending captures) :
    ∃ route ∈ MediaRoute.all, route.endpoint = endpoint ∧
      ∃ parts, ending = slashed parts ∧ Segment.Yields route.segments parts captures := by
  obtain ⟨upload, download, thumbnail, previewUrl, identicon⟩ := MediaRoute.words_whole
  have finished : Segment.Yields [] [] [] := Segment.yields_nil_iff.mpr ⟨rfl, rfl⟩
  cases asks with
  | upload =>
    refine ⟨MediaRoute.all[0], List.getElem_mem _, rfl, ["upload"], by decide +kernel, ?_⟩
    exact (Segment.yields_literal_iff upload).mpr ⟨[], rfl, finished⟩
  | @download host item server mediaId readsHost readsItem =>
    refine ⟨MediaRoute.all[1], List.getElem_mem _, rfl, ["download", host, item], ?_, ?_⟩
    · rw [slashed_item, slashed_nil, String.append_empty]
      rfl
    · exact (Segment.yields_item_iff download).mpr
        ⟨host, item, server, mediaId, [], [], rfl, rfl, readsHost, readsItem, finished⟩
  | @downloadAs host item file server mediaId filename readsHost readsItem readsFile =>
    refine ⟨MediaRoute.all[2], List.getElem_mem _, rfl, ["download", host, item, file], ?_, ?_⟩
    · rw [slashed_item, slashed_singleton, ← String.append_assoc]
      rfl
    · have named : Segment.Yields [.capture "filename" .filename] [file] [("filename", filename)] :=
        (Segment.yields_one_iff (by decide)).mpr ⟨file, filename, [], [], rfl, rfl, readsFile, finished⟩
      exact (Segment.yields_item_iff download).mpr
        ⟨host, item, server, mediaId, [file], _, rfl, rfl, readsHost, readsItem, named⟩
  | @thumbnail host item server mediaId readsHost readsItem =>
    refine ⟨MediaRoute.all[3], List.getElem_mem _, rfl, ["thumbnail", host, item], ?_, ?_⟩
    · rw [slashed_item, slashed_nil, String.append_empty]
      rfl
    · exact (Segment.yields_item_iff thumbnail).mpr
        ⟨host, item, server, mediaId, [], [], rfl, rfl, readsHost, readsItem, finished⟩
  | previewUrl =>
    refine ⟨MediaRoute.all[4], List.getElem_mem _, rfl, ["preview_url"], by decide +kernel, ?_⟩
    exact (Segment.yields_literal_iff previewUrl).mpr ⟨[], rfl, finished⟩
  | @identicon rest seed decodes =>
    refine ⟨MediaRoute.all[5], List.getElem_mem _, rfl,
      "identicon" :: (pieces '/' rest.toList).map String.ofList, ?_, ?_⟩
    · rw [slashed_cons, slashed_pieces, ← String.append_assoc]
      rfl
    · exact (Segment.yields_literal_iff identicon).mpr
        ⟨_, rfl, Segment.yields_tail_iff.mpr ⟨rest, seed, rfl, rfl, decodes⟩⟩

/-- What a route takes stands below a version and asks for the route's endpoint. -/
theorem MediaRoute.below {route : MediaRoute} (member : route ∈ MediaRoute.all) {parts : List String}
    (yields : Segment.Yields route.segments parts captures) :
    route.endpoint.Below (slashed parts) captures := by
  obtain ⟨upload, download, thumbnail, previewUrl, identicon⟩ := MediaRoute.words_whole
  simp only [MediaRoute.all, List.mem_cons, List.not_mem_nil, or_false] at member
  rcases member with rfl | rfl | rfl | rfl | rfl | rfl
  · obtain ⟨_, rfl, done⟩ := (Segment.yields_literal_iff upload).mp yields
    obtain ⟨rfl, rfl⟩ := Segment.yields_nil_iff.mp done
    exact .upload
  · obtain ⟨host, item, server, mediaId, _, _, rfl, rfl, readsHost, readsItem, yields⟩ :=
      (Segment.yields_item_iff download).mp yields
    obtain ⟨rfl, rfl⟩ := Segment.yields_nil_iff.mp yields
    rw [slashed_item, slashed_nil, String.append_empty]
    exact .download readsHost readsItem
  · obtain ⟨host, item, server, mediaId, _, _, rfl, rfl, readsHost, readsItem, yields⟩ :=
      (Segment.yields_item_iff download).mp yields
    obtain ⟨file, filename, _, _, rfl, rfl, readsFile, yields⟩ :=
      (Segment.yields_one_iff (by decide)).mp yields
    obtain ⟨rfl, rfl⟩ := Segment.yields_nil_iff.mp yields
    rw [slashed_item, slashed_singleton, ← String.append_assoc]
    exact .downloadAs readsHost readsItem readsFile
  · obtain ⟨host, item, server, mediaId, _, _, rfl, rfl, readsHost, readsItem, yields⟩ :=
      (Segment.yields_item_iff thumbnail).mp yields
    obtain ⟨rfl, rfl⟩ := Segment.yields_nil_iff.mp yields
    rw [slashed_item, slashed_nil, String.append_empty]
    exact .thumbnail readsHost readsItem
  · obtain ⟨_, rfl, done⟩ := (Segment.yields_literal_iff previewUrl).mp yields
    obtain ⟨rfl, rfl⟩ := Segment.yields_nil_iff.mp done
    exact .previewUrl
  · obtain ⟨_, rfl, tail⟩ := (Segment.yields_literal_iff identicon).mp yields
    obtain ⟨rest, seed, rfl, rfl, decodes⟩ := Segment.yields_tail_iff.mp tail
    rw [slashed_cons, slashed_pieces, ← String.append_assoc]
    exact .identicon decodes

end Below

theorem slashed_version (texts : List String) (version : String) (parts : List String) :
    slashed (texts ++ version :: parts) = slashed texts ++ "/" ++ version ++ slashed parts := by
  rw [slashed_append, slashed_cons]
  simp only [String.append_assoc]

section Interface

variable {texts versions : List String}
  (literal : ∀ text ∈ texts, (Segment.literal text).Wellformed)
  (literalVersions : ∀ version ∈ versions, (Segment.literal version).Wellformed)

include literal literalVersions

/-- The paths of the media interface are those that a route takes with captures that have values. -/
theorem mediaPath_iff {path : String} {endpoint : Endpoint} {captures : Captures} :
    MediaPath (slashed texts) versions path endpoint captures ↔
      ∃ version ∈ versions, ∃ route ∈ MediaRoute.all, route.endpoint = endpoint ∧
        ∃ taken, (route.pattern (texts ++ [version])).Takes path taken ∧ taken.decode? = some captures := by
  constructor
  · rintro ⟨version, known, ending, rfl, asks⟩
    obtain ⟨route, member, same, parts, rfl, whole, taken, takes, decoded⟩ := asks.route
    refine ⟨version, known, route, member, same, taken, ?_, decoded⟩
    refine MediaRoute.takes_pattern_iff.mpr ⟨parts, ?_, takes⟩
    rw [← slashed_version]
    apply pathParts?_slashed (by simp)
    rw [List.forall_mem_append, List.forall_mem_cons]
    exact ⟨fun text within => (literal text within).noSlash, (literalVersions version known).noSlash, whole⟩
  · rintro ⟨version, known, route, member, rfl, taken, takes, decoded⟩
    obtain ⟨parts, split, below⟩ := MediaRoute.takes_pattern_iff.mp takes
    obtain ⟨_, whole, rfl⟩ := pathParts?_eq_some_iff.mp split
    rw [List.forall_mem_append, List.forall_mem_cons] at whole
    exact ⟨version, known, slashed parts, slashed_version texts version parts,
      MediaRoute.below member ⟨whole.2.2, taken, below, decoded⟩⟩

/-- No path asks for two endpoints. -/
theorem MediaPath.unique {path : String} {endpoint other : Endpoint} {captures also : Captures}
    (asks : MediaPath (slashed texts) versions path endpoint captures)
    (asksToo : MediaPath (slashed texts) versions path other also) : endpoint = other ∧ captures = also := by
  obtain ⟨version, _, route, member, rfl, taken, takes, decoded⟩ :=
    (mediaPath_iff literal literalVersions).mp asks
  obtain ⟨_, _, _, otherMember, rfl, alsoTaken, otherTakes, alsoDecoded⟩ :=
    (mediaPath_iff literal literalVersions).mp asksToo
  obtain ⟨rfl, rfl⟩ := MediaRoute.eq_of_takes_pattern member otherMember takes otherTakes
  obtain rfl := takes.unique otherTakes
  rw [decoded, Option.some.injEq] at alsoDecoded
  exact ⟨rfl, alsoDecoded⟩

variable {α : Type} {handlers : Endpoint → α}

/-- What is registered for the pattern of a route is the route alone. -/
theorem MediaRoute.mem_registrations_iff {version : String} (known : version ∈ versions) {route : MediaRoute}
    (member : route ∈ MediaRoute.all) {method : String} {handler : α} :
    ⟨method, (route.pattern (texts ++ [version])).source, handler⟩ ∈
        mediaRegistrations handlers (slashed texts) versions ↔
      method = route.method ∧ handler = handlers route.endpoint := by
  constructor
  · intro registered
    obtain ⟨version₂, known₂, route₂, member₂, same⟩ := mem_slashed_registrations_iff.mp registered
    obtain ⟨rfl, source, rfl⟩ := Registration.mk.inj same
    have parsed := MediaRoute.parse_pattern member (forall_literal literal literalVersions known)
    rw [source, MediaRoute.parse_pattern member₂ (forall_literal literal literalVersions known₂),
      Except.ok.injEq] at parsed
    have segments := congrArg RoutePattern.segments parsed
    simp only [MediaRoute.pattern, List.map_append, List.append_assoc] at segments
    obtain ⟨_, rest⟩ := List.cons.inj (List.append_cancel_left segments)
    have distinct : ∀ route ∈ MediaRoute.all, ∀ other ∈ MediaRoute.all,
        other.segments = route.segments → other = route := by decide +kernel
    obtain rfl := distinct route member route₂ member₂ rest
    exact ⟨rfl, rfl⟩
  · rintro ⟨rfl, rfl⟩
    exact mem_slashed_registrations_iff.mpr ⟨version, known, route, member, rfl⟩

variable {table : RouteTable α} (accepted : mediaRoutes handlers (slashed texts) versions = .ok table)

include accepted

/-- A path of the interface has one method, besides the one that asks what is allowed. -/
theorem mediaRoutes_lookup_of_path {path : String} {endpoint : Endpoint} {captures : Captures}
    (asks : MediaPath (slashed texts) versions path endpoint captures) (method : String) :
    table.lookup method path =
      if method = "OPTIONS" then .preflight
      else if method = endpoint.method then .found (handlers endpoint) captures
      else .methodNotAllowed := by
  obtain ⟨version, known, route, member, rfl, taken, takes, decoded⟩ :=
    (mediaPath_iff literal literalVersions).mp asks
  have answer := mediaRoutes_lookup literal literalVersions accepted known member takes method
  rw [MediaRoute.endpoint_method route member]
  rw [decoded, Lookup.IsOf] at answer
  by_cases options : method = "OPTIONS"
  · rw [if_pos options] at answer ⊢
    exact answer
  · rw [if_neg options] at answer ⊢
    obtain ⟨found, missing⟩ := answer
    by_cases own : method = route.method
    · rw [if_pos own]
      exact found _ ((MediaRoute.mem_registrations_iff literal literalVersions known member).mpr ⟨own, rfl⟩)
    · rw [if_neg own]
      apply missing
      intro handler registered
      exact own ((MediaRoute.mem_registrations_iff literal literalVersions known member).mp registered).1

theorem mediaRoutes_lookup_of_no_path {path : String}
    (none : ¬ ∃ endpoint captures, MediaPath (slashed texts) versions path endpoint captures)
    (method : String) :
    table.lookup method path = .notFound := by
  by_cases taking : ∃ version ∈ versions, ∃ route ∈ MediaRoute.all, ∃ taken,
      (route.pattern (texts ++ [version])).Takes path taken
  · obtain ⟨version, known, route, member, taken, takes⟩ := taking
    have answer := mediaRoutes_lookup literal literalVersions accepted known member takes method
    rcases decoded : taken.decode? with _ | captures
    · rw [decoded] at answer
      exact answer
    · exact absurd ⟨route.endpoint, captures, (mediaPath_iff literal literalVersions).mpr
        ⟨version, known, route, member, rfl, taken, takes, decoded⟩⟩ none
  · rw [mediaRoutes_eq_ofRegistrations] at accepted
    obtain ⟨indexed, holds⟩ := RouteTable.ofRegistrations_sound accepted
    refine (holds.lookup_of_none indexed ?_ method).2
    rintro pattern ⟨registered, taken, takes⟩
    obtain ⟨version, known, route, member, rfl⟩ :=
      (registered_mediaRegistrations_iff literal literalVersions).mp registered
    exact taking ⟨version, known, route, member, taken, takes⟩

end Interface

/-- The media interface is accepted below every literal path, with one route for each registration. -/
theorem mediaRoutes_accepted {α : Type} (handlers : Endpoint → α) {texts versions : List String}
    (literal : ∀ text ∈ texts, (Segment.literal text).Wellformed)
    (literalVersions : ∀ version ∈ versions, (Segment.literal version).Wellformed) (distinct : versions.Nodup) :
    ∃ table, mediaRoutes handlers (slashed texts) versions = .ok table ∧
      table.routes = (mediaRegistrations handlers (slashed texts) versions).map fun entry =>
        (entry.method, entry.pattern) := by
  exact mediaRoutes_accepted_below literalVersions handlers (Segment.proper_map_literal literal)
    (Segment.isBase_literals texts) distinct

/-- The interface has six routes for each version, and of all paths and methods it answers these. -/
theorem mediaRoutes_surface {α : Type} (handlers : Endpoint → α) {texts versions : List String}
    (literal : ∀ text ∈ texts, (Segment.literal text).Wellformed)
    (named : ∀ version ∈ versions, isVersion version = true) (distinct : versions.Nodup) :
    ∃ table, mediaRoutes handlers (slashed texts) versions = .ok table ∧
      table.size = 6 * versions.length ∧
      table.routes = (versions.flatMap fun version => Endpoint.routes.map fun (method, below, _) =>
        (method, slashed texts ++ "/" ++ version ++ below)) ∧
      ∀ path,
        (∀ endpoint captures, MediaPath (slashed texts) versions path endpoint captures →
          (∀ other also, MediaPath (slashed texts) versions path other also →
            other = endpoint ∧ also = captures) ∧
          ∀ method, table.lookup method path =
            if method = "OPTIONS" then .preflight
            else if method = endpoint.method then .found (handlers endpoint) captures
            else .methodNotAllowed) ∧
        ((¬ ∃ endpoint captures, MediaPath (slashed texts) versions path endpoint captures) →
          ∀ method, table.lookup method path = .notFound) := by
  have literalVersions : ∀ version ∈ versions, (Segment.literal version).Wellformed :=
    fun version known => Segment.wellformed_of_isVersion (named version known)
  obtain ⟨table, accepted, routes⟩ := mediaRoutes_accepted handlers literal literalVersions distinct
  refine ⟨table, accepted, ?_, ?_, fun path => ⟨fun endpoint captures asks => ⟨?_, ?_⟩, ?_⟩⟩
  · rw [table.size_eq_length_routes, routes, List.length_map, length_mediaRegistrations]
  · rw [routes, mediaRegistrations, List.map_flatMap]
    simp only [List.map_map, Function.comp_def]
  · intro other also asksToo
    exact MediaPath.unique literal literalVersions asksToo asks
  · exact mediaRoutes_lookup_of_path literal literalVersions accepted asks
  · exact mediaRoutes_lookup_of_no_path literal literalVersions accepted

/-- Versions may begin alike or be named as an endpoint, and a dot may be written in hexadecimal. -/
theorem overlappingVersions_surface : ∃ table,
    mediaRoutes id "/_matrix/media" ["r", "r0", "upload"] = .ok table ∧ table.size = 18 ∧
      table.lookup "POST" "/_matrix/media/upload/upload" = .found .upload [] ∧
      table.lookup "GET" "/_matrix/media/r/download/matrix%2Eorg/abc" =
        .found .download [("server", "matrix.org"), ("media_id", "abc")] ∧
      table.lookup "PUT" "/_matrix/media/r0/identicon/" = .methodNotAllowed := by
  have literal : ∀ text ∈ ["_matrix", "media"], (Segment.literal text).Wellformed := by
    simp [Segment.Wellformed, isBrace]
  obtain ⟨table, accepted, size, _, answers⟩ := @mediaRoutes_surface _ id ["_matrix", "media"]
    ["r", "r0", "upload"] literal (by decide +kernel) (by decide)
  have upload : MediaPath (slashed ["_matrix", "media"]) ["r", "r0", "upload"]
      "/_matrix/media/upload/upload" .upload [] :=
    ⟨"upload", by decide, "/upload", by decide +kernel, .upload⟩
  have encoded : CaptureClass.authority.Reads "matrix%2Eorg" "matrix.org" :=
    ⟨by decide +kernel, by decide +kernel, by decide +kernel⟩
  have plain : CaptureClass.mediaId.Reads "abc" "abc" :=
    ⟨by decide +kernel, by decide +kernel, by decide +kernel⟩
  have download : MediaPath (slashed ["_matrix", "media"]) ["r", "r0", "upload"]
      "/_matrix/media/r/download/matrix%2Eorg/abc" .download [("server", "matrix.org"), ("media_id", "abc")] :=
    ⟨"r", by decide, _, by decide +kernel, .download encoded plain⟩
  have nothing : Percent.decodeText? "" = some "" := Percent.decodeText?_of_not_mem (by simp)
  have identicon : MediaPath (slashed ["_matrix", "media"]) ["r", "r0", "upload"]
      "/_matrix/media/r0/identicon/" .identicon [("seed", "")] :=
    ⟨"r0", by decide, _, by decide +kernel, .identicon nothing⟩
  refine ⟨table, accepted, size, ?_, ?_, ?_⟩
  · exact ((answers _).1 _ _ upload).2 "POST"
  · exact ((answers _).1 _ _ download).2 "GET"
  · exact ((answers _).1 _ _ identicon).2 "PUT"

end MediaServer
