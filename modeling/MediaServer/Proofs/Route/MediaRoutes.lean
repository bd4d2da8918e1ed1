import MediaServer.Route.Media
import MediaServer.Settings.Check
import MediaServer.Proofs.Route.BestMatch
import MediaServer.Proofs.Text.Percent

namespace MediaServer

/-- A route below a version: its method, the parts of its pattern, and what it leads to. -/
structure MediaRoute where
  method : String
  segments : List Segment
  endpoint : Endpoint
  deriving DecidableEq

/-- The routes of one version in parts. -/
def MediaRoute.all : List MediaRoute := [
  ⟨"POST", [.literal "upload"], .upload⟩,
  ⟨"GET", [.literal "download", .capture "server" .authority, .capture "media_id" .mediaId], .download⟩,
  ⟨"GET", [.literal "download", .capture "server" .authority, .capture "media_id" .mediaId,
    .capture "filename" .filename], .download⟩,
  ⟨"GET", [.literal "thumbnail", .capture "server" .authority, .capture "media_id" .mediaId], .thumbnail⟩,
  ⟨"GET", [.literal "preview_url"], .previewUrl⟩,
  ⟨"GET", [.literal "identicon", .capture "seed" .tail], .identicon⟩]

theorem Endpoint.routes_eq : Endpoint.routes =
    MediaRoute.all.map fun route => (route.method, Segment.writeAll route.segments, route.endpoint) := by
  decide +kernel

theorem MediaRoute.segments_ne_nil : ∀ route ∈ all, route.segments ≠ [] := by
  decide

theorem MediaRoute.method_ne_options : ∀ route ∈ all, route.method ≠ "OPTIONS" := by
  decide

theorem MediaRoute.proper : ∀ route ∈ all, Segment.Proper [] route.segments := by
  have parsed : ∀ route ∈ all, RoutePattern.parse (Segment.writeAll route.segments) =
      .ok ⟨Segment.writeAll route.segments, route.segments⟩ := by
    decide +kernel
  intro route member
  exact (RoutePattern.parse_eq_ok_iff.mp (parsed route member)).2.2.2

/-- Two lists of parts that take no path in common: they begin with different texts, or take different
numbers of parts. -/
def Segment.apart : List Segment → List Segment → Bool
  | .literal text :: segments, .literal other :: others =>
    text != other || (segments.all (!·.isTail) && others.all (!·.isTail) && segments.length != others.length)
  | _, _ => false

theorem Segment.Takes.length_eq {segments : List Segment} {parts : List String} {taken : Taken}
    (takes : Takes segments parts taken) (tailless : segments.all (!·.isTail) = true) :
    parts.length = segments.length := by
  induction takes with
  | done => rfl
  | literal _ ih =>
    rw [List.all_cons, Bool.and_eq_true] at tailless
    rw [List.length_cons, List.length_cons, ih tailless.2]
  | one _ _ _ ih =>
    rw [List.all_cons, Bool.and_eq_true] at tailless
    rw [List.length_cons, List.length_cons, ih tailless.2]
  | tail => simp [isTail] at tailless

theorem Segment.Takes.not_apart {segments others : List Segment} {parts : List String} {taken also : Taken}
    (takes : Takes segments parts taken) (otherTakes : Takes others parts also) :
    apart segments others = false := by
  cases takes with
  | literal takes =>
    cases otherTakes with
    | literal otherTakes =>
      rw [apart, bne_self_eq_false, Bool.false_or, ← Bool.not_eq_true, Bool.and_eq_true, Bool.and_eq_true]
      rintro ⟨⟨tailless, otherTailless⟩, different⟩
      rw [← takes.length_eq tailless, ← otherTakes.length_eq otherTailless] at different
      simp at different
    | _ => rfl
  | _ => rfl

/-- No path is that of two routes. -/
theorem MediaRoute.eq_of_takes {route other : MediaRoute} (member : route ∈ all) (otherMember : other ∈ all)
    {parts : List String} {taken also : Taken} (takes : Segment.Takes route.segments parts taken)
    (otherTakes : Segment.Takes other.segments parts also) : other = route := by
  have separate : ∀ route ∈ all, ∀ other ∈ all,
      other = route ∨ Segment.apart route.segments other.segments = true := by
    decide +kernel
  rcases separate route member other otherMember with same | apart
  · exact same
  · rw [takes.not_apart otherTakes] at apart
    cases apart

/-- Texts with a slash before each. -/
def slashed (texts : List String) : String :=
  Segment.writeAll (texts.map .literal)

theorem slashed_append (texts more : List String) : slashed (texts ++ more) = slashed texts ++ slashed more := by
  rw [slashed, List.map_append, Segment.writeAll_append]
  rfl

theorem slashed_singleton (text : String) : slashed [text] = "/" ++ text := by
  have slash : ∀ chars : List Char, String.ofList ('/' :: chars) = "/" ++ String.ofList chars := by
    intro chars
    rw [← List.singleton_append, String.ofList_append]
  rw [slashed, Segment.writeAll]
  simp only [List.map_cons, List.map_nil, List.flatMap_cons, List.flatMap_nil, Segment.write, List.append_nil]
  rw [slash, String.ofList_toList]

theorem toList_slashed {texts : List String} (some : texts ≠ []) :
    (slashed texts).toList = '/' :: ['/'].intercalate (texts.map String.toList) := by
  rw [slashed, Segment.writeAll_toList (by simpa using some), List.map_map]
  rfl

theorem pathParts?_slashed {texts : List String} (some : texts ≠ [])
    (clean : ∀ text ∈ texts, '/' ∉ text.toList) : pathParts? (slashed texts) = .some texts := by
  have whole : pieces '/' (['/'].intercalate (texts.map String.toList)) = texts.map String.toList := by
    apply pieces_intercalate
    · intro part member
      obtain ⟨text, within, rfl⟩ := List.mem_map.mp member
      exact clean text within
    · simpa using some
  rw [pathParts?, toList_slashed some]
  simp [whole, Function.comp_def]

/-- Literals in front take exactly their texts. -/
theorem Segment.takes_literals_iff {texts : List String} {segments : List Segment} {parts : List String}
    {taken : Taken} :
    Takes (texts.map literal ++ segments) parts taken ↔
      ∃ rest, parts = texts ++ rest ∧ Takes segments rest taken := by
  induction texts generalizing parts with
  | nil => simp
  | cons text texts ih =>
    constructor
    · intro takes
      rw [List.map_cons, List.cons_append] at takes
      cases takes with
      | literal takes =>
        obtain ⟨rest, rfl, below⟩ := ih.mp takes
        exact ⟨rest, rfl, below⟩
    · rintro ⟨rest, rfl, takes⟩
      exact .literal (ih.mpr ⟨rest, rfl, takes⟩)

theorem Segment.proper_literals {texts : List String}
    (wellformed : ∀ text ∈ texts, (literal text).Wellformed) {segments : List Segment} {taken : List String}
    (proper : Proper taken segments) : Proper taken (texts.map literal ++ segments) := by
  induction texts with
  | nil => exact proper
  | cons text texts ih =>
    have ⟨here, others⟩ := List.forall_mem_cons.mp wellformed
    apply proper_cons_iff.mpr
    refine ⟨here, by simp [isTail], by simp [names], ?_⟩
    rw [names, List.append_nil]
    exact ih others

/-- The versions that settings may name stand for themselves. -/
theorem Segment.wellformed_of_isVersion {version : String} (valid : isVersion version = true) :
    (literal version).Wellformed := by
  rw [isVersion, Bool.and_eq_true, List.all_eq_true] at valid
  obtain ⟨filled, plain⟩ := valid
  constructor
  · rintro nothing
    simp [String.toList_eq_nil_iff.mp nothing] at filled
  · intro c member
    have here := plain c member
    refine ⟨?_, ?_⟩
    · rintro rfl
      exact absurd here (by decide)
    · rw [← Bool.not_eq_true, isBrace, Bool.or_eq_true, beq_iff_eq, beq_iff_eq]
      rintro (rfl | rfl)
      · exact absurd here (by decide)
      · exact absurd here (by decide)

variable {α : Type}

/-- The registrations of the media interface below a path. -/
def mediaRegistrations (handlers : Endpoint → α) (path : String) (versions : List String) :
    List (Registration α) :=
  versions.flatMap fun version => Endpoint.routes.map fun (method, below, endpoint) =>
    ⟨method, path ++ "/" ++ version ++ below, handlers endpoint⟩

theorem mediaRoutes_eq_ofRegistrations (handlers : Endpoint → α) (path : String) (versions : List String) :
    mediaRoutes handlers path versions =
      RouteTable.ofRegistrations (mediaRegistrations handlers path versions) := by
  unfold mediaRoutes RouteTable.ofRegistrations mediaRegistrations
  generalize (RouteTable.empty : RouteTable α) = table
  induction versions generalizing table with
  | nil => rfl
  | cons version versions ih =>
    rw [List.foldlM_cons, List.flatMap_cons, List.foldlM_append, List.foldlM_map]
    exact bind_congr ih

/-- What is registered for a route of a version below a path. -/
def MediaRoute.registration (handlers : Endpoint → α) (path version : String) (route : MediaRoute) :
    Registration α :=
  ⟨route.method, path ++ "/" ++ version ++ Segment.writeAll route.segments, handlers route.endpoint⟩

theorem mediaRegistrations_eq (handlers : Endpoint → α) (path : String) (versions : List String) :
    mediaRegistrations handlers path versions =
      versions.flatMap fun version => MediaRoute.all.map (MediaRoute.registration handlers path version) := by
  rw [mediaRegistrations, Endpoint.routes_eq]
  rfl

theorem mem_mediaRegistrations_iff {handlers : Endpoint → α} {path : String} {versions : List String}
    {entry : Registration α} :
    entry ∈ mediaRegistrations handlers path versions ↔
      ∃ version ∈ versions, ∃ route ∈ MediaRoute.all, route.registration handlers path version = entry := by
  simp only [mediaRegistrations_eq, List.mem_flatMap, List.mem_map]

theorem length_mediaRegistrations (handlers : Endpoint → α) (path : String) (versions : List String) :
    (mediaRegistrations handlers path versions).length = 6 * versions.length := by
  rw [mediaRegistrations, List.length_flatMap]
  simp [Endpoint.routes, Nat.mul_comm]

/-- The pattern of a route below literal parts. -/
def MediaRoute.pattern (route : MediaRoute) (texts : List String) : RoutePattern :=
  ⟨Segment.writeAll (texts.map .literal ++ route.segments), texts.map .literal ++ route.segments⟩

theorem MediaRoute.parse_pattern {route : MediaRoute} (member : route ∈ all) {texts : List String}
    (literal : ∀ text ∈ texts, (Segment.literal text).Wellformed) :
    RoutePattern.parse (route.pattern texts).source = .ok (route.pattern texts) := by
  have filled := List.append_ne_nil_of_right_ne_nil (texts.map .literal) (segments_ne_nil route member)
  exact RoutePattern.parse_eq_ok_iff.mpr ⟨rfl, rfl, filled, Segment.proper_literals literal (proper route member)⟩

theorem MediaRoute.takes_pattern_iff {route : MediaRoute} {texts : List String} {version path : String}
    {taken : Taken} :
    (route.pattern (texts ++ [version])).Takes path taken ↔
      ∃ parts, pathParts? path = some (texts ++ version :: parts) ∧ Segment.Takes route.segments parts taken := by
  have regrouped : ∀ parts, texts ++ version :: parts = (texts ++ [version]) ++ parts := by simp
  constructor
  · rintro ⟨all, split, takes⟩
    obtain ⟨parts, rfl, below⟩ := Segment.takes_literals_iff.mp takes
    exact ⟨parts, by rw [split, regrouped parts], below⟩
  · rintro ⟨parts, split, takes⟩
    exact ⟨_, split, Segment.takes_literals_iff.mpr ⟨parts, regrouped parts, takes⟩⟩

/-- Whatever a lookup finds is one of the handlers. -/
theorem mediaRoutes_handlers {handlers : Endpoint → α} {path : String} {versions : List String}
    {table : RouteTable α} (accepted : mediaRoutes handlers path versions = .ok table)
    {method asked : String} {handler : α} {captures : Captures}
    (found : table.lookup method asked = .found handler captures) :
    ∃ endpoint, handler = handlers endpoint := by
  rw [mediaRoutes_eq_ofRegistrations] at accepted
  obtain ⟨indexed, holds⟩ := RouteTable.ofRegistrations_sound accepted
  obtain ⟨entry, member, rfl⟩ := holds.registered_of_found indexed found
  obtain ⟨version, _, route, _, rfl⟩ := mem_mediaRegistrations_iff.mp member
  exact ⟨route.endpoint, rfl⟩

theorem CaptureClass.not_mem_of_accepts {kind : CaptureClass} {value : String}
    (accepted : kind.accepts value = true) {c : Char} (refused : kind.admits c = false) :
    c ∉ value.toList := by
  intro member
  rw [accepts, Bool.and_eq_true] at accepted
  rw [List.all_eq_true.mp accepted.2 c member] at refused
  cases refused

theorem CaptureClass.ne_empty_of_accepts {kind : CaptureClass} (notTail : kind ≠ .tail) {value : String}
    (accepted : kind.accepts value = true) : value ≠ "" := by
  rintro rfl
  simp [accepts, notTail] at accepted

/-- A value of a class that has no percent sign is captured as it is written. -/
theorem Taken.value?_of_accepts {kind : CaptureClass} {text : String} (accepted : kind.accepts text = true)
    (noPercent : kind.admits '%' = false) (name : String) :
    Taken.value? (name, kind, text) = some (name, text) := by
  rw [Taken.value?, Percent.decodeText?_of_not_mem (CaptureClass.not_mem_of_accepts accepted noPercent),
    Option.bind_some, if_pos accepted]

end MediaServer
