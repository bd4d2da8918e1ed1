import MediaServer.Proofs.Route.Acceptance
import MediaServer.Proofs.Route.MediaRoutes

namespace MediaServer

theorem Segment.write_inj {segment other : Segment} (wellformed : segment.Wellformed)
    (otherWellformed : other.Wellformed) (same : segment.write = other.write) : segment = other := by
  have reads : ∀ segment : Segment, segment.Wellformed →
      Segment.read true [] segment.write = .ok segment := by
    intro segment wellformed
    exact (read_eq_ok_iff wellformed.noSlash).mpr ⟨rfl, wellformed, fun _ => rfl, by simp⟩
  have read := reads segment wellformed
  rw [same, reads other otherWellformed] at read
  exact (Except.ok.inj read).symm

theorem Segment.toList_writeAll_concat (segments : List Segment) (last : Segment) :
    (writeAll (segments ++ [last])).toList = (writeAll segments).toList ++ '/' :: last.write := by
  simp [writeAll]

theorem Segment.writeAll_literal_cons (text : String) (segments : List Segment) :
    writeAll (.literal text :: segments) = "/" ++ text ++ writeAll segments := by
  rw [← List.singleton_append, writeAll_append]
  exact congrArg (· ++ writeAll segments) (slashed_singleton text)

/-- A text of parts that ends as others are written is that of parts that end with these. -/
theorem Segment.eq_append_of_writeAll {segments ending : List Segment} {start : String}
    (wellformed : ∀ segment ∈ segments, segment.Wellformed)
    (wellformedEnding : ∀ segment ∈ ending, segment.Wellformed)
    (written : writeAll segments = start ++ writeAll ending) :
    ∃ front, segments = front ++ ending ∧ writeAll front = start := by
  -- The parts of the ending are taken off from the last one on: before a slash there may be anything.
  induction ending using List.reverseRecOn generalizing segments with
  | nil => exact ⟨segments, (List.append_nil _).symm, by simpa [writeAll] using written⟩
  | append_singleton ending last ih =>
    obtain ⟨others, here⟩ := List.forall_mem_append.mp wellformedEnding
    rw [List.forall_mem_singleton] at here
    have chars := congrArg String.toList written
    rw [String.toList_append, toList_writeAll_concat, ← List.append_assoc, ← String.toList_append] at chars
    rcases List.eq_nil_or_concat' segments with rfl | ⟨before, own, rfl⟩
    · simp [writeAll] at chars
    · obtain ⟨beforeWellformed, ownWellformed⟩ := List.forall_mem_append.mp wellformed
      rw [List.forall_mem_singleton] at ownWellformed
      rw [toList_writeAll_concat] at chars
      obtain ⟨rests, lasts⟩ := append_separator_inj ownWellformed.noSlash here.noSlash chars
      obtain ⟨front, rfl, starts⟩ := ih beforeWellformed others (String.toList_inj.mp rests)
      obtain rfl := write_inj ownWellformed here lasts
      exact ⟨front, List.append_assoc .., starts⟩

theorem Segment.writeAll_inj {segments others : List Segment}
    (wellformed : ∀ segment ∈ segments, segment.Wellformed)
    (wellformedOthers : ∀ segment ∈ others, segment.Wellformed)
    (same : writeAll segments = writeAll others) : segments = others := by
  obtain ⟨front, rfl, nothing⟩ := eq_append_of_writeAll wellformed wellformedOthers
    (same.trans (String.empty_append ..).symm)
  rcases front with _ | ⟨segment, front⟩
  · rfl
  · simp [writeAll] at nothing

theorem Segment.proper_taken_iff {taken : List String} {segments : List Segment} :
    Proper taken segments ↔ Proper [] segments ∧ ∀ name ∈ segments.flatMap names, name ∉ taken := by
  constructor
  · intro proper
    exact ⟨⟨proper.wellformed, by simp, proper.distinct, proper.tailLast⟩, proper.fresh⟩
  · rintro ⟨proper, fresh⟩
    exact ⟨proper.wellformed, fresh, proper.distinct, proper.tailLast⟩

/-- Parts in front of others may be no tail and leave the others their names. -/
theorem Segment.proper_append_iff {taken : List String} {front segments : List Segment}
    (some : segments ≠ []) :
    Proper taken (front ++ segments) ↔
      Proper taken front ∧ (∀ segment ∈ front, segment.isTail = false) ∧
        Proper (taken ++ front.flatMap names) segments := by
  induction front generalizing taken with
  | nil => simp [proper_nil]
  | cons segment front ih =>
    rw [List.cons_append, proper_cons_iff, proper_cons_iff, ih, List.forall_mem_cons, List.flatMap_cons,
      List.append_assoc]
    have more : front ++ segments ≠ [] := List.append_ne_nil_of_right_ne_nil _ some
    simp only [more, imp_false, Bool.not_eq_true]
    constructor
    · rintro ⟨here, single, fresh, proper, tailless, rest⟩
      exact ⟨⟨here, by simp [single], fresh, proper⟩, ⟨single, tailless⟩, rest⟩
    · rintro ⟨⟨here, _, fresh, proper⟩, ⟨single, tailless⟩, rest⟩
      exact ⟨here, single, fresh, proper, tailless, rest⟩

/-- The names that the media interface gives to what it captures. -/
def MediaRoute.names : List String := ["server", "media_id", "filename", "seed"]

/-- The media interface fits below these parts: none of them is a tail, they capture no name that a route
captures, and they leave room for the captures of a route. -/
structure Segment.IsBase (base : List Segment) : Prop where
  tailless : ∀ segment ∈ base, segment.isTail = false
  free : ∀ name ∈ base.flatMap Segment.names, name ∉ MediaRoute.names
  few : base.countP (·.isOne) + 3 ≤ captureLimit

/-- Literals capture nothing. -/
theorem Segment.isBase_literals (texts : List String) : IsBase (texts.map literal) := by
  have none : (texts.map literal).countP (·.isOne) = 0 := by simp [List.countP_eq_zero, isOne]
  exact ⟨by simp [isTail], by simp [names], by rw [none]; decide⟩

/-- The pattern of a route below a version below these parts. -/
def MediaRoute.patternBelow (route : MediaRoute) (base : List Segment) (version : String) : RoutePattern :=
  ⟨Segment.writeAll (base ++ .literal version :: route.segments), base ++ .literal version :: route.segments⟩

theorem Segment.proper_below_iff {base : List Segment} {version : String}
    (literal : (Segment.literal version).Wellformed) {route : MediaRoute} (member : route ∈ MediaRoute.all) :
    Proper [] (route.patternBelow base version).segments ↔
      Proper [] base ∧ (∀ segment ∈ base, segment.isTail = false) ∧
        ∀ name ∈ route.segments.flatMap names, name ∉ base.flatMap names := by
  have versioned : Proper [] (.literal version :: route.segments) :=
    proper_cons_iff.mpr ⟨literal, by simp [isTail], by simp [names], MediaRoute.proper route member⟩
  rw [MediaRoute.patternBelow, proper_append_iff (List.cons_ne_nil _ _), @proper_taken_iff ([] ++ _)]
  simp [versioned, names]

/-- Below these parts the routes have patterns, each with few enough captures, exactly if the interface
fits below them. -/
theorem Segment.isBase_iff {base : List Segment} {version : String}
    (literal : (Segment.literal version).Wellformed) :
    (∀ route ∈ MediaRoute.all, Proper [] (route.patternBelow base version).segments ∧
        (route.patternBelow base version).segments.countP (·.isOne) ≤ captureLimit) ↔
      Proper [] base ∧ IsBase base := by
  have count : ∀ route : MediaRoute, (route.patternBelow base version).segments.countP (·.isOne) =
      base.countP (·.isOne) + route.segments.countP (·.isOne) := by
    simp [MediaRoute.patternBelow, isOne]
  constructor
  · intro fits
    have named : ∀ name ∈ MediaRoute.names, ∃ route ∈ MediaRoute.all,
        name ∈ route.segments.flatMap names := by decide +kernel
    obtain ⟨longest, member, three⟩ : ∃ route ∈ MediaRoute.all, route.segments.countP (·.isOne) = 3 := by
      decide +kernel
    obtain ⟨proper, few⟩ := fits longest member
    obtain ⟨proper, tailless, _⟩ := (proper_below_iff literal member).mp proper
    rw [count, three] at few
    refine ⟨proper, tailless, ?_, few⟩
    intro name inside known
    obtain ⟨route, within, captured⟩ := named name known
    exact ((proper_below_iff literal within).mp (fits route within).1).2.2 name captured inside
  · rintro ⟨proper, isBase⟩ route member
    have named : ∀ route ∈ MediaRoute.all, ∀ name ∈ route.segments.flatMap names,
        name ∈ MediaRoute.names := by decide +kernel
    have atMost : ∀ route ∈ MediaRoute.all, route.segments.countP (·.isOne) ≤ 3 := by decide +kernel
    refine ⟨(proper_below_iff literal member).mpr ⟨proper, isBase.tailless, ?_⟩, ?_⟩
    · intro name captured inside
      exact isBase.free name inside (named route member name captured)
    · rw [count]
      exact Nat.le_trans (Nat.add_le_add_left (atMost route member) _) isBase.few

variable {α : Type} {handlers : Endpoint → α} {path : String} {versions : List String}

theorem MediaRoute.parse_registration_iff {version : String} (literal : (Segment.literal version).Wellformed)
    {route : MediaRoute} (member : route ∈ all) {pattern : RoutePattern} :
    RoutePattern.parse (route.registration handlers path version).pattern = .ok pattern ↔
      ∃ base, Segment.writeAll base = path ∧ pattern = route.patternBelow base version ∧
        Segment.Proper [] pattern.segments := by
  have versioned : (route.registration handlers path version).pattern =
      path ++ Segment.writeAll (.literal version :: route.segments) := by
    rw [Segment.writeAll_literal_cons, ← String.append_assoc, ← String.append_assoc]
    rfl
  rw [RoutePattern.parse_eq_ok_iff, versioned]
  constructor
  · rintro ⟨source, written, _, proper⟩
    have ending : ∀ segment ∈ .literal version :: route.segments, segment.Wellformed :=
      List.forall_mem_cons.mpr ⟨literal, (MediaRoute.proper route member).wellformed⟩
    obtain ⟨base, split, start⟩ := Segment.eq_append_of_writeAll proper.wellformed ending written
    refine ⟨base, start, ?_, proper⟩
    rw [patternBelow, ← split, written, ← source]
  · rintro ⟨base, rfl, rfl, proper⟩
    exact ⟨Segment.writeAll_append .., Segment.writeAll_append .., by simp [patternBelow], proper⟩

theorem MediaRoute.keys_patternBelow {base : List Segment} (tailless : ∀ segment ∈ base, segment.isTail = false)
    (route : MediaRoute) (version : String) :
    Segment.keys (route.patternBelow base version).segments =
      (Segment.keys route.segments).map fun key => base.map Segment.toTree ++ (.literal version :: key) := by
  rw [patternBelow, Segment.keys_append tailless]
  simp [Segment.keys, Segment.toTree, Segment.isTail]

/-- The patterns of one version keep apart from each other. -/
theorem MediaRoute.all_apart : ∀ route ∈ all, ∀ other ∈ all, route ≠ other →
    ∀ key ∈ Segment.keys route.segments, ∀ otherKey ∈ Segment.keys other.segments,
      key.clashes otherKey = false := by
  decide +kernel

/-- Below the same parts, versions that differ keep their patterns apart. -/
theorem MediaRoute.apart_below {base : List Segment} (tailless : ∀ segment ∈ base, segment.isTail = false)
    {route other : MediaRoute} (member : route ∈ all) (otherMember : other ∈ all) {version also : String}
    (different : version ≠ also ∨ route ≠ other) :
    (route.patternBelow base version).Apart (other.patternBelow base also) := by
  intro key inside otherKey otherInside
  rw [keys_patternBelow tailless] at inside otherInside
  obtain ⟨below, within, rfl⟩ := List.mem_map.mp inside
  obtain ⟨otherBelow, otherWithin, rfl⟩ := List.mem_map.mp otherInside
  rw [TreeKey.clashes_append tailless, TreeKey.clashes]
  rcases different with versions | routes
  · rw [beq_false_of_ne versions, Bool.false_and]
  · rw [all_apart route member other otherMember routes below within otherBelow otherWithin, Bool.and_false]

theorem MediaRoute.patterns_apart {base : List Segment} (tailless : ∀ segment ∈ base, segment.isTail = false)
    (distinct : versions.Nodup) :
    (versions.flatMap fun version => all.map fun route => route.patternBelow base version).Pairwise
      RoutePattern.Apart := by
  have once : MediaRoute.all.Nodup := by decide +kernel
  rw [List.pairwise_flatMap]
  constructor
  · intro version _
    rw [List.pairwise_map]
    exact once.pairwise_of_forall_ne fun route member other otherMember different =>
      apart_below tailless member otherMember (Or.inr different)
  · refine distinct.imp fun {version also} different => ?_
    intro pattern inside other otherInside
    obtain ⟨route, member, rfl⟩ := List.mem_map.mp inside
    obtain ⟨otherRoute, otherMember, rfl⟩ := List.mem_map.mp otherInside
    exact apart_below tailless member otherMember (Or.inl different)

theorem mediaRoutes_versions_nodup {table : RouteTable α} (accepted : mediaRoutes handlers path versions = .ok table) :
    versions.Nodup := by
  rw [mediaRoutes_eq_ofRegistrations] at accepted
  have once := RouteTable.ofRegistrations_once accepted
  rw [mediaRegistrations_eq, List.map_flatMap, List.nodup_flatMap] at once
  refine once.2.imp fun {version also} disjoint => ?_
  rintro rfl
  exact disjoint List.mem_cons_self List.mem_cons_self

section Below

variable (literalVersions : ∀ version ∈ versions, (Segment.literal version).Wellformed)

include literalVersions

/-- Below such parts the interface is accepted, with one route for each registration. -/
theorem mediaRoutes_accepted_below (handlers : Endpoint → α) {base : List Segment}
    (proper : Segment.Proper [] base) (isBase : Segment.IsBase base) (distinct : versions.Nodup) :
    ∃ table, mediaRoutes handlers (Segment.writeAll base) versions = .ok table ∧
      table.routes = (mediaRegistrations handlers (Segment.writeAll base) versions).map fun entry =>
        (entry.method, entry.pattern) := by
  let entries : List (Registration α × RoutePattern) := versions.flatMap fun version =>
    MediaRoute.all.map fun route =>
      (route.registration handlers (Segment.writeAll base) version, route.patternBelow base version)
  have registrations : entries.map (·.1) = mediaRegistrations handlers (Segment.writeAll base) versions := by
    simp only [entries, mediaRegistrations_eq, List.map_flatMap, List.map_map, Function.comp_def]
  have patterns : entries.map (·.2) = versions.flatMap fun version => MediaRoute.all.map fun route =>
      route.patternBelow base version := by
    simp only [entries, List.map_flatMap, List.map_map, Function.comp_def]
  have opens : ∀ entry ∈ entries, entry.1.Opens entry.2 := by
    intro entry member
    obtain ⟨version, known, inside⟩ := List.mem_flatMap.mp member
    obtain ⟨route, within, rfl⟩ := List.mem_map.mp inside
    have literal := literalVersions version known
    obtain ⟨fits, few⟩ := (Segment.isBase_iff literal).mpr ⟨proper, isBase⟩ route within
    exact ⟨MediaRoute.method_ne_options route within,
      (MediaRoute.parse_registration_iff literal within).mpr ⟨base, rfl, rfl, fits⟩, few⟩
  have apart := MediaRoute.patterns_apart isBase.tailless distinct
  rw [← patterns] at apart
  obtain ⟨table, accepted, slots⟩ := RouteTable.ofRegistrations_of_apart opens apart
  rw [registrations, ← mediaRoutes_eq_ofRegistrations] at accepted
  refine ⟨table, accepted, ?_⟩
  rw [RouteTable.routes_of_slots opens slots, ← registrations, List.map_map]
  rfl

/-- A path below which the interface is accepted is written as parts below which it fits. -/
theorem mediaRoutes_path_isBase {table : RouteTable α} (accepted : mediaRoutes handlers path versions = .ok table)
    (some : versions ≠ []) :
    ∃ base, Segment.writeAll base = path ∧ Segment.Proper [] base ∧ Segment.IsBase base := by
  rw [mediaRoutes_eq_ofRegistrations] at accepted
  obtain ⟨version, known⟩ := List.exists_mem_of_ne_nil versions some
  have literal := literalVersions version known
  have below : ∀ route ∈ MediaRoute.all, ∃ base, Segment.writeAll base = path ∧
      Segment.Proper [] (route.patternBelow base version).segments ∧
        (route.patternBelow base version).segments.countP (·.isOne) ≤ captureLimit := by
    intro route member
    obtain ⟨pattern, opens⟩ := RouteTable.ofRegistrations_opens accepted _
      (mem_mediaRegistrations_iff.mpr ⟨version, known, route, member, rfl⟩)
    obtain ⟨base, start, rfl, proper⟩ := (MediaRoute.parse_registration_iff literal member).mp opens.parsed
    exact ⟨base, start, proper, opens.few⟩
  obtain ⟨base, start, proper, _⟩ := below _ List.mem_cons_self
  obtain ⟨proper, _⟩ := (Segment.proper_below_iff literal List.mem_cons_self).mp proper
  refine ⟨base, start, (Segment.isBase_iff literal).mp ?_⟩
  -- The text of the path says of which parts it is made, so these are the same for all routes.
  intro route member
  obtain ⟨also, sameStart, properAlso, few⟩ := below route member
  have whole := ((Segment.proper_below_iff literal member).mp properAlso).1.wellformed
  obtain rfl := Segment.writeAll_inj proper.wellformed whole (start.trans sameStart.symm)
  exact ⟨properAlso, few⟩

theorem mediaRoutes_no_conflict (handlers : Endpoint → α) (path place : String) :
    mediaRoutes handlers path versions ≠ .error (.conflict place) := by
  intro refused
  rw [mediaRoutes_eq_ofRegistrations] at refused
  obtain ⟨pattern, other, ⟨entry, registered, parsed⟩, ⟨also, alsoRegistered, alsoParsed⟩, different, clash⟩ :=
    RouteTable.ofRegistrations_conflict refused
  obtain ⟨version, known, route, member, rfl⟩ := mem_mediaRegistrations_iff.mp registered
  obtain ⟨version₂, known₂, route₂, member₂, rfl⟩ := mem_mediaRegistrations_iff.mp alsoRegistered
  have literal := literalVersions version known
  have literal₂ := literalVersions version₂ known₂
  obtain ⟨base, start, rfl, proper⟩ := (MediaRoute.parse_registration_iff literal member).mp parsed
  obtain ⟨base₂, start₂, rfl, proper₂⟩ := (MediaRoute.parse_registration_iff literal₂ member₂).mp alsoParsed
  obtain ⟨proper, tailless, _⟩ := (Segment.proper_below_iff literal member).mp proper
  obtain ⟨proper₂, _⟩ := (Segment.proper_below_iff literal₂ member₂).mp proper₂
  obtain rfl := Segment.writeAll_inj proper.wellformed proper₂.wellformed (start.trans start₂.symm)
  apply clash
  apply MediaRoute.apart_below tailless member₂ member
  by_contra same
  rw [not_or, not_not, not_not] at same
  exact different (by rw [same.1, same.2])

/-- The interface is accepted below a path exactly if no version is named twice and the path is written as
parts below which the interface fits. -/
theorem mediaRoutes_ok_iff (some : versions ≠ []) :
    (∃ table, mediaRoutes handlers path versions = .ok table) ↔
      versions.Nodup ∧ ∃ base, Segment.writeAll base = path ∧ Segment.Proper [] base ∧ Segment.IsBase base := by
  constructor
  · rintro ⟨table, accepted⟩
    exact ⟨mediaRoutes_versions_nodup accepted, mediaRoutes_path_isBase literalVersions accepted some⟩
  · rintro ⟨distinct, base, rfl, proper, isBase⟩
    obtain ⟨table, accepted, _⟩ := mediaRoutes_accepted_below literalVersions handlers proper isBase distinct
    exact ⟨table, accepted⟩

end Below

end MediaServer
