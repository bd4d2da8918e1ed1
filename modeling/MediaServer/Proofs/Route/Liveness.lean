import Mathlib.Algebra.Order.BigOperators.Group.List
import Mathlib.Algebra.Order.Group.Nat
import MediaServer.Proofs.Route.Order
import MediaServer.Proofs.Route.Surface

namespace MediaServer

/-- A part that the segment takes: its own text, or this value for what it captures. -/
def Segment.sample (value : String) : Segment → String
  | .literal text => text
  | .capture _ _ => value

/-- A path for the pattern, with this value in the place of every capture. -/
def RoutePattern.samplePath (pattern : RoutePattern) (value : String) : String :=
  slashed (pattern.segments.map (Segment.sample value))

/-- There is always one more value that every class accepts as it is written. -/
theorem exists_new_value (texts : List String) :
    ∃ value, value ∉ texts ∧ ∀ kind : CaptureClass, kind.Reads value value := by
  obtain ⟨value, long, letters⟩ : ∃ value : String,
      (texts.map String.length).sum < value.length ∧ ∀ c ∈ value.toList, c = 'a' := by
    refine ⟨String.ofList (List.replicate ((texts.map String.length).sum + 1) 'a'), by simp, ?_⟩
    intro c member
    rw [String.toList_ofList] at member
    exact List.eq_of_mem_replicate member
  have absent : ∀ c, c ≠ 'a' → c ∉ value.toList := fun c other member => other (letters c member)
  refine ⟨value, ?_, fun kind => ⟨absent '/' (by decide), ?_, ?_⟩⟩
  · intro member
    have short : value.length ≤ (texts.map String.length).sum :=
      List.le_sum_of_mem (List.mem_map_of_mem member)
    exact Nat.not_lt.mpr short long
  · exact Percent.decodeText?_of_not_mem (absent '%' (by decide))
  · have filled : value.isEmpty = false := by
      rw [String.isEmpty_eq_false_iff]
      rintro rfl
      exact Nat.not_lt_zero _ long
    have admitted : value.toList.all kind.admits = true := by
      rw [List.all_eq_true]
      intro c member
      rw [letters c member]
      cases kind <;> decide
    rw [CaptureClass.accepts, filled, admitted]
    simp

section Sample

variable {segments others : List Segment} {value : String}

theorem Segment.yields_sample (reads : ∀ kind : CaptureClass, kind.Reads value value) {earlier : List String}
    (proper : Proper earlier segments) :
    Yields segments (segments.map (sample value)) ((segments.flatMap names).map (·, value)) := by
  induction segments generalizing earlier with
  | nil => exact yields_nil_iff.mpr ⟨rfl, rfl⟩
  | cons segment segments ih =>
    obtain ⟨wellformed, last, _, properRest⟩ := proper_cons_iff.mp proper
    have rest := ih properRest
    cases segment with
    | literal text =>
      have clean : '/' ∉ text.toList := fun member => (wellformed.2 '/' member).1 rfl
      exact (yields_literal_iff clean).mpr ⟨_, rfl, rest⟩
    | capture name kind =>
      by_cases tail : kind = .tail
      · subst tail
        obtain rfl := last rfl
        have clean : ∀ part ∈ [value.toList], '/' ∉ part := by simpa using (reads .tail).whole
        have whole := pieces_intercalate clean (List.cons_ne_nil _ _)
        rw [List.intercalate_singleton] at whole
        exact yields_tail_iff.mpr ⟨value, value, by simp [whole, sample], rfl, (reads .tail).decoded⟩
      · exact (yields_one_iff tail).mpr ⟨value, value, _, _, rfl, rfl, reads kind, rest⟩

/-- Segments that take such parts of others and come before them clash with them, unless the value is the text
of one of their literals. Where the two first differ in rank, such a literal would stand against a capture; what
remains is a single part against a tail. -/
theorem Segment.clashes_of_before {taken : Taken} (new : literal value ∉ others)
    (takes : Takes others (segments.map (sample value)) taken) (before : RankedBefore rank others segments) :
    TreeKey.clashes (others.map toTree) (segments.map toTree) = true := by
  induction before generalizing taken with
  | @here other segment others segments less =>
    cases segment with
    | literal text => exact absurd less (Nat.not_lt_zero _)
    | capture name kind =>
      cases other with
      | literal text =>
        cases takes
        exact absurd List.mem_cons_self new
      | capture own ownKind =>
        obtain ⟨single, rfl⟩ : ownKind ≠ .tail ∧ kind = .tail := by
          simp only [rank] at less
          split at less <;> split at less <;> simp_all
        rw [List.map_cons, toTree_of_ne_tail single]
        rfl
  | @there other segment others segments same before ih =>
    have newRest : literal value ∉ others := fun member => new (List.mem_cons_of_mem _ member)
    cases segment with
    | literal text =>
      cases takes with
      | literal takes => simpa [toTree, sample, TreeKey.clashes] using ih newRest takes
      | one single => exact absurd same (by simp [rank, single])
      | tail => cases before
    | capture name kind =>
      cases takes with
      | literal takes => exact absurd same (by simp only [rank]; split <;> simp)
      | one single _ takes =>
        have alsoSingle : kind ≠ .tail := by
          rintro rfl
          simp [rank, single] at same
        simpa [toTree_of_ne_tail single, toTree_of_ne_tail alsoSingle, TreeKey.clashes] using ih newRest takes
      | tail => cases before

end Sample

variable {α : Type} {registrations : List (Registration α)} {table : RouteTable α}

/-- A path with a value that is no literal of any pattern is that of one pattern alone. -/
theorem RouteTable.Holds.best_of_sample (holds : table.Holds registrations) (indexed : table.Indexed)
    {pattern : RoutePattern} (registered : pattern.Registered registrations) {value : String}
    (new : ∀ other ∈ table.patterns, .literal value ∉ other.segments) {taken : Taken}
    (takes : Segment.Takes pattern.segments (pattern.segments.map (Segment.sample value)) taken)
    (split : pathParts? (pattern.samplePath value) = some (pattern.segments.map (Segment.sample value))) :
    pattern.Best registrations (pattern.samplePath value) taken := by
  apply holds.best_of_first indexed registered ⟨_, split, takes⟩
  rintro other ⟨otherRegistered, also, parts, otherSplit, otherTakes⟩ before
  rw [split, Option.some.injEq] at otherSplit
  subst otherSplit
  have member := (holds.mem_patterns_iff indexed).mpr registered
  have otherMember := (holds.mem_patterns_iff indexed).mpr otherRegistered
  have clash := Segment.clashes_of_before (new other otherMember) otherTakes before
  by_cases same : other.source = pattern.source
  · have parsed := indexed.parsed other otherMember
    rw [same, indexed.parsed pattern member, Except.ok.injEq] at parsed
    subst parsed
    exact before.asymm before
  · have apart := indexed.patterns_apart otherMember member same _ (Segment.map_toTree_mem_keys _) _
      (Segment.map_toTree_mem_keys _)
    rw [clash] at apart
    cases apart

/-- No route that is accepted is dead: whatever else is registered, there is a path for which the lookup finds
its handler, with what its pattern captures from the path. -/
theorem RouteTable.registered_found (accepted : ofRegistrations registrations = .ok table) :
    ∀ entry ∈ registrations, ∃ pattern path taken captures, RoutePattern.parse entry.pattern = .ok pattern ∧
      pattern.Takes path taken ∧ taken.decode? = some captures ∧
      captures.map (·.1) = pattern.segments.flatMap Segment.names ∧
      table.lookup entry.method path = .found entry.handler captures := by
  intro entry member
  obtain ⟨indexed, holds⟩ := ofRegistrations_sound accepted
  obtain ⟨pattern, opens⟩ := ofRegistrations_opens accepted entry member
  obtain ⟨source, -, some, proper⟩ := RoutePattern.parse_eq_ok_iff.mp opens.parsed
  obtain ⟨value, new, reads⟩ := exists_new_value
    ((table.patterns.flatMap (·.segments)).map (Segment.sample ""))
  have noLiteral : ∀ other ∈ table.patterns, .literal value ∉ other.segments := by
    intro other inside literal
    exact new (List.mem_map.mpr ⟨.literal value, List.mem_flatMap.mpr ⟨other, inside, literal⟩, rfl⟩)
  obtain ⟨whole, taken, takes, decoded⟩ := Segment.yields_sample reads proper
  have split := pathParts?_slashed (by simpa using some) whole
  have best := holds.best_of_sample indexed ⟨entry, member, opens.parsed⟩ noLiteral takes split
  have answer := holds.lookup_of_best indexed best entry.method
  rw [decoded, Lookup.IsOf, if_neg opens.method, source] at answer
  exact ⟨pattern, _, taken, _, opens.parsed, best.takes, decoded, by simp [Function.comp_def],
    answer.1 entry.handler member⟩

/-- Literals that stand in the way of a capture, and a tail behind it. -/
def crowdedRoutes : List (Registration Nat) := [
  ⟨"GET", "/item/a", 1⟩,
  ⟨"GET", "/item/aa", 2⟩,
  ⟨"GET", "/item/\x7bid:media_id\x7d", 3⟩,
  ⟨"GET", "/\x7brest:*\x7d", 4⟩]

theorem crowdedRoutes_found : ∃ table, RouteTable.ofRegistrations crowdedRoutes = .ok table ∧
    ⟨"GET", "/item/\x7bid:media_id\x7d", 3⟩ ∈ crowdedRoutes ∧
      ∃ path captures, table.lookup "GET" path = .found 3 captures := by
  have made : (RouteTable.ofRegistrations crowdedRoutes).toOption.isSome = true := by decide +kernel
  obtain ⟨table, some⟩ := Option.isSome_iff_exists.mp made
  have accepted := eq_ok_of_toOption some
  have member : ⟨"GET", "/item/\x7bid:media_id\x7d", 3⟩ ∈ crowdedRoutes := by simp [crowdedRoutes]
  obtain ⟨_, path, _, captures, _, _, _, _, found⟩ := RouteTable.registered_found accepted _ member
  exact ⟨table, accepted, member, path, captures, found⟩

end MediaServer
