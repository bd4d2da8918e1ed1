import Mathlib.Data.List.Nodup
import MediaServer.Proofs.Route.Registration
import MediaServer.Proofs.Route.Shape

namespace MediaServer

/-- The shape of the pattern is that of the path, and its captures take these texts from it. -/
def RoutePattern.Takes (pattern : RoutePattern) (path : String) (taken : Taken) : Prop :=
  ∃ parts, pathParts? path = some parts ∧ Segment.Takes pattern.segments parts taken

/-- Where the two first differ, a literal comes before a capture and a capture before a tail. -/
def RoutePattern.Before (pattern other : RoutePattern) : Prop :=
  RankedBefore Segment.rank pattern.segments other.segments

theorem Segment.Takes.unique {segments : List Segment} {parts : List String} {taken also : Taken}
    (takes : Takes segments parts taken) (again : Takes segments parts also) : taken = also := by
  induction takes generalizing also with
  | done =>
    cases again
    rfl
  | literal _ ih =>
    cases again with
    | literal again => exact ih again
  | one single _ _ ih =>
    cases again with
    | one _ _ again => rw [ih again]
    | tail => exact absurd rfl single
  | tail =>
    cases again with
    | one single => exact absurd rfl single
    | tail => rfl

theorem RoutePattern.Takes.unique {pattern : RoutePattern} {path : String} {taken also : Taken}
    (takes : pattern.Takes path taken) (again : pattern.Takes path also) : taken = also := by
  obtain ⟨parts, split, takes⟩ := takes
  obtain ⟨parts₂, split₂, again⟩ := again
  rw [split, Option.some.injEq] at split₂
  subst split₂
  exact takes.unique again

/-- A name that is given nothing reads like one that is given the empty text. -/
theorem Taken.agree {taken : Taken} (once : (taken.map (·.1)).Nodup) {params : List (String × String)}
    (same : taken.params = params ∨ ∃ name, taken.params = params ++ [(name, "")]) :
    ∀ entry ∈ taken, (params.lookup entry.1).getD "" = entry.2.2 := by
  intro entry member
  have names : taken.params.map (·.1) = taken.map (·.1) := by simp [Taken.params, Function.comp_def]
  have given : taken.params.lookup entry.1 = some entry.2.2 :=
    lookup_of_mem (by rwa [names]) (List.mem_map.mpr ⟨entry, member, rfl⟩)
  rcases same with same | ⟨name, same⟩
  · rw [← same, given, Option.getD_some]
  · rw [same, List.lookup_append] at given
    rcases first : params.lookup entry.1 with _ | text
    · rw [first, Option.none_or, lookup_cons_if] at given
      split at given
      · exact Option.some.inj given
      · cases given
    · rw [first] at given
      exact Option.some.inj given

variable {α : Type} {table : RouteTable α} {path : String}

theorem RouteTable.Indexed.mem_tree_iff (indexed : table.Indexed) {key : TreeKey} {number : Nat} :
    (key, number) ∈ table.tree ↔
      ∃ pattern, table.patterns[number]? = some pattern ∧ key ∈ Segment.keys pattern.segments := by
  rw [indexed.tree, List.mem_flatMap]
  constructor
  · rintro ⟨⟨pattern, place⟩, within, member⟩
    obtain ⟨below, inside, entry⟩ := List.mem_map.mp member
    simp only [Prod.mk.injEq] at entry
    obtain ⟨rfl, rfl⟩ := entry
    exact ⟨pattern, List.mem_zipIdx_iff_getElem?.mp within, inside⟩
  · rintro ⟨pattern, found, inside⟩
    exact ⟨(pattern, number), List.mem_zipIdx_iff_getElem?.mpr found, List.mem_map.mpr ⟨key, inside, rfl⟩⟩

theorem RouteTable.Indexed.search_none (indexed : table.Indexed) (missed : table.tree.search path = none) :
    ∀ pattern ∈ table.patterns, ∀ taken, ¬ pattern.Takes path taken := by
  rintro pattern member taken ⟨parts, split, takes⟩
  obtain ⟨number, found⟩ := List.mem_iff_getElem?.mp member
  obtain ⟨key, inside, params, keyTakes⟩ := takes.key
  have answer := table.tree.entrance.search_answers parts
  rw [RouteTree.search_eq, split, Option.bind_some] at missed
  rw [missed] at answer
  refine answer key ⟨number, params⟩ (RouteTree.gives_iff.mpr ⟨?_, keyTakes⟩)
  exact indexed.mem_tree_iff.mpr ⟨pattern, found, inside⟩

/-- The tree leads to the pattern that comes first of those that take the path, with texts from
which its captures are read. -/
theorem RouteTable.Indexed.search_some (indexed : table.Indexed) {found : TreeMatch}
    (hit : table.tree.search path = some found) :
    ∃ best taken, table.patterns[found.slot]? = some best ∧ best.Takes path taken ∧
      best.captures? found.params = taken.decode? ∧
      ∀ other ∈ table.patterns, ∀ also, other.Takes path also → other ≠ best → best.Before other := by
  rw [RouteTree.search_eq] at hit
  obtain ⟨parts, split, searched⟩ := Option.bind_eq_some_iff.mp hit
  have answer := table.tree.entrance.search_answers parts
  rw [searched] at answer
  obtain ⟨key, gives, least⟩ := answer
  obtain ⟨entry, keyTakes⟩ := RouteTree.gives_iff.mp gives
  obtain ⟨best, place, inside⟩ := indexed.mem_tree_iff.mp entry
  obtain ⟨_, _, _, proper⟩ := RoutePattern.parse_eq_ok_iff.mp (indexed.parsed best (List.mem_of_getElem? place))
  obtain ⟨taken, takes, same⟩ := Segment.takes_of_key proper inside keyTakes
  have once : (taken.map (·.1)).Nodup := by
    rw [takes.names]
    exact proper.distinct
  refine ⟨best, taken, place, ⟨parts, split, takes⟩, takes.captured (Taken.agree once same), ?_⟩
  rintro other member also ⟨parts₂, split₂, otherTakes⟩ different
  rw [split, Option.some.injEq] at split₂
  subst split₂
  obtain ⟨number, otherPlace⟩ := List.mem_iff_getElem?.mp member
  obtain ⟨otherKey, otherInside, params, otherKeyTakes⟩ := otherTakes.key
  have otherEntry := indexed.mem_tree_iff.mpr ⟨other, otherPlace, otherInside⟩
  have notBefore := least otherKey ⟨number, params⟩ (RouteTree.gives_iff.mpr ⟨otherEntry, otherKeyTakes⟩)
  have elsewhere : found.slot ≠ number := by
    rintro rfl
    rw [place, Option.some.injEq] at otherPlace
    exact different otherPlace.symm
  have free := indexed.apart _ entry _ otherEntry elsewhere
  by_cases first : RankedBefore TreeSegment.rank key otherKey
  · exact Segment.before_of_keys inside otherInside keyTakes otherKeyTakes first
  · have clash := keyTakes.clashes otherKeyTakes first notBefore
    simp [free] at clash

/-- One of these registrations is for the pattern, and its shape is that of the path. -/
def RoutePattern.Matches (registrations : List (Registration α)) (path : String)
    (pattern : RoutePattern) : Prop :=
  pattern.Registered registrations ∧ ∃ taken, pattern.Takes path taken

/-- The matching pattern that comes before all others, and what its captures take. -/
structure RoutePattern.Best (registrations : List (Registration α)) (path : String)
    (best : RoutePattern) (taken : Taken) : Prop where
  registered : best.Registered registrations
  takes : best.Takes path taken
  first : ∀ other : RoutePattern, other.Matches registrations path → other ≠ best → best.Before other

theorem RoutePattern.Best.unique {registrations : List (Registration α)} {best other : RoutePattern}
    {taken also : Taken} (least : best.Best registrations path taken)
    (alsoLeast : other.Best registrations path also) : other = best ∧ also = taken := by
  have same : other = best := by
    apply Classical.byContradiction
    intro different
    have before := least.first other ⟨alsoLeast.registered, also, alsoLeast.takes⟩ different
    have after := alsoLeast.first best ⟨least.registered, taken, least.takes⟩ fun same => different same.symm
    exact before.asymm after
  subst same
  exact ⟨rfl, alsoLeast.takes.unique least.takes⟩

/-- What a request gets from the pattern that takes its path: nothing if a capture has no value, else
what is registered for its method and this pattern. -/
def Lookup.IsOf (registrations : List (Registration α)) (method : String) (best : RoutePattern) :
    Option Captures → Lookup α → Prop
  | none, answer => answer = .notFound
  | some captures, answer =>
    if method = "OPTIONS" then answer = .preflight
    else
      (∀ handler, ⟨method, best.source, handler⟩ ∈ registrations → answer = .found handler captures) ∧
        ((∀ handler, ⟨method, best.source, handler⟩ ∉ registrations) → answer = .methodNotAllowed)

variable {registrations : List (Registration α)}

/-- A slot knows exactly the handlers that are registered for its pattern. -/
theorem RouteTable.Holds.handler_iff (holds : table.Holds registrations) (indexed : table.Indexed)
    {number : Nat} {slot : RouteSlot α} (place : table.slots[number]? = some slot) {method : String}
    {handler : α} :
    slot.handlers.lookup method = some handler ↔ ⟨method, slot.pattern.source, handler⟩ ∈ registrations := by
  have member := List.mem_of_getElem? place
  rw [holds.registered]
  constructor
  · intro found
    exact ⟨slot, member, rfl, mem_of_lookup found⟩
  · rintro ⟨other, within, source, handled⟩
    have distinct : (table.slots.map (·.pattern.source)).Nodup := by
      simpa [patterns, Function.comp_def] using indexed.distinct
    obtain rfl := List.inj_on_of_nodup_map distinct within member source
    exact lookup_of_mem (holds.once other member) handled

theorem RouteTable.Holds.registered_of_found (holds : table.Holds registrations) (indexed : table.Indexed)
    {method : String} {handler : α} {captures : Captures}
    (found : table.lookup method path = .found handler captures) :
    ∃ entry ∈ registrations, entry.handler = handler := by
  unfold lookup at found
  split at found
  · cases found
  split at found
  · cases found
  rename_i slot place
  split at found
  · cases found
  unfold RouteSlot.lookup at found
  split at found
  · cases found
  split at found
  · rename_i handled
    cases found
    exact ⟨_, (holds.handler_iff indexed place).mp handled, rfl⟩
  · cases found

/-- Whatever the tree finds is the best match. -/
theorem RouteTable.Holds.best_of_search (holds : table.Holds registrations) (indexed : table.Indexed)
    {found : TreeMatch} (hit : table.tree.search path = some found) :
    ∃ best taken, best.Best registrations path taken ∧ table.patterns[found.slot]? = some best ∧
      best.captures? found.params = taken.decode? := by
  obtain ⟨best, taken, place, takes, captured, first⟩ := indexed.search_some hit
  have registered := (holds.mem_patterns_iff indexed).mp (List.mem_of_getElem? place)
  refine ⟨best, taken, ⟨registered, takes, ?_⟩, place, captured⟩
  rintro other ⟨otherRegistered, also, otherTakes⟩
  exact first other ((holds.mem_patterns_iff indexed).mpr otherRegistered) also otherTakes

theorem RouteTable.Holds.search_isSome (holds : table.Holds registrations) (indexed : table.Indexed)
    {pattern : RoutePattern} (fits : pattern.Matches registrations path) :
    ∃ found, table.tree.search path = some found := by
  obtain ⟨registered, taken, takes⟩ := fits
  rcases searched : table.tree.search path with _ | found
  · have member := (holds.mem_patterns_iff indexed).mpr registered
    exact absurd takes (indexed.search_none searched pattern member taken)
  · exact ⟨found, rfl⟩

/-- A pattern that takes a path is the best one if none that takes it comes before. -/
theorem RouteTable.Holds.best_of_first (holds : table.Holds registrations) (indexed : table.Indexed)
    {own : RoutePattern} {taken : Taken} (registered : own.Registered registrations) (takes : own.Takes path taken)
    (first : ∀ other : RoutePattern, other.Matches registrations path → ¬ other.Before own) :
    own.Best registrations path taken := by
  obtain ⟨found, searched⟩ := holds.search_isSome indexed ⟨registered, taken, takes⟩
  obtain ⟨best, also, least, _⟩ := holds.best_of_search indexed searched
  by_cases same : own = best
  · subst same
    obtain rfl := least.takes.unique takes
    exact least
  · have before := least.first own ⟨registered, taken, takes⟩ same
    exact absurd before (first best ⟨least.registered, also, least.takes⟩)

theorem RouteTable.Holds.lookup_of_best (holds : table.Holds registrations) (indexed : table.Indexed)
    {best : RoutePattern} {taken : Taken} (least : best.Best registrations path taken) (method : String) :
    Lookup.IsOf registrations method best taken.decode? (table.lookup method path) := by
  obtain ⟨found, searched⟩ := holds.search_isSome indexed ⟨least.registered, taken, least.takes⟩
  obtain ⟨other, also, alsoLeast, place, captured⟩ := holds.best_of_search indexed searched
  obtain ⟨rfl, rfl⟩ := least.unique alsoLeast
  obtain ⟨slot, slotPlace, rfl⟩ := getElem?_patterns.mp place
  simp only [lookup, searched, slotPlace, captured]
  rcases also.decode? with _ | captures
  · rfl
  · unfold Lookup.IsOf RouteSlot.lookup
    by_cases options : method = "OPTIONS"
    · simp only [if_pos options]
    · simp only [if_neg options]
      constructor
      · intro handler member
        rw [(holds.handler_iff indexed slotPlace).mpr member]
      · intro absent
        rcases handled : slot.handlers.lookup method with _ | handler
        · rfl
        · exact absurd ((holds.handler_iff indexed slotPlace).mp handled) (absent handler)

theorem RouteTable.Holds.lookup_of_none (holds : table.Holds registrations) (indexed : table.Indexed)
    (none : ∀ pattern : RoutePattern, ¬ pattern.Matches registrations path) (method : String) :
    table.tree.search path = .none ∧ table.lookup method path = .notFound := by
  have missed : table.tree.search path = .none := by
    rcases searched : table.tree.search path with _ | found
    · rfl
    · obtain ⟨best, taken, least, _⟩ := holds.best_of_search indexed searched
      exact absurd ⟨least.registered, taken, least.takes⟩ (none best)
  exact ⟨missed, by simp only [lookup, missed]⟩

/-- A lookup answers for the best match among the registered patterns. If none of them takes the path,
it is not found; else one comes before all others, the tree leads to its slot, and the answer is that of
its captures and its handlers. Every number in the tree is that of a slot with the key that leads there. -/
theorem RouteTable.lookup_best_match (accepted : ofRegistrations registrations = .ok table)
    (method path : String) :
    (∀ entry ∈ table.tree, ∃ slot, table.slots[entry.2]? = some slot ∧
      entry.1 ∈ Segment.keys slot.pattern.segments) ∧
    ((∀ pattern : RoutePattern, ¬ pattern.Matches registrations path) →
      table.tree.search path = none ∧ table.lookup method path = .notFound) ∧
    ((∃ pattern : RoutePattern, pattern.Matches registrations path) →
      ∃ best taken, best.Best registrations path taken ∧
        (∀ other also, other.Best registrations path also → other = best ∧ also = taken) ∧
        (∃ found slot, table.tree.search path = some found ∧ table.slots[found.slot]? = some slot ∧
          slot.pattern = best) ∧
        Lookup.IsOf registrations method best taken.decode? (table.lookup method path)) := by
  obtain ⟨indexed, holds⟩ := ofRegistrations_sound accepted
  refine ⟨?_, fun none => holds.lookup_of_none indexed none method, ?_⟩
  · rintro ⟨key, number⟩ member
    obtain ⟨pattern, place, inside⟩ := indexed.mem_tree_iff.mp member
    obtain ⟨slot, found, rfl⟩ := getElem?_patterns.mp place
    exact ⟨slot, found, inside⟩
  · rintro ⟨pattern, fits⟩
    obtain ⟨found, searched⟩ := holds.search_isSome indexed fits
    obtain ⟨best, taken, least, place, _⟩ := holds.best_of_search indexed searched
    obtain ⟨slot, slotPlace, same⟩ := getElem?_patterns.mp place
    exact ⟨best, taken, least, fun other also alsoLeast => least.unique alsoLeast,
      ⟨found, slot, searched, slotPlace, same⟩, holds.lookup_of_best indexed least method⟩

/-- Three patterns that all take the path `/item/new`. -/
def overlappingRoutes : List (Registration Nat) := [
  ⟨"GET", "/\x7brest:*\x7d", 1⟩,
  ⟨"GET", "/item/\x7bid:media_id\x7d", 2⟩,
  ⟨"PUT", "/item/new", 3⟩]

theorem overlappingRoutes_best_match : ∃ table : RouteTable Nat,
    RouteTable.ofRegistrations overlappingRoutes = .ok table ∧
      ∃ best taken, best.Best overlappingRoutes "/item/new" taken ∧
        Lookup.IsOf overlappingRoutes "GET" best taken.decode? (table.lookup "GET" "/item/new") := by
  obtain ⟨table, accepted⟩ : ∃ table, RouteTable.ofRegistrations overlappingRoutes = .ok table := by
    have accepted : (RouteTable.ofRegistrations overlappingRoutes).toOption.isSome = true := by
      decide +kernel
    obtain ⟨table, made⟩ := Option.isSome_iff_exists.mp accepted
    exact ⟨table, eq_ok_of_toOption made⟩
  have fits : RoutePattern.Matches overlappingRoutes "/item/new"
      ⟨"/item/new", [.literal "item", .literal "new"]⟩ := by
    refine ⟨⟨⟨"PUT", "/item/new", 3⟩, by simp [overlappingRoutes], by decide +kernel⟩, [],
      ["item", "new"], by decide +kernel, .literal (.literal .done)⟩
  obtain ⟨best, taken, least, _, _, answer⟩ :=
    (RouteTable.lookup_best_match accepted "GET" "/item/new").2.2 ⟨_, fits⟩
  exact ⟨table, accepted, best, taken, least, answer⟩

end MediaServer
