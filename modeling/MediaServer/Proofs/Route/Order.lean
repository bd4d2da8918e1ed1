import Mathlib.Data.List.Perm.Basic
import MediaServer.Proofs.Route.Acceptance
import MediaServer.Proofs.Route.BestMatch

namespace MediaServer

variable {α : Type}

/-- Registrations that can stand in one table: each can be accepted on its own, no method is named twice
for a pattern, and patterns of different texts keep apart. Nothing of this depends on their order. -/
structure Registration.Compatible (registrations : List (Registration α)) : Prop where
  opens : ∀ entry ∈ registrations, ∃ pattern, entry.Opens pattern
  once : (registrations.map fun entry => (entry.method, entry.pattern)).Nodup
  apart : ∀ pattern other : RoutePattern, pattern.Registered registrations → other.Registered registrations →
    pattern.source ≠ other.source → pattern.Apart other

section Compatible

variable {registrations others : List (Registration α)} {table : RouteTable α} {entry : Registration α}
  {pattern : RoutePattern}

theorem RoutePattern.Registered.mono (registered : pattern.Registered registrations)
    (within : registrations ⊆ others) : pattern.Registered others := by
  obtain ⟨entry, member, parsed⟩ := registered
  exact ⟨entry, within member, parsed⟩

theorem Registration.Compatible.perm (compatible : Registration.Compatible registrations)
    (perm : registrations.Perm others) : Registration.Compatible others where
  opens entry member := compatible.opens entry (perm.mem_iff.mpr member)
  once := (perm.map _).nodup_iff.mp compatible.once
  apart pattern other registered otherRegistered :=
    compatible.apart pattern other (registered.mono perm.symm.subset) (otherRegistered.mono perm.symm.subset)

theorem RouteTable.Indexed.patterns_apart (indexed : table.Indexed) {other : RoutePattern}
    (member : pattern ∈ table.patterns) (otherMember : other ∈ table.patterns)
    (different : pattern.source ≠ other.source) : pattern.Apart other := by
  intro key inside otherKey otherInside
  obtain ⟨number, place⟩ := List.mem_iff_getElem?.mp member
  obtain ⟨otherNumber, otherPlace⟩ := List.mem_iff_getElem?.mp otherMember
  have entry := indexed.mem_tree_iff.mpr ⟨pattern, place, inside⟩
  have otherEntry := indexed.mem_tree_iff.mpr ⟨other, otherPlace, otherInside⟩
  apply indexed.apart _ entry _ otherEntry
  intro same
  obtain rfl : number = otherNumber := same
  rw [place, Option.some.injEq] at otherPlace
  exact different (congrArg RoutePattern.source otherPlace)

/-- What is accepted is compatible. -/
theorem RouteTable.ofRegistrations_compatible (accepted : ofRegistrations registrations = .ok table) :
    Registration.Compatible registrations := by
  obtain ⟨indexed, holds⟩ := ofRegistrations_sound accepted
  refine ⟨ofRegistrations_opens accepted, ofRegistrations_once accepted, ?_⟩
  intro pattern other registered otherRegistered different
  exact indexed.patterns_apart ((holds.mem_patterns_iff indexed).mpr registered)
    ((holds.mem_patterns_iff indexed).mpr otherRegistered) different

/-- A registration is accepted if its pattern has no handler for its method and keeps apart from the
patterns of other texts. -/
theorem RouteTable.Indexed.add_ok (indexed : table.Indexed) (opens : entry.Opens pattern)
    (fresh : ∀ slot ∈ table.slots, slot.pattern.source = entry.pattern →
      slot.handlers.lookup entry.method = none)
    (apart : ∀ other ∈ table.patterns, other.source ≠ entry.pattern → other.Apart pattern) :
    ∃ grown, table.add entry.method entry.pattern entry.handler = .ok grown := by
  rcases known : table.byPattern.lookup entry.pattern with _ | number
  · have new := indexed.of_lookup_none known
    exact ⟨_, indexed.add_of_apart opens fun other member => apart other member (new other member)⟩
  · obtain ⟨slot, found, source⟩ := indexed.of_lookup known
    have unhandled := fresh slot (List.mem_of_getElem? found) source
    rw [RouteTable.add, if_neg opens.method, slotFor, known]
    simp only [Except.bind, found, unhandled, Option.isSome_none, Bool.false_eq_true, if_false]
    exact ⟨_, rfl⟩

/-- Compatible registrations are accepted one after the other, in whatever order they stand. -/
theorem RouteTable.ofRegistrations_of_compatible (compatible : Registration.Compatible registrations) :
    ∃ table, ofRegistrations registrations = .ok table := by
  induction registrations using List.reverseRecOn with
  | nil => exact ⟨.empty, rfl⟩
  | append_singleton registrations entry ih =>
    have within : registrations ⊆ registrations ++ [entry] := List.subset_append_left _ _
    have once := compatible.once
    rw [List.map_append, List.map_singleton, ← List.concat_eq_append, List.nodup_concat] at once
    have before : Registration.Compatible registrations :=
      ⟨fun other member => compatible.opens other (within member), once.2,
        fun pattern other registered otherRegistered =>
          compatible.apart pattern other (registered.mono within) (otherRegistered.mono within)⟩
    obtain ⟨table, made⟩ := ih before
    obtain ⟨indexed, holds⟩ := ofRegistrations_sound made
    obtain ⟨pattern, opens⟩ := compatible.opens entry (by simp)
    have source := (RoutePattern.parse_eq_ok_iff.mp opens.parsed).1
    have registered : pattern.Registered (registrations ++ [entry]) := ⟨entry, by simp, opens.parsed⟩
    have added : ∃ grown, table.add entry.method entry.pattern entry.handler = .ok grown := by
      apply indexed.add_ok opens
      · intro slot member same
        obtain ⟨number, place⟩ := List.mem_iff_getElem?.mp member
        rcases handled : slot.handlers.lookup entry.method with _ | handler
        · rfl
        · have earlier := (holds.handler_iff indexed place).mp handled
          exact absurd (List.mem_map.mpr ⟨_, earlier, by rw [same]⟩) once.1
      · intro other member different
        have otherRegistered := ((holds.mem_patterns_iff indexed).mp member).mono within
        exact compatible.apart other pattern otherRegistered registered (by rwa [source])
    obtain ⟨grown, grows⟩ := added
    exact ⟨grown, by rw [ofRegistrations_concat, made]; exact grows⟩

theorem RouteTable.Holds.perm (holds : table.Holds registrations) (perm : registrations.Perm others) :
    table.Holds others where
  filled := holds.filled
  once := holds.once
  noOptions := holds.noOptions
  registered entry := perm.mem_iff.symm.trans (holds.registered entry)

theorem RouteTable.Holds.mem_routes_iff (holds : table.Holds registrations) {route : String × String} :
    route ∈ table.routes ↔ route ∈ registrations.map fun entry => (entry.method, entry.pattern) := by
  obtain ⟨method, text⟩ := route
  rw [routes, List.mem_flatMap, List.mem_map]
  constructor
  · intro listed
    obtain ⟨slot, member, inside⟩ := listed
    obtain ⟨⟨_, handler⟩, handled, same⟩ := List.mem_map.mp inside
    cases same
    exact ⟨⟨method, slot.pattern.source, handler⟩, (holds.registered _).mpr ⟨slot, member, rfl, handled⟩, rfl⟩
  · intro registered
    obtain ⟨entry, member, same⟩ := registered
    cases same
    obtain ⟨slot, inside, source, handled⟩ := (holds.registered entry).mp member
    exact ⟨slot, inside, List.mem_map.mpr ⟨_, handled, by rw [source]⟩⟩

theorem RouteTable.Holds.routes_nodup (holds : table.Holds registrations) (indexed : table.Indexed) :
    table.routes.Nodup := by
  have distinct : table.slots.Pairwise fun slot other => slot.pattern.source ≠ other.pattern.source := by
    have sources := indexed.distinct
    rw [patterns, List.map_map] at sources
    exact List.pairwise_map.mp sources
  rw [routes, List.nodup_flatMap]
  constructor
  · intro slot member
    have methods := (holds.once slot member).map fun _ _ same =>
      congrArg Prod.fst (show (_, slot.pattern.source) = (_, slot.pattern.source) from same)
    rw [List.map_map] at methods
    exact methods
  · refine distinct.imp fun {slot other} different => ?_
    intro route inside otherInside
    obtain ⟨_, _, rfl⟩ := List.mem_map.mp inside
    obtain ⟨_, _, same⟩ := List.mem_map.mp otherInside
    exact different (congrArg Prod.snd same).symm

/-- The routes of a table are its registrations, each once. -/
theorem RouteTable.Holds.routes_perm (holds : table.Holds registrations) (indexed : table.Indexed)
    (once : (registrations.map fun entry => (entry.method, entry.pattern)).Nodup) :
    table.routes.Perm (registrations.map fun entry => (entry.method, entry.pattern)) :=
  (List.perm_ext_iff_of_nodup (holds.routes_nodup indexed) once).mpr fun _ => holds.mem_routes_iff

theorem Lookup.IsOf.unique {method : String} {captures? : Option Captures} {answer other : Lookup α}
    (isOf : Lookup.IsOf registrations method pattern captures? answer)
    (otherIsOf : Lookup.IsOf registrations method pattern captures? other) : answer = other := by
  rcases captures? with _ | captures
  · exact isOf.trans otherIsOf.symm
  · simp only [IsOf] at isOf otherIsOf
    by_cases options : method = "OPTIONS"
    · rw [if_pos options] at isOf otherIsOf
      exact isOf.trans otherIsOf.symm
    · rw [if_neg options] at isOf otherIsOf
      by_cases handled : ∃ handler, ⟨method, pattern.source, handler⟩ ∈ registrations
      · obtain ⟨handler, member⟩ := handled
        exact (isOf.1 handler member).trans (otherIsOf.1 handler member).symm
      · have absent := not_exists.mp handled
        exact (isOf.2 absent).trans (otherIsOf.2 absent).symm

/-- Two tables that hold the same registrations answer alike. -/
theorem RouteTable.Holds.lookup_eq {other : RouteTable α} (holds : table.Holds registrations)
    (indexed : table.Indexed) (otherHolds : other.Holds registrations) (otherIndexed : other.Indexed)
    (method path : String) : table.lookup method path = other.lookup method path := by
  by_cases fits : ∃ pattern : RoutePattern, pattern.Matches registrations path
  · obtain ⟨pattern, fits⟩ := fits
    obtain ⟨found, searched⟩ := holds.search_isSome indexed fits
    obtain ⟨best, taken, least, _⟩ := holds.best_of_search indexed searched
    exact (holds.lookup_of_best indexed least method).unique
      (otherHolds.lookup_of_best otherIndexed least method)
  · have none := not_exists.mp fits
    rw [(holds.lookup_of_none indexed none method).2, (otherHolds.lookup_of_none otherIndexed none method).2]

end Compatible

/-- The order of registrations does not matter: all are accepted in one order exactly if they are in every
other, and the tables then list the same routes and give the same answers. -/
theorem RouteTable.ofRegistrations_perm {registrations others : List (Registration α)}
    (perm : registrations.Perm others) :
    ((∃ table, ofRegistrations registrations = .ok table) ↔ ∃ table, ofRegistrations others = .ok table) ∧
    ∀ table other, ofRegistrations registrations = .ok table → ofRegistrations others = .ok other →
      table.size = other.size ∧ table.routes.Perm other.routes ∧
        (∀ route, route ∈ table.routes ↔ route ∈ other.routes) ∧
        ∀ method path, table.lookup method path = other.lookup method path := by
  constructor
  · constructor
    · intro made
      obtain ⟨table, accepted⟩ := made
      exact ofRegistrations_of_compatible ((ofRegistrations_compatible accepted).perm perm)
    · intro made
      obtain ⟨table, accepted⟩ := made
      exact ofRegistrations_of_compatible ((ofRegistrations_compatible accepted).perm perm.symm)
  · intro table other accepted otherAccepted
    obtain ⟨indexed, holds⟩ := ofRegistrations_sound accepted
    obtain ⟨otherIndexed, otherHolds⟩ := ofRegistrations_sound otherAccepted
    have moved := holds.perm perm
    have once := ofRegistrations_once otherAccepted
    have routes := (moved.routes_perm indexed once).trans (otherHolds.routes_perm otherIndexed once).symm
    refine ⟨?_, routes, fun route => routes.mem_iff, moved.lookup_eq indexed otherHolds otherIndexed⟩
    rw [size_eq_length_routes, size_eq_length_routes, routes.length_eq]

/-- A tail, one part before it, and two methods for one pattern. -/
def sharedRoutes : List (Registration Nat) := [
  ⟨"GET", "/item/{id:media_id}", 1⟩,
  ⟨"GET", "/{rest:*}", 2⟩,
  ⟨"PUT", "/item/{id:media_id}", 3⟩]

theorem sharedRoutes_reversed : ∃ table other : RouteTable Nat,
    RouteTable.ofRegistrations sharedRoutes = .ok table ∧
      RouteTable.ofRegistrations sharedRoutes.reverse = .ok other ∧
      table.size = other.size ∧ table.lookup "PUT" "/item/a%2Db" = other.lookup "PUT" "/item/a%2Db" := by
  have perm : sharedRoutes.Perm sharedRoutes.reverse := (List.reverse_perm _).symm
  obtain ⟨accepts, alike⟩ := RouteTable.ofRegistrations_perm perm
  have made : (RouteTable.ofRegistrations sharedRoutes).toOption.isSome = true := by decide +kernel
  obtain ⟨table, some⟩ := Option.isSome_iff_exists.mp made
  have accepted := eq_ok_of_toOption some
  obtain ⟨other, otherAccepted⟩ := accepts.mp ⟨table, accepted⟩
  obtain ⟨size, _, _, answers⟩ := alike table other accepted otherAccepted
  exact ⟨table, other, accepted, otherAccepted, size, answers _ _⟩

end MediaServer
