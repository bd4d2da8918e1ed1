import MediaServer.Proofs.Route.Registration
import MediaServer.Proofs.Route.Shape
import Mathlib.Data.List.Induction
import Mathlib.Data.List.Nodup

namespace MediaServer

/-- No key of the one clashes with a key of the other. -/
def RoutePattern.Apart (pattern other : RoutePattern) : Prop :=
  ∀ key ∈ Segment.keys pattern.segments, ∀ otherKey ∈ Segment.keys other.segments,
    key.clashes otherKey = false

theorem TreeKey.clashes_self (key : TreeKey) : key.clashes key = true := by
  induction key with
  | nil => rfl
  | cons head key ih => cases head <;> simp [clashes, ih]

/-- Keys that begin with the same parts clash as what follows these parts does. -/
theorem TreeKey.clashes_append {front : List Segment} (tailless : ∀ segment ∈ front, segment.isTail = false)
    (key other : TreeKey) :
    clashes (front.map Segment.toTree ++ key) (front.map Segment.toTree ++ other) = key.clashes other := by
  induction front with
  | nil => rfl
  | cons segment front ih =>
    have ⟨one, ones⟩ := List.forall_mem_cons.mp tailless
    cases segment with
    | literal text => simpa [Segment.toTree, clashes] using ih ones
    | capture name kind =>
      have single : kind ≠ .tail := by
        rintro rfl
        simp [Segment.isTail] at one
      simpa [Segment.toTree_of_ne_tail single, clashes] using ih ones

theorem Segment.keys_ne_nil (segments : List Segment) : keys segments ≠ [] := by
  induction segments with
  | nil => exact List.cons_ne_nil _ _
  | cons segment segments ih => simp [keys, ih]

/-- A pattern whose keys clash with none in the tree is taken in; its own two keys never clash. -/
theorem RouteTree.insertPattern?_of_apart {tree : RouteTree} {pattern : RoutePattern}
    (some : pattern.segments ≠ []) (proper : Segment.Proper [] pattern.segments)
    (free : ∀ key ∈ Segment.keys pattern.segments, ∀ entry ∈ tree, TreeKey.clashes key entry.1 = false)
    (slot : Nat) :
    tree.insertPattern? pattern slot =
      .some (tree ++ (Segment.keys pattern.segments).map (·, slot)) := by
  obtain ⟨front, last, split, wellformed, tailless⟩ := proper.split some
  rw [split, Segment.keys_concat tailless, List.forall_mem_cons] at free
  obtain ⟨ownFree, emptyFree⟩ := free
  have own : tree.insert? ((front ++ [last]).map Segment.toTree) slot = .some _ :=
    RouteTree.insert?_eq_some_iff.mpr ⟨ownFree, rfl⟩
  have text := TreeKey.ofText?_treePath some proper
  rw [insertPattern?, insertText?, RoutePattern.treePath, text, Option.bind_some, split, own,
    Option.bind_some, RoutePattern.emptyTailPath?, split, List.getLast?_concat, List.dropLast_concat,
    Segment.keys_concat tailless]
  by_cases tail : last.isTail = true
  · rw [if_pos tail, List.forall_mem_singleton] at emptyFree
    have beside : TreeKey.clashes (front.map Segment.toTree ++ [.literal ""])
        ((front ++ [last]).map Segment.toTree) = false := by
      rw [List.map_append, TreeKey.clashes_append tailless]
      cases last with
      | literal _ => cases tail
      | capture name kind =>
        obtain rfl := Segment.isTail_capture.mp tail
        rfl
    have grownFree : ∀ entry ∈ tree ++ [((front ++ [last]).map Segment.toTree, slot)],
        TreeKey.clashes (front.map Segment.toTree ++ [.literal ""]) entry.1 = false := by
      rw [List.forall_mem_append, List.forall_mem_singleton]
      exact ⟨emptyFree, beside⟩
    have both : RouteTree.insert? _ (front.map Segment.toTree ++ [.literal ""]) slot = .some _ :=
      RouteTree.insert?_eq_some_iff.mpr ⟨grownFree, rfl⟩
    simp only [if_pos tail, insertText?, TreeKey.ofText?_emptyTail wellformed tailless, Option.bind_some,
      both]
    simp
  · simp [if_neg tail]

variable {α : Type}

/-- A registration can be accepted on its own: its text is that of the pattern. -/
structure Registration.Opens (entry : Registration α) (pattern : RoutePattern) : Prop where
  method : entry.method ≠ "OPTIONS"
  parsed : RoutePattern.parse entry.pattern = .ok pattern
  few : pattern.segments.countP (·.isOne) ≤ captureLimit

/-- The slot that a registration gets if its pattern has none yet. -/
def Registration.slot (entry : Registration α) (pattern : RoutePattern) : RouteSlot α :=
  ⟨pattern, [(entry.method, entry.handler)]⟩

variable {table : RouteTable α} {entry : Registration α} {pattern : RoutePattern}

/-- A text of a pattern that keeps apart from all others has no slot yet. -/
theorem RouteTable.Indexed.unknown_of_apart (indexed : table.Indexed) (opens : entry.Opens pattern)
    (apart : ∀ other ∈ table.patterns, other.Apart pattern) : table.byPattern.lookup entry.pattern = none := by
  rcases known : table.byPattern.lookup entry.pattern with _ | number
  · rfl
  · obtain ⟨slot, found, source⟩ := indexed.of_lookup known
    have member : slot.pattern ∈ table.patterns := List.mem_map_of_mem (List.mem_of_getElem? found)
    have parsed := indexed.parsed _ member
    rw [source, opens.parsed] at parsed
    cases parsed
    obtain ⟨key, inside⟩ := List.exists_mem_of_ne_nil _ (Segment.keys_ne_nil slot.pattern.segments)
    have clash := apart _ member key inside key inside
    rw [TreeKey.clashes_self] at clash
    cases clash

/-- A registration whose pattern keeps apart from all others opens a slot. -/
theorem RouteTable.Indexed.add_of_apart (indexed : table.Indexed) (opens : entry.Opens pattern)
    (apart : ∀ other ∈ table.patterns, other.Apart pattern) :
    table.add entry.method entry.pattern entry.handler =
      .ok ⟨table.tree ++ (Segment.keys pattern.segments).map (·, table.slots.length),
        table.slots ++ [entry.slot pattern], table.byPattern ++ [(entry.pattern, table.slots.length)]⟩ := by
  obtain ⟨_, _, some, proper⟩ := RoutePattern.parse_eq_ok_iff.mp opens.parsed
  have free : ∀ key ∈ Segment.keys pattern.segments, ∀ entry ∈ table.tree,
      TreeKey.clashes key entry.1 = false := by
    rintro key inside ⟨other, number⟩ member
    rw [indexed.tree, List.mem_flatMap] at member
    obtain ⟨⟨otherPattern, place⟩, within, entered⟩ := member
    obtain ⟨otherKey, otherInside, same⟩ := List.mem_map.mp entered
    cases same
    rw [TreeKey.clashes_comm]
    exact apart otherPattern (List.mem_of_getElem? (List.mem_zipIdx_iff_getElem?.mp within)) other otherInside
      key inside
  have inserted := RouteTree.insertPattern?_of_apart some proper free table.slots.length
  have few : ¬ captureLimit < pattern.segments.countP (·.isOne) := Nat.not_lt.mpr opens.few
  have opened : table.slotFor entry.pattern = .ok
      (⟨table.tree ++ (Segment.keys pattern.segments).map (·, table.slots.length),
        table.slots ++ [⟨pattern, []⟩], table.byPattern ++ [(entry.pattern, table.slots.length)]⟩,
        table.slots.length) := by
    rw [slotFor, indexed.unknown_of_apart opens apart]
    simp only [RouteTable.open, opens.parsed, if_neg few, inserted]
  rw [RouteTable.add, if_neg opens.method, opened]
  simp [Except.bind, RouteSlot.addHandler, RouteTable.setSlot, Registration.slot]

/-- Registrations with patterns that keep apart are all accepted, each with a slot of its own. -/
theorem RouteTable.Indexed.addAll_of_apart {entries : List (Registration α × RoutePattern)}
    (indexed : table.Indexed) (opens : ∀ entry ∈ entries, entry.1.Opens entry.2)
    (apart : (table.patterns ++ entries.map (·.2)).Pairwise RoutePattern.Apart) :
    ∃ grown, (entries.map (·.1)).foldlM
        (fun table entry => table.add entry.method entry.pattern entry.handler) table = .ok grown ∧
      grown.slots = table.slots ++ entries.map fun entry => entry.1.slot entry.2 := by
  induction entries generalizing table with
  | nil => exact ⟨table, rfl, (List.append_nil _).symm⟩
  | cons entry entries ih =>
    have ⟨here, others⟩ := List.forall_mem_cons.mp opens
    have beside : ∀ other ∈ table.patterns, other.Apart entry.2 := by
      intro other member
      exact (List.pairwise_append.mp apart).2.2 other member entry.2 (by simp)
    have added := indexed.add_of_apart here beside
    generalize opened : RouteTable.mk (_ ++ _) (table.slots ++ [entry.1.slot entry.2]) _ = next at added
    have slots : next.slots = table.slots ++ [entry.1.slot entry.2] := by rw [← opened]
    have patterns : next.patterns = table.patterns ++ [entry.2] := by
      rw [RouteTable.patterns, slots, List.map_append]
      rfl
    have apartNext : (next.patterns ++ entries.map (·.2)).Pairwise RoutePattern.Apart := by
      rw [patterns, List.append_assoc]
      exact apart
    obtain ⟨grown, accepted, more⟩ := ih (indexed.add added) others apartNext
    refine ⟨grown, ?_, ?_⟩
    · rw [List.map_cons, List.foldlM_cons, added]
      exact accepted
    · rw [more, slots, List.map_cons, List.append_assoc, List.singleton_append]

theorem RouteTable.ofRegistrations_of_apart {entries : List (Registration α × RoutePattern)}
    (opens : ∀ entry ∈ entries, entry.1.Opens entry.2)
    (apart : (entries.map (·.2)).Pairwise RoutePattern.Apart) :
    ∃ table, ofRegistrations (entries.map (·.1)) = .ok table ∧
      table.slots = entries.map fun entry => entry.1.slot entry.2 :=
  RouteTable.empty_indexed.addAll_of_apart opens apart

/-- Where each registration has a slot of its own, the routes are the registrations. -/
theorem RouteTable.routes_of_slots {entries : List (Registration α × RoutePattern)}
    (opens : ∀ entry ∈ entries, entry.1.Opens entry.2)
    (slots : table.slots = entries.map fun entry => entry.1.slot entry.2) :
    table.routes = entries.map fun entry => (entry.1.method, entry.1.pattern) := by
  have routed : ∀ entry ∈ entries, (entry.1.slot entry.2).handlers.map (fun handler =>
      (handler.1, (entry.1.slot entry.2).pattern.source)) = [(entry.1.method, entry.1.pattern)] := by
    intro entry member
    rw [← (RoutePattern.parse_eq_ok_iff.mp (opens entry member).parsed).1]
    rfl
  rw [routes, slots, List.flatMap_map, List.flatMap_congr routed, ← List.map_eq_flatMap]

/-- The last registration is accepted into the table of those before it. -/
theorem RouteTable.ofRegistrations_concat {registrations : List (Registration α)} :
    ofRegistrations (registrations ++ [entry]) =
      (ofRegistrations registrations).bind fun table => table.add entry.method entry.pattern entry.handler := by
  rw [ofRegistrations, List.foldlM_append]
  refine bind_congr fun table => ?_
  rw [List.foldlM_cons]
  exact bind_pure _

theorem RouteTable.ofRegistrations_concat_eq_ok {registrations : List (Registration α)}
    (accepted : ofRegistrations (registrations ++ [entry]) = .ok table) :
    ∃ earlier, ofRegistrations registrations = .ok earlier ∧
      earlier.add entry.method entry.pattern entry.handler = .ok table := by
  rw [ofRegistrations_concat] at accepted
  rcases made : ofRegistrations registrations with fault | earlier
  · rw [made] at accepted
    cases accepted
  · rw [made] at accepted
    exact ⟨earlier, rfl, accepted⟩

theorem RouteTable.Indexed.few_add (indexed : table.Indexed)
    (few : ∀ pattern ∈ table.patterns, pattern.segments.countP (·.isOne) ≤ captureLimit)
    {grown : RouteTable α} (added : table.add entry.method entry.pattern entry.handler = .ok grown) :
    ∀ pattern ∈ grown.patterns, pattern.segments.countP (·.isOne) ≤ captureLimit := by
  obtain ⟨_, ⟨number, slot, found, _, _, rfl⟩ | ⟨pattern, tree, _, fewer, _, _, rfl⟩⟩ :=
    indexed.add_cases added
  · have same : (table.setSlot number (slot.addHandler entry.method entry.handler)).patterns = table.patterns :=
      patterns_setSlot found rfl
    rw [same]
    exact few
  · rw [patterns, List.map_append, List.forall_mem_append, List.map_singleton, List.forall_mem_singleton]
    exact ⟨few, fewer⟩

theorem RouteTable.ofRegistrations_few {registrations : List (Registration α)}
    (accepted : ofRegistrations registrations = .ok table) :
    ∀ pattern ∈ table.patterns, pattern.segments.countP (·.isOne) ≤ captureLimit := by
  induction registrations using List.reverseRecOn generalizing table with
  | nil =>
    cases accepted
    simp [empty, patterns]
  | append_singleton registrations entry ih =>
    obtain ⟨earlier, made, added⟩ := ofRegistrations_concat_eq_ok accepted
    exact (ofRegistrations_sound made).1.few_add (ih made) added

/-- What is accepted with others could be accepted on its own. -/
theorem RouteTable.ofRegistrations_opens {registrations : List (Registration α)}
    (accepted : ofRegistrations registrations = .ok table) :
    ∀ entry ∈ registrations, ∃ pattern, entry.Opens pattern := by
  intro entry member
  obtain ⟨indexed, holds⟩ := ofRegistrations_sound accepted
  obtain ⟨slot, within, source, handled⟩ := (holds.registered entry).mp member
  have inside : slot.pattern ∈ table.patterns := List.mem_map_of_mem within
  refine ⟨slot.pattern, ?_, ?_, ofRegistrations_few accepted _ inside⟩
  · intro options
    exact holds.noOptions slot within (options ▸ List.mem_map_of_mem handled)
  · rw [← source]
    exact indexed.parsed _ inside

theorem RouteTable.Indexed.eq_of_source (indexed : table.Indexed) {slot other : RouteSlot α}
    (member : slot ∈ table.slots) (otherMember : other ∈ table.slots)
    (same : slot.pattern.source = other.pattern.source) : slot = other := by
  have distinct := indexed.distinct
  rw [patterns, List.map_map] at distinct
  exact List.inj_on_of_nodup_map distinct member otherMember same

/-- No method is accepted a second time for the text of a pattern. -/
theorem RouteTable.Holds.add_new {registrations : List (Registration α)} (holds : table.Holds registrations)
    (indexed : table.Indexed) {grown : RouteTable α}
    (added : table.add entry.method entry.pattern entry.handler = .ok grown) :
    ∀ other ∈ registrations, (other.method, other.pattern) ≠ (entry.method, entry.pattern) := by
  intro other member same
  obtain ⟨method, pattern⟩ := Prod.mk.inj same
  obtain ⟨slot, within, source, handled⟩ := (holds.registered other).mp member
  rw [pattern] at source
  obtain ⟨_, ⟨number, found, here, its, fresh, _⟩ | ⟨_, _, _, _, new, _⟩⟩ := indexed.add_cases added
  · obtain rfl := indexed.eq_of_source within (List.mem_of_getElem? here) (source.trans its.symm)
    have absent := List.lookup_eq_none_iff.mp fresh _ handled
    simp [method] at absent
  · exact new _ (List.mem_map_of_mem within) source

theorem RouteTable.ofRegistrations_once {registrations : List (Registration α)}
    (accepted : ofRegistrations registrations = .ok table) :
    (registrations.map fun entry => (entry.method, entry.pattern)).Nodup := by
  induction registrations using List.reverseRecOn generalizing table with
  | nil => exact List.nodup_nil
  | append_singleton registrations entry ih =>
    obtain ⟨earlier, made, added⟩ := ofRegistrations_concat_eq_ok accepted
    obtain ⟨indexed, holds⟩ := ofRegistrations_sound made
    rw [List.map_append, List.map_singleton, ← List.concat_eq_append, List.nodup_concat]
    refine ⟨?_, ih made⟩
    intro known
    obtain ⟨other, member, same⟩ := List.mem_map.mp known
    exact holds.add_new indexed added other member same

theorem RouteTable.Indexed.opens_of_conflict (indexed : table.Indexed) {place : String}
    (refused : table.add entry.method entry.pattern entry.handler = .error (.conflict place)) :
    table.byPattern.lookup entry.pattern = none ∧ ∃ pattern, entry.Opens pattern := by
  unfold RouteTable.add at refused
  split at refused
  · cases refused
  rename_i noOptions
  unfold slotFor at refused
  rcases known : table.byPattern.lookup entry.pattern with _ | number
  · simp only [known, RouteTable.open] at refused
    rcases parsed : RoutePattern.parse entry.pattern with fault | pattern
    · simp [parsed, Except.bind] at refused
    simp only [parsed] at refused
    split at refused
    · cases refused
    rename_i few
    exact ⟨rfl, pattern, noOptions, parsed, Nat.not_lt.mp few⟩
  · obtain ⟨slot, found, _⟩ := indexed.of_lookup known
    simp only [known, Except.bind, found] at refused
    split at refused <;> cases refused

/-- A registration is refused as conflicting only beside a pattern of another text that is not apart. -/
theorem RouteTable.Indexed.add_conflict (indexed : table.Indexed) {place : String}
    (refused : table.add entry.method entry.pattern entry.handler = .error (.conflict place)) :
    ∃ pattern, RoutePattern.parse entry.pattern = .ok pattern ∧
      ∃ other ∈ table.patterns, other.source ≠ entry.pattern ∧ ¬ other.Apart pattern := by
  obtain ⟨unknown, pattern, opens⟩ := indexed.opens_of_conflict refused
  refine ⟨pattern, opens.parsed, ?_⟩
  by_contra none
  have apart : ∀ other ∈ table.patterns, other.Apart pattern := by
    intro other member
    by_contra clash
    exact none ⟨other, member, indexed.of_lookup_none unknown other member, clash⟩
  rw [indexed.add_of_apart opens apart] at refused
  cases refused

theorem RouteTable.ofRegistrations_conflict {registrations : List (Registration α)} {place : String}
    (refused : (ofRegistrations registrations : Except RouteFault (RouteTable α)) = .error (.conflict place)) :
    ∃ pattern other : RoutePattern, pattern.Registered registrations ∧ other.Registered registrations ∧
      other.source ≠ pattern.source ∧ ¬ other.Apart pattern := by
  induction registrations using List.reverseRecOn with
  | nil => cases refused
  | append_singleton registrations entry ih =>
    have more : ∀ {pattern : RoutePattern}, pattern.Registered registrations →
        pattern.Registered (registrations ++ [entry]) :=
      fun ⟨earlier, member, parsed⟩ => ⟨earlier, List.mem_append_left _ member, parsed⟩
    rw [ofRegistrations_concat] at refused
    rcases made : ofRegistrations registrations with fault | table
    · rw [made] at refused
      cases refused
      obtain ⟨pattern, other, registered, otherRegistered, different, clash⟩ := ih made
      exact ⟨pattern, other, more registered, more otherRegistered, different, clash⟩
    · rw [made] at refused
      obtain ⟨indexed, holds⟩ := ofRegistrations_sound made
      obtain ⟨pattern, parsed, other, member, different, clash⟩ := indexed.add_conflict refused
      refine ⟨pattern, other, ⟨entry, by simp, parsed⟩, more ((holds.mem_patterns_iff indexed).mp member),
        ?_, clash⟩
      rwa [(RoutePattern.parse_eq_ok_iff.mp parsed).1]

/-- A table has as many routes as it says. -/
theorem RouteTable.size_eq_length_routes (table : RouteTable α) : table.size = table.routes.length := by
  have grown : ∀ (slots : List (RouteSlot α)) (start : Nat),
      slots.foldl (fun size slot => size + slot.handlers.length) start =
        start + (slots.flatMap fun slot => slot.handlers.map fun handler =>
          (handler.1, slot.pattern.source)).length := by
    intro slots
    induction slots with
    | nil => simp
    | cons slot slots ih =>
      intro start
      rw [List.foldl_cons, ih, List.flatMap_cons, List.length_append, List.length_map, Nat.add_assoc]
  rw [size, routes, grown, Nat.zero_add]

end MediaServer
