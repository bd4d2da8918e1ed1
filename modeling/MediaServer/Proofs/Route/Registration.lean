import MediaServer.Proofs.Lists.Lookup
import MediaServer.Proofs.Route.Keys

namespace MediaServer

/-- A handler for a method and the text of a pattern. -/
structure Registration (α : Type) where
  method : String
  pattern : String
  handler : α

variable {α : Type}

/-- The table of these registrations, if every one of them is accepted. -/
def RouteTable.ofRegistrations (registrations : List (Registration α)) :
    Except RouteFault (RouteTable α) :=
  registrations.foldlM (fun table entry => table.add entry.method entry.pattern entry.handler) .empty

def RouteTable.patterns (table : RouteTable α) : List RoutePattern :=
  table.slots.map (·.pattern)

/-- Slots, tree and pattern texts tell the same: every text and every key leads to the slot of its
pattern, and no keys but these are in the tree. -/
structure RouteTable.Indexed (table : RouteTable α) : Prop where
  parsed : ∀ pattern ∈ table.patterns, RoutePattern.parse pattern.source = .ok pattern
  distinct : (table.patterns.map (·.source)).Nodup
  byPattern : table.byPattern = table.patterns.zipIdx.map fun (pattern, number) => (pattern.source, number)
  tree : table.tree = table.patterns.zipIdx.flatMap fun (pattern, number) =>
    (Segment.keys pattern.segments).map (·, number)
  apart : ∀ entry ∈ table.tree, ∀ other ∈ table.tree, entry.2 ≠ other.2 →
    TreeKey.clashes entry.1 other.1 = false

theorem RouteTable.getElem?_patterns {table : RouteTable α} {number : Nat} {pattern : RoutePattern} :
    table.patterns[number]? = some pattern ↔
      ∃ slot, table.slots[number]? = some slot ∧ slot.pattern = pattern := by
  rw [patterns, List.getElem?_map, Option.map_eq_some_iff]

variable {table grown : RouteTable α} {method text : String} {handler : α}

theorem RouteTable.Indexed.of_lookup (indexed : table.Indexed) {number : Nat}
    (known : table.byPattern.lookup text = some number) :
    ∃ slot, table.slots[number]? = some slot ∧ slot.pattern.source = text := by
  have member := mem_of_lookup known
  rw [indexed.byPattern, List.mem_map] at member
  obtain ⟨⟨pattern, place⟩, within, entry⟩ := member
  simp only [Prod.mk.injEq] at entry
  obtain ⟨rfl, rfl⟩ := entry
  obtain ⟨slot, found, rfl⟩ := getElem?_patterns.mp (List.mem_zipIdx_iff_getElem?.mp within)
  exact ⟨slot, found, rfl⟩

theorem RouteTable.Indexed.of_lookup_none (indexed : table.Indexed)
    (unknown : table.byPattern.lookup text = none) : ∀ pattern ∈ table.patterns, pattern.source ≠ text := by
  rintro pattern member rfl
  obtain ⟨number, found⟩ := List.mem_iff_getElem?.mp member
  have entry : (pattern.source, number) ∈ table.byPattern := by
    rw [indexed.byPattern]
    exact List.mem_map.mpr ⟨(pattern, number), List.mem_zipIdx_iff_getElem?.mpr found, rfl⟩
  have absent := List.lookup_eq_none_iff.mp unknown _ entry
  simp at absent

/-- An accepted registration gives a handler to the slot of its pattern, or opens a slot with it. -/
theorem RouteTable.Indexed.add_cases (indexed : table.Indexed)
    (added : table.add method text handler = .ok grown) :
    method ≠ "OPTIONS" ∧
      ((∃ number slot, table.slots[number]? = some slot ∧ slot.pattern.source = text ∧
          slot.handlers.lookup method = none ∧
          grown = table.setSlot number (slot.addHandler method handler)) ∨
        ∃ pattern tree, RoutePattern.parse text = .ok pattern ∧
          pattern.segments.countP (·.isOne) ≤ captureLimit ∧
          (∀ other ∈ table.patterns, other.source ≠ text) ∧
          table.tree.insertPattern? pattern table.slots.length = some tree ∧
          grown = ⟨tree, table.slots ++ [⟨pattern, [(method, handler)]⟩],
            table.byPattern ++ [(text, table.slots.length)]⟩) := by
  unfold add at added
  by_cases options : method = "OPTIONS"
  · rw [if_pos options] at added
    cases added
  rw [if_neg options] at added
  refine ⟨options, ?_⟩
  unfold slotFor at added
  rcases known : table.byPattern.lookup text with _ | number
  · simp only [known, RouteTable.open] at added
    rcases parsed : RoutePattern.parse text with fault | pattern
    · simp [parsed, Except.bind] at added
    simp only [parsed] at added
    split at added
    · cases added
    rename_i few
    rcases inserted : table.tree.insertPattern? pattern table.slots.length with _ | tree
    · simp [inserted, Except.bind] at added
    simp [inserted, Except.bind, RouteSlot.addHandler, setSlot] at added
    exact Or.inr ⟨pattern, tree, rfl, Nat.not_lt.mp few, indexed.of_lookup_none known, inserted, added.symm⟩
  · obtain ⟨slot, found, source⟩ := indexed.of_lookup known
    simp only [known, Except.bind, found] at added
    split at added
    · cases added
    · rename_i new
      cases added
      exact Or.inl ⟨number, slot, found, source, Option.not_isSome_iff_eq_none.mp new, rfl⟩

theorem RouteTable.patterns_setSlot {number : Nat} {slot changed : RouteSlot α}
    (found : table.slots[number]? = some slot) (same : changed.pattern = slot.pattern) :
    (table.setSlot number changed).patterns = table.patterns := by
  unfold patterns setSlot
  rw [List.map_set, same]
  apply List.ext_getElem?
  intro place
  by_cases here : number = place
  · subst here
    have inside := (List.getElem?_eq_some_iff.mp found).1
    rw [List.getElem?_set_self (by simpa using inside), List.getElem?_map, found]
    rfl
  · rw [List.getElem?_set_ne here]

theorem RouteTable.Indexed.setSlot (indexed : table.Indexed) {number : Nat} {slot changed : RouteSlot α}
    (found : table.slots[number]? = some slot) (same : changed.pattern = slot.pattern) :
    (table.setSlot number changed).Indexed := by
  have patterns := patterns_setSlot found same
  constructor
  · rw [patterns]
    exact indexed.parsed
  · rw [patterns]
    exact indexed.distinct
  · rw [patterns]
    exact indexed.byPattern
  · rw [patterns]
    exact indexed.tree
  · exact indexed.apart

theorem RouteTable.Indexed.newSlot (indexed : table.Indexed) {pattern : RoutePattern} {tree : RouteTree}
    (parsed : RoutePattern.parse text = .ok pattern)
    (new : ∀ other ∈ table.patterns, other.source ≠ text)
    (inserted : table.tree.insertPattern? pattern table.slots.length = some tree)
    (handlers : List (String × α)) :
    RouteTable.Indexed ⟨tree, table.slots ++ [⟨pattern, handlers⟩],
      table.byPattern ++ [(text, table.slots.length)]⟩ := by
  obtain ⟨source, _, some, proper⟩ := RoutePattern.parse_eq_ok_iff.mp parsed
  obtain ⟨rfl, free⟩ := RouteTree.insertPattern?_eq_some some proper inserted
  have numbers : table.patterns.length = table.slots.length := List.length_map ..
  have grown : RouteTable.patterns ⟨table.tree ++
      (Segment.keys pattern.segments).map (·, table.slots.length),
      table.slots ++ [⟨pattern, handlers⟩], table.byPattern ++ [(text, table.slots.length)]⟩ =
      table.patterns ++ [pattern] := List.map_append ..
  constructor
  · rw [grown, List.forall_mem_append]
    refine ⟨indexed.parsed, ?_⟩
    rw [List.forall_mem_singleton, source]
    exact parsed
  · rw [grown, List.map_append, List.nodup_append]
    refine ⟨indexed.distinct, List.pairwise_singleton _ _, ?_⟩
    intro earlier member later last
    obtain ⟨other, within, rfl⟩ := List.mem_map.mp member
    rw [List.map_singleton, List.mem_singleton] at last
    rw [last, source]
    exact new other within
  · rw [grown, List.zipIdx_append, List.map_append, ← indexed.byPattern]
    simp [source, numbers]
  · rw [grown, List.zipIdx_append, List.flatMap_append, ← indexed.tree]
    simp [numbers]
  · intro entry member other otherMember different
    rcases List.mem_append.mp member with old | young <;>
      rcases List.mem_append.mp otherMember with otherOld | otherYoung
    · exact indexed.apart entry old other otherOld different
    · obtain ⟨key, within, rfl⟩ := List.mem_map.mp otherYoung
      rw [TreeKey.clashes_comm]
      exact free key within entry old
    · obtain ⟨key, within, rfl⟩ := List.mem_map.mp young
      exact free key within other otherOld
    · obtain ⟨key, _, rfl⟩ := List.mem_map.mp young
      obtain ⟨key₂, _, rfl⟩ := List.mem_map.mp otherYoung
      exact absurd rfl different

theorem RouteTable.Indexed.add (indexed : table.Indexed)
    (added : table.add method text handler = .ok grown) : grown.Indexed := by
  obtain ⟨_, ⟨number, slot, found, _, _, rfl⟩ | ⟨pattern, tree, parsed, _, new, inserted, rfl⟩⟩ :=
    indexed.add_cases added
  · exact indexed.setSlot found rfl
  · exact indexed.newSlot parsed new inserted _

theorem RouteTable.empty_indexed : (RouteTable.empty : RouteTable α).Indexed := by
  constructor <;> simp [empty, patterns]

/-- The handlers of a table are the registered ones, each under its own method and pattern. -/
structure RouteTable.Holds (registrations : List (Registration α)) (table : RouteTable α) : Prop where
  filled : ∀ slot ∈ table.slots, slot.handlers ≠ []
  once : ∀ slot ∈ table.slots, (slot.handlers.map (·.1)).Nodup
  noOptions : ∀ slot ∈ table.slots, "OPTIONS" ∉ slot.handlers.map (·.1)
  registered : ∀ entry : Registration α, entry ∈ registrations ↔
    ∃ slot ∈ table.slots, slot.pattern.source = entry.pattern ∧ (entry.method, entry.handler) ∈ slot.handlers

theorem RouteTable.empty_holds : (RouteTable.empty : RouteTable α).Holds [] := by
  constructor <;> simp [empty]

theorem RouteTable.setSlot_split {number : Nat} {slot : RouteSlot α}
    (found : table.slots[number]? = some slot) (changed : RouteSlot α) :
    ∃ before after, table.slots = before ++ slot :: after ∧
      (table.setSlot number changed).slots = before ++ changed :: after := by
  obtain ⟨inside, here⟩ := List.getElem?_eq_some_iff.mp found
  obtain ⟨before, after, split, _, replaced⟩ := @List.exists_of_set _ number changed table.slots inside
  rw [here] at split
  exact ⟨before, after, split, replaced⟩

theorem RouteSlot.addHandler_once {slot : RouteSlot α} (once : (slot.handlers.map (·.1)).Nodup)
    (fresh : slot.handlers.lookup method = none) (handler : α) :
    ((slot.addHandler method handler).handlers.map (·.1)).Nodup := by
  rw [addHandler, List.map_append, List.nodup_append]
  refine ⟨once, List.pairwise_singleton _ _, ?_⟩
  intro earlier member last same
  obtain ⟨entry, within, rfl⟩ := List.mem_map.mp member
  rw [List.map_singleton, List.mem_singleton] at same
  have absent := List.lookup_eq_none_iff.mp fresh entry within
  rintro rfl
  simp [same] at absent

theorem RouteTable.Holds.add {registrations : List (Registration α)} (holds : table.Holds registrations)
    (indexed : table.Indexed) (added : table.add method text handler = .ok grown) :
    grown.Holds (registrations ++ [⟨method, text, handler⟩]) := by
  obtain ⟨noOptions, ⟨number, slot, found, source, fresh, rfl⟩ |
    ⟨pattern, tree, parsed, _, new, inserted, rfl⟩⟩ := indexed.add_cases added
  · obtain ⟨before, after, split, changed⟩ := setSlot_split found (slot.addHandler method handler)
    have filled := holds.filled
    have once := holds.once
    have options := holds.noOptions
    rw [split, List.forall_mem_append, List.forall_mem_cons] at filled once options
    constructor
    · rw [changed, List.forall_mem_append, List.forall_mem_cons]
      exact ⟨filled.1, List.concat_ne_nil _ _, filled.2.2⟩
    · rw [changed, List.forall_mem_append, List.forall_mem_cons]
      exact ⟨once.1, RouteSlot.addHandler_once once.2.1 fresh handler, once.2.2⟩
    · rw [changed, List.forall_mem_append, List.forall_mem_cons]
      refine ⟨options.1, ?_, options.2.2⟩
      simpa [RouteSlot.addHandler, noOptions.symm] using options.2.1
    · intro entry
      rw [List.mem_append, List.mem_singleton, holds.registered, split, changed]
      simp only [List.mem_append, List.mem_cons, or_and_right, exists_or, exists_eq_left,
        RouteSlot.addHandler, and_or_left, List.not_mem_nil, or_false, Prod.mk.injEq, source]
      obtain ⟨method₂, text₂, handler₂⟩ := entry
      simp only [Registration.mk.injEq]
      grind
  · obtain ⟨source, _⟩ := RoutePattern.parse_eq_ok_iff.mp parsed
    constructor
    · rw [List.forall_mem_append, List.forall_mem_singleton]
      exact ⟨holds.filled, List.cons_ne_nil _ _⟩
    · rw [List.forall_mem_append, List.forall_mem_singleton]
      exact ⟨holds.once, List.pairwise_singleton _ _⟩
    · rw [List.forall_mem_append, List.forall_mem_singleton]
      exact ⟨holds.noOptions, by simpa using noOptions.symm⟩
    · intro entry
      rw [List.mem_append, List.mem_singleton, holds.registered]
      simp only [List.mem_append, List.mem_cons, or_and_right, exists_or, exists_eq_left,
        List.not_mem_nil, or_false, Prod.mk.injEq, source]
      obtain ⟨method₂, text₂, handler₂⟩ := entry
      simp only [Registration.mk.injEq]
      grind

theorem RouteTable.Holds.addAll {earlier registrations : List (Registration α)}
    (holds : table.Holds earlier) (indexed : table.Indexed)
    (accepted : registrations.foldlM
      (fun table entry => table.add entry.method entry.pattern entry.handler) table = .ok grown) :
    grown.Indexed ∧ grown.Holds (earlier ++ registrations) := by
  induction registrations generalizing table earlier with
  | nil =>
    cases accepted
    exact ⟨indexed, by simpa using holds⟩
  | cons entry registrations ih =>
    rw [List.foldlM_cons] at accepted
    rcases added : table.add entry.method entry.pattern entry.handler with _ | next
    · simp [added, bind, Except.bind] at accepted
    · simp only [added, bind, Except.bind] at accepted
      have both := ih (holds.add indexed added) (indexed.add added) accepted
      rwa [List.append_assoc, List.singleton_append] at both

theorem RouteTable.ofRegistrations_sound {registrations : List (Registration α)}
    (accepted : ofRegistrations registrations = .ok table) :
    table.Indexed ∧ table.Holds registrations := by
  have both := empty_holds.addAll empty_indexed accepted
  rwa [List.nil_append] at both

/-- One of these registrations is for this pattern. -/
def RoutePattern.Registered (registrations : List (Registration α)) (pattern : RoutePattern) : Prop :=
  ∃ entry ∈ registrations, RoutePattern.parse entry.pattern = .ok pattern

theorem RouteTable.Holds.mem_patterns_iff {registrations : List (Registration α)}
    (holds : table.Holds registrations) (indexed : table.Indexed) {pattern : RoutePattern} :
    pattern ∈ table.patterns ↔ pattern.Registered registrations := by
  constructor
  · intro member
    obtain ⟨slot, within, rfl⟩ := List.mem_map.mp member
    obtain ⟨⟨method, handler⟩, handled⟩ := List.exists_mem_of_ne_nil _ (holds.filled slot within)
    exact ⟨⟨method, slot.pattern.source, handler⟩, (holds.registered _).mpr ⟨slot, within, rfl, handled⟩,
      indexed.parsed _ member⟩
  · rintro ⟨entry, member, parsed⟩
    obtain ⟨slot, within, source, _⟩ := (holds.registered entry).mp member
    have inside : slot.pattern ∈ table.patterns := List.mem_map_of_mem within
    have same := indexed.parsed _ inside
    rw [source, parsed] at same
    cases same
    exact inside

end MediaServer
