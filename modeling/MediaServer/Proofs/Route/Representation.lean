import MediaServer.Proofs.Route.Order

namespace MediaServer

variable {α : Type}

/-- The table after an attempt to register: one that is refused leaves it as it was. -/
def RouteTable.attempt (table : RouteTable α) (entry : Registration α) : RouteTable α :=
  match table.add entry.method entry.pattern entry.handler with
  | .ok grown => grown
  | .error _ => table

def RouteTable.attempts (entries : List (Registration α)) : RouteTable α :=
  entries.foldl attempt .empty

/-- Those of the attempts that are accepted, one after the other. -/
def RouteTable.accepted (table : RouteTable α) : List (Registration α) → List (Registration α)
  | [] => []
  | entry :: entries =>
    match table.add entry.method entry.pattern entry.handler with
    | .ok grown => entry :: grown.accepted entries
    | .error _ => table.accepted entries

/-- The texts that the keys of a pattern are inserted as. -/
def RoutePattern.treeTexts (pattern : RoutePattern) : List String :=
  pattern.treePath :: pattern.emptyTailPath?.toList

/-- What is left of a segment without the name and the class of a capture. -/
def Segment.outline? : Segment → Option String
  | .literal text => some text
  | .capture _ _ => none

/-- The slots, the texts, the tree and the listing of a table all tell of these registrations, and of
nothing else. -/
structure RouteTable.Represents (registrations : List (Registration α)) (table : RouteTable α) : Prop where
  texts : ∀ text number, table.byPattern.lookup text = some number ↔
    ∃ slot, table.slots[number]? = some slot ∧ slot.pattern.source = text
  textsOnce : (table.byPattern.map (·.1)).Nodup
  parsed : ∀ slot ∈ table.slots, RoutePattern.parse slot.pattern.source = .ok slot.pattern
  handled : ∀ slot ∈ table.slots, slot.handlers ≠ [] ∧ (slot.handlers.map (·.1)).Nodup ∧
    "OPTIONS" ∉ slot.handlers.map (·.1)
  tree : table.tree.map (fun entry => (some entry.1, entry.2)) =
    table.slots.zipIdx.flatMap fun (slot, number) =>
      slot.pattern.treeTexts.map fun text => (TreeKey.ofText? text, number)
  outlines : (table.slots.map fun slot => slot.pattern.segments.map Segment.outline?).Nodup
  routes : table.routes.Perm (registrations.map fun entry => (entry.method, entry.pattern))
  routesOnce : table.routes.Nodup
  size : table.size = registrations.length
  isEmpty : table.isEmpty = true ↔ registrations = []

/-- The attempts that are accepted make the same table by themselves. -/
theorem RouteTable.foldlM_accepted (table : RouteTable α) (entries : List (Registration α)) :
    (table.accepted entries).foldlM (fun table entry => table.add entry.method entry.pattern entry.handler) table =
      (.ok (entries.foldl attempt table) : Except RouteFault (RouteTable α)) := by
  induction entries generalizing table with
  | nil => rfl
  | cons entry entries ih =>
    rw [accepted, List.foldl_cons, attempt]
    rcases added : table.add entry.method entry.pattern entry.handler with fault | grown
    · exact ih table
    · rw [List.foldlM_cons, added]
      exact ih grown

theorem RouteTable.ofRegistrations_accepted (entries : List (Registration α)) :
    ofRegistrations (RouteTable.empty.accepted entries) = .ok (attempts entries) :=
  foldlM_accepted .empty entries

section Keys

variable {segments others : List Segment}

theorem TreeKey.clashes_literal_iff {text : String} {key other : TreeKey} :
    clashes (.literal text :: key) other = true ↔
      ∃ below, other = .literal text :: below ∧ clashes key below = true := by
  constructor
  · intro clash
    rcases other with _ | ⟨_ | _ | _, below⟩
    · cases clash
    · rw [clashes, Bool.and_eq_true, beq_iff_eq] at clash
      obtain ⟨rfl, clash⟩ := clash
      exact ⟨below, rfl, clash⟩
    · cases clash
    · cases clash
  · rintro ⟨below, rfl, clash⟩
    rw [clashes, beq_self_eq_true, Bool.true_and]
    exact clash

theorem TreeKey.clashes_nil (head : TreeSegment) (key : TreeKey) : clashes (head :: key) [] = false := by
  cases head <;> rfl

theorem TreeKey.clashes_rest (head : TreeSegment) (key other below : TreeKey) (name : String) :
    clashes (head :: key) (.rest name :: below) = clashes (head :: other) (.rest name :: below) := by
  cases head <;> rfl

/-- Parts that are no tails clash where their outlines are the same and what follows them clashes. -/
theorem Segment.clashes_cons_iff {segment other : Segment} (single : segment.isTail = false)
    (otherSingle : other.isTail = false) {key below : TreeKey} :
    TreeKey.clashes (segment.toTree :: key) (other.toTree :: below) = true ↔
      segment.outline? = other.outline? ∧ TreeKey.clashes key below = true := by
  have one : ∀ {name kind}, (capture name kind).isTail = false → (capture name kind).toTree = .one name :=
    fun single => toTree_of_ne_tail fun tail => Bool.eq_false_iff.mp single (isTail_capture.mpr tail)
  cases segment with
  | literal text =>
    cases other with
    | literal otherText => simp [toTree, outline?, TreeKey.clashes]
    | capture name kind =>
      rw [one otherSingle]
      simp [toTree, outline?, TreeKey.clashes]
  | capture name kind =>
    cases other with
    | literal text =>
      rw [one single]
      simp [toTree, outline?, TreeKey.clashes]
    | capture otherName otherKind =>
      rw [one single, one otherSingle]
      simp [outline?, TreeKey.clashes]

theorem Segment.exists_of_isTail {segment : Segment} (tail : segment.isTail = true) :
    ∃ name, segment = .capture name .tail := by
  cases segment with
  | literal text => cases tail
  | capture name kind => exact ⟨name, by rw [isTail_capture.mp tail]⟩

/-- Segments with the same outline clash, whatever they capture. -/
theorem Segment.clashes_of_outline (same : segments.map outline? = others.map outline?) :
    TreeKey.clashes (segments.map toTree) (others.map toTree) = true := by
  induction segments generalizing others with
  | nil =>
    obtain rfl := List.map_eq_nil_iff.mp same.symm
    rfl
  | cons segment segments ih =>
    obtain ⟨other, others, rfl, first, rest⟩ := List.map_eq_cons_iff.mp same.symm
    rcases single : segment.isTail with _ | _
    · rcases otherSingle : other.isTail with _ | _
      · exact (clashes_cons_iff single otherSingle).mpr ⟨first.symm, ih rest.symm⟩
      · obtain ⟨name, rfl⟩ := exists_of_isTail otherSingle
        cases segment with
        | literal text => cases first
        | capture own kind => cases kind <;> rfl
    · obtain ⟨name, rfl⟩ := exists_of_isTail single
      cases other with
      | literal text => cases first
      | capture own kind => cases kind <;> rfl

/-- Where the key for nothing left of a tail clashes with a key of a pattern, the key of the tail clashes with
one of its keys as well: no literal is empty, so that the other key is that of a tail of which nothing is left,
or has a tail further in front. -/
theorem Segment.clashes_of_emptyTail {front : List Segment} (wellformed : ∀ segment ∈ front, segment.Wellformed)
    (tailless : ∀ segment ∈ front, segment.isTail = false) {name : String} {earlier : List String}
    (proper : Proper earlier others) {key : TreeKey} (member : key ∈ keys others)
    (clash : TreeKey.clashes (front.map toTree ++ [.literal ""]) key = true) :
    ∃ own ∈ keys others, TreeKey.clashes (front.map toTree ++ [.rest name]) own = true := by
  induction front generalizing others earlier key with
  | nil =>
    obtain ⟨below, rfl, _⟩ := TreeKey.clashes_literal_iff.mp clash
    cases others with
    | nil => cases List.mem_singleton.mp member
    | cons other others =>
      obtain ⟨otherFormed, _⟩ := proper_cons_iff.mp proper
      rcases mem_keys_cons.mp member with ⟨_, _, same⟩ | ⟨tail, _⟩
      · exact absurd (List.cons.inj same).1.symm otherFormed.toTree_ne_empty
      · obtain ⟨otherName, rfl⟩ := exists_of_isTail tail
        exact ⟨_, map_toTree_mem_keys _, rfl⟩
  | cons segment front ih =>
    obtain ⟨formed, formedRest⟩ := List.forall_mem_cons.mp wellformed
    obtain ⟨single, taillessRest⟩ := List.forall_mem_cons.mp tailless
    cases others with
    | nil =>
      obtain rfl := List.mem_singleton.mp member
      rw [List.map_cons, List.cons_append, TreeKey.clashes_nil] at clash
      cases clash
    | cons other others =>
      obtain ⟨_, _, _, properRest⟩ := proper_cons_iff.mp proper
      rcases mem_keys_cons.mp member with ⟨below, inside, rfl⟩ | ⟨tail, rfl⟩
      · rcases otherSingle : other.isTail with _ | _
        · obtain ⟨heads, belowClash⟩ := (clashes_cons_iff single otherSingle).mp clash
          obtain ⟨own, ownInside, ownClash⟩ := ih formedRest taillessRest properRest inside belowClash
          exact ⟨_, mem_keys_cons.mpr (Or.inl ⟨own, ownInside, rfl⟩),
            (clashes_cons_iff single otherSingle).mpr ⟨heads, ownClash⟩⟩
        · obtain ⟨otherName, rfl⟩ := exists_of_isTail otherSingle
          exact ⟨_, member, (TreeKey.clashes_rest ..).trans clash⟩
      · rw [TreeKey.clashes_comm] at clash
        obtain ⟨_, same, _⟩ := TreeKey.clashes_literal_iff.mp clash
        exact absurd (List.cons.inj same).1 formed.toTree_ne_empty

end Keys

/-- The keys of a pattern and the text of the second one, if it has two. -/
theorem RoutePattern.map_treeTexts {pattern : RoutePattern} (some : pattern.segments ≠ [])
    (proper : Segment.Proper [] pattern.segments) :
    pattern.treeTexts.map TreeKey.ofText? = (Segment.keys pattern.segments).map .some := by
  obtain ⟨front, last, split, wellformed, tailless⟩ := proper.split some
  rw [treeTexts, treePath, List.map_cons, TreeKey.ofText?_treePath some proper, emptyTailPath?, split,
    List.getLast?_concat, List.dropLast_concat, Segment.keys_concat tailless, List.map_cons]
  by_cases tail : last.isTail = true
  · simp only [if_pos tail, Option.toList_some, List.map_singleton]
    rw [TreeKey.ofText?_emptyTail wellformed tailless]
  · simp only [if_neg tail, Option.toList_none, List.map_nil]

section Table

variable {table : RouteTable α} {registrations : List (Registration α)}

theorem RouteTable.Indexed.texts_nodup (indexed : table.Indexed) : (table.byPattern.map (·.1)).Nodup := by
  have texts : table.byPattern.map (·.1) = table.patterns.map (·.source) := by
    rw [indexed.byPattern, List.map_map]
    calc table.patterns.zipIdx.map (fun entry => entry.1.source)
      _ = (table.patterns.zipIdx.map Prod.fst).map (·.source) := (List.map_map ..).symm
      _ = table.patterns.map (·.source) := by rw [List.zipIdx_map_fst]
  rw [texts]
  exact indexed.distinct

theorem RouteTable.Indexed.lookup_text_iff (indexed : table.Indexed) {text : String} {number : Nat} :
    table.byPattern.lookup text = some number ↔
      ∃ slot, table.slots[number]? = some slot ∧ slot.pattern.source = text := by
  constructor
  · exact indexed.of_lookup
  · rintro ⟨slot, found, rfl⟩
    have place : table.patterns[number]? = some slot.pattern := getElem?_patterns.mpr ⟨slot, found, rfl⟩
    apply lookup_of_mem indexed.texts_nodup
    rw [indexed.byPattern]
    exact List.mem_map.mpr ⟨(slot.pattern, number), List.mem_zipIdx_iff_getElem?.mpr place, rfl⟩

theorem RouteTable.Indexed.tree_texts (indexed : table.Indexed) :
    table.tree.map (fun entry => (some entry.1, entry.2)) =
      table.slots.zipIdx.flatMap fun (slot, number) =>
        slot.pattern.treeTexts.map fun text => (TreeKey.ofText? text, number) := by
  rw [indexed.tree, patterns, List.zipIdx_map, List.flatMap_map, List.map_flatMap]
  apply List.flatMap_congr
  rintro ⟨slot, number⟩ member
  have inside : slot ∈ table.slots := List.fst_mem_of_mem_zipIdx member
  obtain ⟨_, _, some, proper⟩ :=
    RoutePattern.parse_eq_ok_iff.mp (indexed.parsed slot.pattern (List.mem_map_of_mem inside))
  have both := congrArg (List.map (·, number)) (RoutePattern.map_treeTexts some proper)
  rw [List.map_map, List.map_map] at both
  rw [List.map_map]
  exact both.symm

/-- Patterns that differ in names and classes only would clash, so that no two slots have such patterns. -/
theorem RouteTable.Indexed.outlines_nodup (indexed : table.Indexed) :
    (table.slots.map fun slot => slot.pattern.segments.map Segment.outline?).Nodup := by
  have distinct := indexed.distinct
  rw [patterns, List.map_map] at distinct
  refine List.pairwise_map.mpr ((List.pairwise_map.mp distinct).imp_of_mem ?_)
  intro slot other member otherMember different same
  have apart := indexed.patterns_apart (List.mem_map_of_mem member) (List.mem_map_of_mem otherMember) different
  have free := apart _ (Segment.map_toTree_mem_keys _) _ (Segment.map_toTree_mem_keys _)
  rw [Segment.clashes_of_outline same] at free
  cases free

theorem RouteTable.Indexed.represents (indexed : table.Indexed) (holds : table.Holds registrations)
    (once : (registrations.map fun entry => (entry.method, entry.pattern)).Nodup) :
    table.Represents registrations := by
  have routes := holds.routes_perm indexed once
  have size : table.size = registrations.length := by
    rw [size_eq_length_routes, routes.length_eq, List.length_map]
  exact {
    texts := fun _ _ => indexed.lookup_text_iff
    textsOnce := indexed.texts_nodup
    parsed := fun slot member => indexed.parsed _ (List.mem_map_of_mem member)
    handled := fun slot member => ⟨holds.filled slot member, holds.once slot member, holds.noOptions slot member⟩
    tree := indexed.tree_texts
    outlines := indexed.outlines_nodup
    routes
    routesOnce := holds.routes_nodup indexed
    size
    isEmpty := by rw [isEmpty, decide_eq_true_eq, size, List.length_eq_zero_iff] }

/-- A tail whose key clashes with none in the tree leaves its second key free as well. -/
theorem RouteTable.Indexed.emptyTail_free (indexed : table.Indexed) {front : List Segment}
    (wellformed : ∀ segment ∈ front, segment.Wellformed)
    (tailless : ∀ segment ∈ front, segment.isTail = false) {name : String}
    (apart : ∀ entry ∈ table.tree, TreeKey.clashes (front.map Segment.toTree ++ [.rest name]) entry.1 = false) :
    ∀ entry ∈ table.tree, TreeKey.clashes (front.map Segment.toTree ++ [.literal ""]) entry.1 = false := by
  rintro ⟨key, number⟩ member
  rw [← Bool.not_eq_true]
  intro clash
  obtain ⟨other, found, inside⟩ := indexed.mem_tree_iff.mp member
  obtain ⟨_, _, _, proper⟩ :=
    RoutePattern.parse_eq_ok_iff.mp (indexed.parsed other (List.mem_of_getElem? found))
  obtain ⟨own, ownInside, ownClash⟩ := Segment.clashes_of_emptyTail wellformed tailless proper inside clash
  have free := apart (own, number) (indexed.mem_tree_iff.mpr ⟨other, found, ownInside⟩)
  exact Bool.false_ne_true (free.symm.trans ownClash)

/-- A tail that found its place in the tree finds it for its second key as well. -/
theorem RouteTable.Indexed.insert_emptyTail (indexed : table.Indexed) {text path : String}
    {pattern : RoutePattern} (parsed : RoutePattern.parse text = .ok pattern)
    (tail : pattern.emptyTailPath? = some path) {number : Nat} {first : RouteTree}
    (inserted : table.tree.insertText? pattern.treePath number = some first) :
    ∃ second, first.insertText? path number = some second := by
  obtain ⟨_, _, filled, proper⟩ := RoutePattern.parse_eq_ok_iff.mp parsed
  obtain ⟨front, last, split, wellformed, tailless⟩ := proper.split filled
  have apart : ∀ entry ∈ table.tree, TreeKey.clashes ((front ++ [last]).map Segment.toTree) entry.1 = false := by
    rw [RouteTree.insertText?, RoutePattern.treePath, TreeKey.ofText?_treePath filled proper, split] at inserted
    exact (RouteTree.insert?_eq_some_iff.mp inserted).1
  have free : ∀ key ∈ Segment.keys pattern.segments, ∀ entry ∈ table.tree,
      TreeKey.clashes key entry.1 = false := by
    rw [split, Segment.keys_concat tailless, List.forall_mem_cons]
    refine ⟨apart, ?_⟩
    cases last with
    | literal text => exact List.forall_mem_nil _
    | capture name kind =>
      by_cases isTail : kind = .tail
      · subst isTail
        rw [List.map_append] at apart
        exact List.forall_mem_singleton.mpr (indexed.emptyTail_free wellformed tailless apart)
      · rw [if_neg (mt Segment.isTail_capture.mp isTail)]
        exact List.forall_mem_nil _
  have taken := RouteTree.insertPattern?_of_apart filled proper free number
  rw [RouteTree.insertPattern?, inserted, Option.bind_some, tail] at taken
  exact ⟨_, taken⟩

end Table

/-- After any attempts the table represents those that were accepted, and nothing else. Whatever pattern comes
next, the key for nothing left of its tail never meets a clash once the key of the tail itself has met none. -/
theorem RouteTable.attempts_represented (entries : List (Registration α)) :
    (attempts entries).Represents (RouteTable.empty.accepted entries) ∧
      ∀ text pattern path number first, RoutePattern.parse text = .ok pattern →
        pattern.emptyTailPath? = some path →
          (attempts entries).tree.insertText? pattern.treePath number = some first →
            ∃ second, first.insertText? path number = some second := by
  have accepted := ofRegistrations_accepted entries
  obtain ⟨indexed, holds⟩ := ofRegistrations_sound accepted
  refine ⟨indexed.represents holds (ofRegistrations_once accepted), ?_⟩
  intro text pattern path number first parsed tail inserted
  exact indexed.insert_emptyTail parsed tail inserted

/-- Among attempts that are accepted, one for a method that is reserved, one that differs in a name only, one
that is made twice, and one with a capture that is no whole part. -/
def mixedAttempts : List (Registration Nat) := [
  ⟨"GET", "/item/{id:media_id}", 1⟩,
  ⟨"OPTIONS", "/item/{id:media_id}", 2⟩,
  ⟨"GET", "/item/{name:filename}/last", 3⟩,
  ⟨"DELETE", "/item/{name:filename}", 4⟩,
  ⟨"GET", "/item/{id:media_id}", 5⟩,
  ⟨"GET", "/item-{id:media_id}", 6⟩,
  ⟨"PUT", "/item/{id:media_id}", 7⟩,
  ⟨"GET", "/files/{rest:*}", 8⟩]

theorem mixedAttempts_represented :
    (RouteTable.empty.accepted mixedAttempts).map (·.handler) = [1, 3, 7, 8] ∧
      (RouteTable.attempts mixedAttempts).size = 4 ∧
      ∃ pattern first second, RoutePattern.parse "/more/{rest:*}" = .ok pattern ∧
        (RouteTable.attempts mixedAttempts).tree.insertText? pattern.treePath 3 = some first ∧
        first.insertText? "/more/" 3 = some second := by
  have handlers : (RouteTable.empty.accepted mixedAttempts).map (·.handler) = [1, 3, 7, 8] := by decide +kernel
  have parsed : RoutePattern.parse "/more/{rest:*}" =
      .ok ⟨"/more/{rest:*}", [.literal "more", .capture "rest" .tail]⟩ := by decide +kernel
  have free : ((RouteTable.attempts mixedAttempts).tree.insertText? "/more/{*rest}" 3).isSome = true := by
    decide +kernel
  obtain ⟨represents, tails⟩ := RouteTable.attempts_represented mixedAttempts
  obtain ⟨first, inserted⟩ := Option.isSome_iff_exists.mp free
  obtain ⟨second, both⟩ := tails _ _ "/more/" 3 first parsed (by decide +kernel) inserted
  refine ⟨handlers, ?_, _, first, second, parsed, inserted, both⟩
  rw [represents.size, ← List.length_map (·.handler), handlers]
  rfl

end MediaServer
