import MediaServer.Proofs.Lists.Related
import MediaServer.Route.Media

namespace MediaServer

variable {α β : Type}

/-- The same answer but for the handler that is found: those stand in the relation. -/
inductive Lookup.Related (relation : α → β → Prop) : Lookup α → Lookup β → Prop
  | found {handler : α} {other : β} (captures : Captures) : relation handler other →
      Related relation (.found handler captures) (.found other captures)
  | preflight : Related relation .preflight .preflight
  | methodNotAllowed : Related relation .methodNotAllowed .methodNotAllowed
  | notFound : Related relation .notFound .notFound

structure RouteSlot.Related (relation : α → β → Prop) (slot : RouteSlot α) (other : RouteSlot β) : Prop where
  pattern : slot.pattern = other.pattern
  handlers : List.Forall₂ (SameName relation) slot.handlers other.handlers

/-- The same routes, with handlers that stand in the relation. -/
structure RouteTable.Related (relation : α → β → Prop) (table : RouteTable α) (other : RouteTable β) :
    Prop where
  tree : table.tree = other.tree
  byPattern : table.byPattern = other.byPattern
  slots : List.Forall₂ (RouteSlot.Related relation) table.slots other.slots

variable {relation : α → β → Prop}

section Slot

variable {slot : RouteSlot α} {other : RouteSlot β}

theorem RouteSlot.Related.lookup (related : slot.Related relation other) (method : String)
    (captures : Captures) : Lookup.Related relation (slot.lookup method captures) (other.lookup method captures) := by
  unfold RouteSlot.lookup
  by_cases options : method = "OPTIONS"
  · rw [if_pos options, if_pos options]
    exact .preflight
  · rw [if_neg options, if_neg options]
    have handlers := lookup_related related.handlers method
    generalize slot.handlers.lookup method = handler? at handlers
    generalize other.handlers.lookup method = other? at handlers
    cases handlers with
    | some handler => exact .found captures handler
    | none => exact .methodNotAllowed

theorem RouteSlot.Related.addHandler (related : slot.Related relation other) (method : String)
    {handler : α} {otherHandler : β} (handlers : relation handler otherHandler) :
    (slot.addHandler method handler).Related relation (other.addHandler method otherHandler) :=
  ⟨related.pattern, List.rel_append related.handlers (.cons ⟨rfl, handlers⟩ .nil)⟩

end Slot

variable {table : RouteTable α} {other : RouteTable β}

/-- Which route a path leads to has nothing to do with the handlers. -/
theorem RouteTable.Related.lookup (related : table.Related relation other) (method path : String) :
    Lookup.Related relation (table.lookup method path) (other.lookup method path) := by
  rw [RouteTable.lookup, RouteTable.lookup, related.tree]
  cases other.tree.search path with
  | none => exact .notFound
  | some found =>
    dsimp only
    have slots := forall₂_getElem? related.slots found.slot
    generalize table.slots[found.slot]? = slot? at slots
    generalize other.slots[found.slot]? = other? at slots
    cases slots with
    | none => exact .notFound
    | @some slot otherSlot related =>
      dsimp only
      rw [related.pattern]
      cases otherSlot.pattern.captures? found.params with
      | none => exact .notFound
      | some captures => exact related.lookup method captures

theorem RouteTable.Related.setSlot (related : table.Related relation other) (number : Nat) {slot : RouteSlot α}
    {otherSlot : RouteSlot β} (slots : slot.Related relation otherSlot) :
    (table.setSlot number slot).Related relation (other.setSlot number otherSlot) :=
  ⟨related.tree, related.byPattern, forall₂_set related.slots number slots⟩

theorem RouteTable.Related.open (related : table.Related relation other) (text : String) :
    RelatedResults (fun opened otherOpened => opened.1.Related relation otherOpened.1 ∧ opened.2 = otherOpened.2)
      (table.open text) (other.open text) := by
  unfold RouteTable.open
  cases RoutePattern.parse text with
  | error reason => exact .error _
  | ok pattern =>
    dsimp only
    split
    · exact .error _
    · rw [related.tree, related.slots.length_eq]
      cases other.tree.insertPattern? pattern other.slots.length with
      | none => exact .error _
      | some tree =>
        have slots : List.Forall₂ (RouteSlot.Related relation) (table.slots ++ [⟨pattern, []⟩])
            (other.slots ++ [⟨pattern, []⟩]) := List.rel_append related.slots (.cons ⟨rfl, .nil⟩ .nil)
        exact .ok ⟨⟨rfl, by rw [related.byPattern], slots⟩, rfl⟩

theorem RouteTable.Related.slotFor (related : table.Related relation other) (text : String) :
    RelatedResults (fun opened otherOpened => opened.1.Related relation otherOpened.1 ∧ opened.2 = otherOpened.2)
      (table.slotFor text) (other.slotFor text) := by
  rw [RouteTable.slotFor, RouteTable.slotFor, related.byPattern]
  cases other.byPattern.lookup text with
  | some number => exact .ok ⟨related, rfl⟩
  | none => exact related.open text

/-- Whether a registration is accepted has nothing to do with its handler. -/
theorem RouteTable.Related.add (related : table.Related relation other) (method text : String)
    {handler : α} {otherHandler : β} (handlers : relation handler otherHandler) :
    RelatedResults (RouteTable.Related relation) (table.add method text handler)
      (other.add method text otherHandler) := by
  unfold RouteTable.add
  by_cases options : method = "OPTIONS"
  · rw [if_pos options, if_pos options]
    exact .error _
  · rw [if_neg options, if_neg options]
    have opened := related.slotFor text
    generalize table.slotFor text = result at opened
    generalize other.slotFor text = otherResult at opened
    cases opened with
    | error fault => exact .error fault
    | @ok opened otherOpened both =>
      obtain ⟨grown, number⟩ := opened
      obtain ⟨otherGrown, _⟩ := otherOpened
      obtain ⟨tables, rfl⟩ := both
      dsimp only [Except.bind] at tables ⊢
      have slots := forall₂_getElem? tables.slots number
      generalize grown.slots[number]? = slot? at slots
      generalize otherGrown.slots[number]? = other? at slots
      cases slots with
      | none => exact .error _
      | @some slot otherSlot slots =>
        dsimp only
        have known := lookup_related slots.handlers method
        generalize slot.handlers.lookup method = known? at known
        generalize otherSlot.handlers.lookup method = otherKnown? at known
        cases known with
        | some _ => exact .error _
        | none => exact .ok (tables.setSlot number (slots.addHandler method handlers))

/-- The media interface has the same routes whatever its handlers are. -/
theorem mediaRoutes_related {handlers : Endpoint → α} {others : Endpoint → β}
    (related : ∀ endpoint, relation (handlers endpoint) (others endpoint)) (path : String)
    (versions : List String) :
    RelatedResults (RouteTable.Related relation) (mediaRoutes handlers path versions)
      (mediaRoutes others path versions) := by
  have empty : (RouteTable.empty : RouteTable α).Related relation .empty := ⟨rfl, rfl, .nil⟩
  refine foldlM_related (fun table other version tables => ?_) empty versions
  refine foldlM_related (fun table other route tables => ?_) tables Endpoint.routes
  exact tables.add _ _ (related route.2.2)

end MediaServer
