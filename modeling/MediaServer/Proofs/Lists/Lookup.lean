import Mathlib.Data.List.Basic

namespace MediaServer

theorem eq_ok_of_toOption {ε α : Type} {result : Except ε α} {value : α}
    (made : result.toOption = some value) : result = .ok value := by
  cases result with
  | error fault => cases made
  | ok other => rw [Option.some.inj made]

variable {α β : Type} [BEq α]

theorem lookup_cons_if (name : α) (value : β) (entries : List (α × β)) (asked : α) :
    ((name, value) :: entries).lookup asked =
      if asked == name then some value else entries.lookup asked := by
  rw [List.lookup_cons]
  cases asked == name <;> rfl

variable [LawfulBEq α]

/-- Replacing the values of a key changes what is found under that key alone. -/
theorem lookup_replaced (entries : List (α × β)) (key : α) (value : β) (asked : α) :
    (entries.map fun entry => if entry.1 == key then (key, value) else entry).lookup asked =
      if asked == key then (entries.lookup asked).map fun _ => value else entries.lookup asked := by
  induction entries with
  | nil => simp
  | cons entry entries ih =>
    obtain ⟨name, old⟩ := entry
    rw [List.map_cons, lookup_cons_if]
    by_cases same : name = key
    · subst same
      rw [if_pos (beq_self_eq_true name), lookup_cons_if, ih]
      cases asked == name <;> rfl
    · simp only [beq_eq_false_iff_ne.mpr same, Bool.false_eq_true, if_false, lookup_cons_if, ih]
      by_cases here : asked = name
      · simp [here, same]
      · simp [here]

theorem lookup_filter_key (entries : List (α × β)) (key asked : α) :
    (entries.filter (·.1 != key)).lookup asked =
      if asked == key then none else entries.lookup asked := by
  induction entries with
  | nil => simp
  | cons entry entries ih =>
    obtain ⟨name, value⟩ := entry
    by_cases same : name = key
    · rw [List.filter_cons_of_neg (by simp [same]), ih, lookup_cons_if, same]
      cases asked == key <;> rfl
    · rw [List.filter_cons_of_pos (by simpa using same), lookup_cons_if, lookup_cons_if, ih]
      by_cases here : asked = name
      · simp [here, same]
      · simp [here]

theorem lookup_of_mem {entries : List (α × β)} (once : (entries.map (·.1)).Nodup) {key : α} {value : β}
    (member : (key, value) ∈ entries) : entries.lookup key = some value := by
  induction entries with
  | nil => cases member
  | cons entry entries ih =>
    obtain ⟨name, first⟩ := entry
    have ⟨new, others⟩ := List.nodup_cons.mp once
    rw [lookup_cons_if]
    rcases List.mem_cons.mp member with here | later
    · cases here
      rw [if_pos (beq_self_eq_true key)]
    · have apart : ¬ (key == name) = true := by
        rw [beq_iff_eq]
        rintro rfl
        exact new (List.mem_map.mpr ⟨(key, value), later, rfl⟩)
      rw [if_neg apart, ih others later]

theorem lookup_eq_none_iff_notMem {entries : List (α × β)} {key : α} :
    entries.lookup key = none ↔ key ∉ entries.map (·.1) := by
  rw [List.lookup_eq_none_iff, List.mem_map]
  constructor
  · rintro absent ⟨entry, member, rfl⟩
    simpa using absent entry member
  · intro absent entry member
    simpa using fun same : key = entry.1 => absent ⟨entry, member, same.symm⟩

theorem mem_of_lookup {entries : List (α × β)} {key : α} {value : β} (found : entries.lookup key = some value) :
    (key, value) ∈ entries := by
  obtain ⟨before, after, rfl, _⟩ := List.lookup_eq_some_iff.mp found
  exact List.mem_append_right _ (List.mem_cons_self ..)

/-- Where each key stands once, a look-up after a filter is a filter after the look-up. -/
theorem lookup_filter_value {entries : List (α × β)} (once : (entries.map (·.1)).Nodup)
    (keep : β → Bool) (asked : α) :
    (entries.filter fun entry => keep entry.2).lookup asked = (entries.lookup asked).filter keep := by
  induction entries with
  | nil => rfl
  | cons entry entries ih =>
    obtain ⟨name, value⟩ := entry
    have ⟨new, others⟩ := List.nodup_cons.mp once
    have rest := ih others
    by_cases here : asked = name
    · subst here
      have absent : entries.lookup asked = none := by
        rw [List.lookup_eq_none_iff]
        intro other member
        have different : asked ≠ other.1 := fun same => new (List.mem_map.mpr ⟨other, member, same.symm⟩)
        simpa using different
      by_cases kept : keep value
      · rw [List.filter_cons_of_pos (by simpa using kept), lookup_cons_if, lookup_cons_if]
        simp [Option.filter, kept]
      · rw [List.filter_cons_of_neg (by simpa using kept), rest, lookup_cons_if, absent]
        simp [Option.filter, kept]
    · have apart : ¬ (asked == name) = true := by simpa using here
      by_cases kept : keep value
      · rw [List.filter_cons_of_pos (by simpa using kept), lookup_cons_if, lookup_cons_if,
          if_neg apart, if_neg apart, rest]
      · rw [List.filter_cons_of_neg (by simpa using kept), rest, lookup_cons_if, if_neg apart]

end MediaServer
