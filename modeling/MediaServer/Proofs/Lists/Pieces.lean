import MediaServer.Text.Split

namespace MediaServer

variable {α : Type}

/-- A separator before every part is one before the parts with separators between them. -/
theorem flatMap_separator (separator : α) {parts : List (List α)} (some : parts ≠ []) :
    parts.flatMap (separator :: ·) = separator :: [separator].intercalate parts := by
  induction parts with
  | nil => exact absurd rfl some
  | cons part others ih =>
    rcases others with _ | ⟨next, others⟩
    · simp
    · rw [List.flatMap_cons, ih (List.cons_ne_nil _ _), List.intercalate_cons_cons]
      simp

theorem mem_of_mem_intercalate {separator x : α} {parts : List (List α)}
    (member : x ∈ [separator].intercalate parts) : x = separator ∨ ∃ part ∈ parts, x ∈ part := by
  induction parts with
  | nil => cases member
  | cons part others ih =>
    rcases others with _ | ⟨next, others⟩
    · exact Or.inr ⟨part, List.mem_cons_self, by simpa using member⟩
    · rw [List.intercalate_cons_cons, List.mem_append, List.mem_append, List.mem_singleton] at member
      rcases member with (own | here) | later
      · exact Or.inr ⟨part, List.mem_cons_self, own⟩
      · exact Or.inl here
      · rcases ih later with here | ⟨other, within, inside⟩
        · exact Or.inl here
        · exact Or.inr ⟨other, List.mem_cons_of_mem _ within, inside⟩

variable [BEq α]

theorem pieces_eq_splitOn (separator : α) (xs : List α) : pieces separator xs = xs.splitOn separator := by
  induction xs with
  | nil => rfl
  | cons x rest ih =>
    rw [pieces, ih, List.splitOn_cons_eq_if_modifyHead]
    rcases split : rest.splitOn separator with _ | ⟨first, others⟩
    · exact absurd split (List.splitOn_ne_nil _ _)
    · rfl

variable [LawfulBEq α]

theorem intercalate_pieces (separator : α) (xs : List α) :
    [separator].intercalate (pieces separator xs) = xs := by
  rw [pieces_eq_splitOn, List.intercalate_splitOn]

theorem pieces_intercalate {separator : α} {parts : List (List α)}
    (clean : ∀ part ∈ parts, separator ∉ part) (some : parts ≠ []) :
    pieces separator ([separator].intercalate parts) = parts := by
  rw [pieces_eq_splitOn, List.splitOn_intercalate separator clean some]

theorem pieces_clean (separator : α) (xs : List α) : ∀ part ∈ pieces separator xs, separator ∉ part := by
  induction xs with
  | nil => simp [pieces]
  | cons x rest ih =>
    rw [pieces]
    by_cases same : x = separator
    · simpa [same] using ih
    · rw [if_neg (by simpa using same)]
      rcases split : pieces separator rest with _ | ⟨first, others⟩
      · exact absurd split (pieces_ne_nil _ _)
      · rw [split, List.forall_mem_cons] at ih
        have first_clean : separator ∉ x :: first := by
          rw [List.mem_cons, not_or]
          exact ⟨fun equal => same equal.symm, ih.1⟩
        exact List.forall_mem_cons.mpr ⟨first_clean, ih.2⟩

theorem cutAt_of_mem {separator : α} {before : List α} (clean : separator ∉ before) (after : List α) :
    cutAt separator (before ++ separator :: after) = (before, some after) := by
  induction before with
  | nil => simp [cutAt]
  | cons x before ih =>
    simp only [List.mem_cons, not_or] at clean
    have other : ¬ (x == separator) = true := by simpa using fun same => clean.1 same.symm
    rw [List.cons_append, cutAt, if_neg other, ih clean.2]

theorem cutAt_of_not_mem {separator : α} {xs : List α} (clean : separator ∉ xs) :
    cutAt separator xs = (xs, none) := by
  induction xs with
  | nil => rfl
  | cons x xs ih =>
    simp only [List.mem_cons, not_or] at clean
    have other : ¬ (x == separator) = true := by simpa using fun same => clean.1 same.symm
    rw [cutAt, if_neg other, ih clean.2]

/-- What stands before the first separator stays what it is if another one follows. -/
theorem cutAt_fst_append_separator (separator : α) (xs after : List α) :
    (cutAt separator (xs ++ separator :: after)).1 = (cutAt separator xs).1 := by
  by_cases first : separator ∈ xs
  · obtain ⟨before, rest, rfl, clean⟩ := List.eq_append_cons_of_mem first
    rw [List.append_assoc, List.cons_append, cutAt_of_mem clean, cutAt_of_mem clean]
  · rw [cutAt_of_mem first, cutAt_of_not_mem first]

/-- What follows the last separator can be told from what stands before it. -/
theorem append_separator_inj {separator : α} {before others after ending : List α}
    (clean : separator ∉ after) (cleanEnding : separator ∉ ending)
    (same : before ++ separator :: after = others ++ separator :: ending) : before = others ∧ after = ending := by
  have cut := congrArg (fun xs : List α => cutAt separator xs.reverse) same
  simp only [List.reverse_append, List.reverse_cons, List.append_assoc, List.singleton_append] at cut
  rw [cutAt_of_mem (by simpa using clean), cutAt_of_mem (by simpa using cleanEnding), Prod.mk.injEq,
    Option.some.injEq, List.reverse_inj, List.reverse_inj] at cut
  exact cut.symm

theorem eq_of_cutAt {separator : α} {xs before after : List α}
    (cut : cutAt separator xs = (before, some after)) :
    xs = before ++ separator :: after ∧ separator ∉ before := by
  induction xs generalizing before with
  | nil => simp [cutAt] at cut
  | cons x rest ih =>
    rw [cutAt] at cut
    by_cases same : x = separator
    · simp only [same, beq_self_eq_true, if_true, Prod.mk.injEq, Option.some.injEq] at cut
      obtain ⟨rfl, rfl⟩ := cut
      simp [same]
    · rw [if_neg (by simpa using same), Prod.mk.injEq] at cut
      obtain ⟨rfl, found⟩ := cut
      obtain ⟨split, clean⟩ := ih (Prod.ext rfl found)
      refine ⟨by rw [List.cons_append, ← split], ?_⟩
      simp only [List.mem_cons, not_or]
      exact ⟨fun equal => same equal.symm, clean⟩

end MediaServer
