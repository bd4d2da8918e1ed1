import MediaServer.Route.Tree

namespace MediaServer

/-- Where two lists first differ in rank, the first one has the lower rank. -/
inductive RankedBefore {α : Type} (rank : α → Nat) : List α → List α → Prop
  | here {x y : α} {xs ys : List α} : rank x < rank y → RankedBefore rank (x :: xs) (y :: ys)
  | there {x y : α} {xs ys : List α} :
      rank x = rank y → RankedBefore rank xs ys → RankedBefore rank (x :: xs) (y :: ys)

theorem RankedBefore.asymm {α : Type} {rank : α → Nat} {xs ys : List α} (first : RankedBefore rank xs ys) :
    ¬ RankedBefore rank ys xs := by
  induction first with
  | here less =>
    intro second
    cases second <;> omega
  | there same _ ih =>
    intro second
    cases second with
    | here less => omega
    | there _ second => exact ih second

/-- What a key takes from the parts of a path for each of its names. One part is taken by a name
unless it is an empty one at the end; the rest of a path is taken unless nothing is left of it. -/
inductive TreeKey.Takes : TreeKey → List String → List (String × String) → Prop
  | done : Takes [] [] []
  | literal {text : String} {key : TreeKey} {parts : List String} {given : List (String × String)} :
      Takes key parts given → Takes (.literal text :: key) (text :: parts) given
  | one {name part : String} {key : TreeKey} {parts : List String} {given : List (String × String)} :
      ¬ (part = "" ∧ parts = []) → Takes key parts given →
        Takes (.one name :: key) (part :: parts) ((name, part) :: given)
  | rest {name part : String} {parts : List String} :
      joinParts (part :: parts) ≠ [] →
        Takes [.rest name] (part :: parts) [(name, String.ofList (joinParts (part :: parts)))]

def TreeSegment.rank : TreeSegment → Nat
  | .literal _ => 0
  | .one _ => 1
  | .rest _ => 2

/-- Two keys that take the same path are ordered by rank, unless they clash. -/
theorem TreeKey.Takes.clashes {key other : TreeKey} {parts : List String}
    {given alsoGiven : List (String × String)} (takes : key.Takes parts given)
    (otherTakes : other.Takes parts alsoGiven) (notBefore : ¬ RankedBefore TreeSegment.rank key other)
    (notAfter : ¬ RankedBefore TreeSegment.rank other key) : key.clashes other = true := by
  induction takes generalizing other alsoGiven with
  | done =>
    cases otherTakes
    rfl
  | literal _ ih =>
    cases otherTakes with
    | literal below =>
      have inner := ih below (fun first => notBefore (.there rfl first))
        (fun first => notAfter (.there rfl first))
      simp [TreeKey.clashes, inner]
    | one => exact absurd (.here Nat.zero_lt_one) notBefore
    | rest => exact absurd (.here Nat.zero_lt_two) notBefore
  | one _ _ ih =>
    cases otherTakes with
    | literal => exact absurd (.here Nat.zero_lt_one) notAfter
    | one _ below =>
      exact ih below (fun first => notBefore (.there rfl first)) (fun first => notAfter (.there rfl first))
    | rest => rfl
  | rest =>
    cases otherTakes with
    | literal => exact absurd (.here Nat.zero_lt_two) notAfter
    | one => rfl
    | rest => rfl

/-- A key of the trail takes the parts, and this is what comes of it. -/
def Trail.Gives (trail : Trail) (parts : List String) (key : TreeKey) (found : TreeMatch) : Prop :=
  ∃ start given, (key, start) ∈ trail ∧ key.Takes parts given ∧
    found = { start with params := start.params ++ given }

/-- The answer to a search is right if it comes of a key that no other comes before. -/
def Trail.Answer (trail : Trail) (parts : List String) : Option TreeMatch → Prop
  | none => ∀ key found, ¬ trail.Gives parts key found
  | some found => ∃ key, trail.Gives parts key found ∧
      ∀ other also, trail.Gives parts other also → ¬ RankedBefore TreeSegment.rank other key

variable {trail : Trail} {part : String} {parts : List String} {key : TreeKey} {found : TreeMatch}

theorem Trail.mem_literal_iff {start : TreeMatch} :
    (key, start) ∈ trail.literal part ↔ (.literal part :: key, start) ∈ trail := by
  unfold Trail.literal
  rw [List.mem_filterMap]
  constructor
  · rintro ⟨⟨whole, first⟩, member, kept⟩
    split at kept
    · rename_i wanted below start₂ entry
      simp only [Prod.mk.injEq] at entry
      split at kept
      · rename_i same
        simp only [Option.some.injEq, Prod.mk.injEq] at kept
        obtain ⟨rfl, rfl⟩ := kept
        rw [beq_iff_eq] at same
        rwa [entry.1, entry.2, same] at member
      · cases kept
    · cases kept
  · intro member
    exact ⟨_, member, by simp⟩

theorem Trail.mem_one_iff {start : TreeMatch} :
    (key, start) ∈ trail.one part ↔ ∃ name first, (.one name :: key, first) ∈ trail ∧
      start = { first with params := first.params ++ [(name, part)] } := by
  unfold Trail.one
  rw [List.mem_filterMap]
  constructor
  · rintro ⟨⟨whole, first⟩, member, kept⟩
    split at kept
    · rename_i name below first₂ entry
      simp only [Prod.mk.injEq] at entry
      simp only [Option.some.injEq, Prod.mk.injEq] at kept
      rw [entry.1, entry.2, kept.1] at member
      exact ⟨name, _, member, kept.2.symm⟩
    · cases kept
  · rintro ⟨name, first, member, rfl⟩
    exact ⟨_, member, rfl⟩

theorem Trail.gives_literal_iff :
    trail.Gives (part :: parts) (.literal part :: key) found ↔ (trail.literal part).Gives parts key found := by
  unfold Gives
  constructor
  · rintro ⟨start, given, member, takes, same⟩
    cases takes with
    | literal takes => exact ⟨start, given, mem_literal_iff.mpr member, takes, same⟩
  · rintro ⟨start, given, member, takes, same⟩
    exact ⟨start, given, mem_literal_iff.mp member, .literal takes, same⟩

theorem Trail.gives_one_iff :
    (∃ name, trail.Gives (part :: parts) (.one name :: key) found) ↔
      ¬ (part = "" ∧ parts = []) ∧ (trail.one part).Gives parts key found := by
  unfold Gives
  constructor
  · rintro ⟨name, start, given, member, takes, same⟩
    cases takes with
    | one filled takes =>
      refine ⟨filled, _, _, mem_one_iff.mpr ⟨name, start, member, rfl⟩, takes, ?_⟩
      simp [same]
  · rintro ⟨filled, start, given, member, takes, same⟩
    obtain ⟨name, first, within, rfl⟩ := mem_one_iff.mp member
    exact ⟨name, first, _, within, .one filled takes, by simp [same]⟩

theorem Trail.gives_rest_iff {name : String} :
    trail.Gives (part :: parts) [.rest name] found ↔
      ∃ start, ([.rest name], start) ∈ trail ∧ joinParts (part :: parts) ≠ [] ∧
        found = { start with
          params := start.params ++ [(name, String.ofList (joinParts (part :: parts)))] } := by
  unfold Gives
  constructor
  · rintro ⟨start, given, member, takes, same⟩
    cases takes with
    | rest filled => exact ⟨start, member, filled, same⟩
  · rintro ⟨start, member, filled, same⟩
    exact ⟨start, _, member, .rest filled, same⟩

theorem Trail.gives_of_rest? (first : trail.rest? (part :: parts) = some found) :
    ∃ name, trail.Gives (part :: parts) [.rest name] found := by
  unfold Trail.rest? at first
  obtain ⟨⟨whole, start⟩, member, taken⟩ := List.exists_of_findSome?_eq_some first
  split at taken
  · rename_i name start₂ entry
    simp only [Prod.mk.injEq] at entry
    dsimp only at taken
    split at taken
    · cases taken
    · rename_i filled
      rw [entry.1] at member
      simp only [Option.some.injEq] at taken
      exact ⟨name, gives_rest_iff.mpr ⟨start, member, by simpa using filled, by rw [← taken, entry.2]⟩⟩
  · cases taken

theorem Trail.not_gives_of_rest? (nothing : trail.rest? (part :: parts) = none) (name : String) :
    ¬ trail.Gives (part :: parts) [.rest name] found := by
  intro gives
  obtain ⟨start, member, filled, _⟩ := gives_rest_iff.mp gives
  unfold Trail.rest? at nothing
  have taken := List.findSome?_eq_none_iff.mp nothing _ member
  simp [filled] at taken

theorem Trail.search_of_isEmpty (parts : List String) : Trail.search [] parts = none := by
  cases parts <;> rfl

/-- The search without its shortcuts, which an empty trail does not need. -/
theorem Trail.search_cons (trail : Trail) (part : String) (parts : List String) :
    trail.search (part :: parts) =
      (search (trail.literal part) parts).or
        ((if part = "" ∧ parts = [] then none else search (trail.one part) parts).or
          (trail.rest? (part :: parts))) := by
  rw [search]
  cases trail with
  | nil => simp [Trail.literal, Trail.one, search_of_isEmpty]
  | cons entry trail =>
    by_cases last : part = "" ∧ parts = []
    · simp [last]
    · have open' : ¬ (part.isEmpty && parts.isEmpty) = true := by simpa using last
      simp [last, open']

theorem Trail.search_nil (trail : Trail) : trail.Answer [] (trail.search []) := by
  rw [search, Trail.end?]
  rcases ended : trail.findSome? _ with _ | found
  · rintro key found ⟨start, given, member, takes, _⟩
    cases takes
    have taken := List.findSome?_eq_none_iff.mp ended _ member
    cases taken
  · obtain ⟨⟨key, start⟩, member, taken⟩ := List.exists_of_findSome?_eq_some ended
    split at taken
    · rename_i start₂ entry
      simp only [Prod.mk.injEq] at entry
      cases taken
      rw [entry.1] at member
      refine ⟨[], ⟨start, [], member, .done, by simp [entry.2]⟩, ?_⟩
      rintro other also - first
      cases first
    · cases taken

theorem Trail.Gives.head (gives : trail.Gives (part :: parts) key found) :
    (∃ below, key = .literal part :: below) ∨ (∃ name below, key = .one name :: below) ∨
      ∃ name, key = [.rest name] := by
  obtain ⟨start, given, _, takes, _⟩ := gives
  cases takes with
  | literal => exact Or.inl ⟨_, rfl⟩
  | one => exact Or.inr (Or.inl ⟨_, _, rfl⟩)
  | rest => exact Or.inr (Or.inr ⟨_, rfl⟩)

theorem Trail.answer_literal (answer : (trail.literal part).Answer parts (some found)) :
    trail.Answer (part :: parts) (some found) := by
  obtain ⟨key, gives, least⟩ := answer
  refine ⟨.literal part :: key, gives_literal_iff.mpr gives, ?_⟩
  intro other also otherGives first
  rcases otherGives.head with ⟨below, rfl⟩ | ⟨name, below, rfl⟩ | ⟨name, rfl⟩
  · cases first with
    | here less => exact Nat.lt_irrefl 0 less
    | there _ first => exact least below also (gives_literal_iff.mp otherGives) first
  · cases first with
    | here less => exact Nat.not_lt_zero 1 less
    | there same => exact Nat.one_ne_zero same
  · cases first with
    | here less => exact Nat.not_lt_zero 2 less
    | there same => exact Nat.succ_ne_zero 1 same

theorem Trail.answer_one (noText : ∀ key found, ¬ trail.Gives (part :: parts) (.literal part :: key) found)
    (filled : ¬ (part = "" ∧ parts = [])) (answer : (trail.one part).Answer parts (some found)) :
    trail.Answer (part :: parts) (some found) := by
  obtain ⟨key, below, least⟩ := answer
  obtain ⟨name, gives⟩ := gives_one_iff.mpr ⟨filled, below⟩
  refine ⟨.one name :: key, gives, ?_⟩
  intro other also otherGives first
  rcases otherGives.head with ⟨inner, rfl⟩ | ⟨name₂, inner, rfl⟩ | ⟨name₂, rfl⟩
  · exact noText inner also otherGives
  · cases first with
    | here less => exact Nat.lt_irrefl 1 less
    | there _ first => exact least inner also (gives_one_iff.mp ⟨name₂, otherGives⟩).2 first
  · cases first with
    | here less => exact Nat.not_succ_lt_self less
    | there same => exact Nat.succ_ne_self 1 same

theorem Trail.answer_rest (noText : ∀ key found, ¬ trail.Gives (part :: parts) (.literal part :: key) found)
    (noName : ∀ name key found, ¬ trail.Gives (part :: parts) (.one name :: key) found) :
    trail.Answer (part :: parts) (trail.rest? (part :: parts)) := by
  rcases rested : trail.rest? (part :: parts) with _ | found
  · intro key found gives
    rcases gives.head with ⟨below, rfl⟩ | ⟨name, below, rfl⟩ | ⟨name, rfl⟩
    · exact noText below found gives
    · exact noName name below found gives
    · exact not_gives_of_rest? rested name gives
  · obtain ⟨name, gives⟩ := gives_of_rest? rested
    refine ⟨[.rest name], gives, ?_⟩
    intro other also otherGives first
    rcases otherGives.head with ⟨below, rfl⟩ | ⟨name₂, below, rfl⟩ | ⟨name₂, rfl⟩
    · exact noText below also otherGives
    · exact noName name₂ below also otherGives
    · cases first with
      | here less => exact Nat.lt_irrefl 2 less
      | there _ first => cases first

/-- Going down the entries that still fit, text before name before tail, finds the best of them. -/
theorem Trail.search_answers (trail : Trail) (parts : List String) :
    trail.Answer parts (trail.search parts) := by
  induction parts generalizing trail with
  | nil => exact trail.search_nil
  | cons part parts ih =>
    rw [search_cons]
    have literals := ih (trail.literal part)
    have ones := ih (trail.one part)
    rcases byText : search (trail.literal part) parts with _ | found
    · rw [byText] at literals
      have noText : ∀ key found, ¬ trail.Gives (part :: parts) (.literal part :: key) found :=
        fun key found gives => literals key found (gives_literal_iff.mp gives)
      rw [Option.none_or]
      by_cases last : part = "" ∧ parts = []
      · rw [if_pos last, Option.none_or]
        exact answer_rest noText fun name key found gives => (gives_one_iff.mp ⟨name, gives⟩).1 last
      · rw [if_neg last]
        rcases byName : search (trail.one part) parts with _ | found
        · rw [byName] at ones
          rw [Option.none_or]
          exact answer_rest noText fun name key found gives =>
            ones key found (gives_one_iff.mp ⟨name, gives⟩).2
        · rw [byName] at ones
          exact answer_one noText last ones
    · rw [byText] at literals
      exact answer_literal literals

/-- The trail that a search starts with: every key of the tree, with nothing given to its names. -/
def RouteTree.entrance (tree : RouteTree) : Trail :=
  tree.map fun (key, slot) => (key, ⟨slot, []⟩)

theorem RouteTree.search_eq (tree : RouteTree) (path : String) :
    tree.search path = (pathParts? path).bind tree.entrance.search :=
  rfl

theorem RouteTree.gives_iff {tree : RouteTree} :
    tree.entrance.Gives parts key found ↔
      (key, found.slot) ∈ tree ∧ key.Takes parts found.params := by
  unfold Trail.Gives RouteTree.entrance
  constructor
  · rintro ⟨start, given, member, takes, rfl⟩
    obtain ⟨⟨whole, slot⟩, within, entry⟩ := List.mem_map.mp member
    simp only [Prod.mk.injEq] at entry
    obtain ⟨rfl, rfl⟩ := entry
    exact ⟨within, by simpa using takes⟩
  · rintro ⟨member, takes⟩
    exact ⟨⟨found.slot, []⟩, found.params, List.mem_map.mpr ⟨_, member, rfl⟩, takes, rfl⟩

end MediaServer
