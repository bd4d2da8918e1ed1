import MediaServer.Proofs.Route.BestMatch

namespace MediaServer

variable {α : Type} {registrations : List (Registration α)} {table : RouteTable α} {path : String}

/-- One of these registrations is for the pattern, and what its captures take from the path decodes to
these values, each of its class. -/
def RoutePattern.Accepts (registrations : List (Registration α)) (path : String) (pattern : RoutePattern)
    (captures : Captures) : Prop :=
  pattern.Registered registrations ∧ ∃ taken, pattern.Takes path taken ∧ taken.decode? = some captures

/-- The answers that a pattern gives which accepts the path with these captures. -/
inductive Lookup.Given (registrations : List (Registration α)) (method : String) (pattern : RoutePattern)
    (captures : Captures) : Lookup α → Prop
  | preflight : method = "OPTIONS" → Given registrations method pattern captures .preflight
  | found {handler : α} : method ≠ "OPTIONS" → ⟨method, pattern.source, handler⟩ ∈ registrations →
      Given registrations method pattern captures (.found handler captures)
  | methodNotAllowed : method ≠ "OPTIONS" →
      (∀ handler, ⟨method, pattern.source, handler⟩ ∉ registrations) →
      Given registrations method pattern captures .methodNotAllowed

theorem Lookup.IsOf.given {method : String} {best : RoutePattern} {captures : Captures} {answer : Lookup α}
    (isOf : IsOf registrations method best (some captures) answer) :
    Given registrations method best captures answer := by
  simp only [IsOf] at isOf
  by_cases options : method = "OPTIONS"
  · rw [if_pos options] at isOf
    rw [isOf]
    exact .preflight options
  · rw [if_neg options] at isOf
    obtain ⟨handled, refused⟩ := isOf
    by_cases some : ∃ handler, ⟨method, best.source, handler⟩ ∈ registrations
    · obtain ⟨handler, member⟩ := some
      rw [handled handler member]
      exact .found options member
    · have absent := not_exists.mp some
      rw [refused absent]
      exact .methodNotAllowed options absent

/-- Behind every answer but `notFound` there is a pattern that accepts the path. -/
theorem RouteTable.Holds.lookup_given (holds : table.Holds registrations) (indexed : table.Indexed)
    (method path : String) :
    table.lookup method path = .notFound ∨
      ∃ pattern captures, RoutePattern.Accepts registrations path pattern captures ∧
        Lookup.Given registrations method pattern captures (table.lookup method path) := by
  by_cases some : ∃ pattern : RoutePattern, pattern.Matches registrations path
  · obtain ⟨pattern, fits⟩ := some
    obtain ⟨found, searched⟩ := holds.search_isSome indexed fits
    obtain ⟨best, taken, least, _⟩ := holds.best_of_search indexed searched
    have isOf := holds.lookup_of_best indexed least method
    rcases decoded : taken.decode? with _ | captures
    · rw [decoded] at isOf
      exact .inl isOf
    · rw [decoded] at isOf
      exact .inr ⟨best, captures, ⟨least.registered, taken, least.takes, decoded⟩, isOf.given⟩
  · exact .inl (holds.lookup_of_none indexed (not_exists.mp some) method).2

/-- A path that no pattern accepts is not found, and behind every other answer there is a pattern that
accepts: one with the handler that is found, or one without any for the method. If the best match
accepts, its own handlers alone give the answer. -/
theorem RouteTable.lookup_by_acceptance (accepted : ofRegistrations registrations = .ok table)
    (method path : String) :
    ((∀ pattern captures, ¬ RoutePattern.Accepts registrations path pattern captures) →
      table.lookup method path = .notFound) ∧
    (∀ handler captures, table.lookup method path = .found handler captures →
      method ≠ "OPTIONS" ∧ ∃ pattern, RoutePattern.Accepts registrations path pattern captures ∧
        ⟨method, pattern.source, handler⟩ ∈ registrations) ∧
    (table.lookup method path = .methodNotAllowed →
      method ≠ "OPTIONS" ∧ ∃ pattern captures, RoutePattern.Accepts registrations path pattern captures ∧
        ∀ handler, ⟨method, pattern.source, handler⟩ ∉ registrations) ∧
    (table.lookup method path = .preflight →
      method = "OPTIONS" ∧ ∃ pattern captures, RoutePattern.Accepts registrations path pattern captures) ∧
    (∀ (best : RoutePattern) taken captures, best.Best registrations path taken →
      taken.decode? = some captures →
        table.lookup method path ≠ .notFound ∧
        (table.lookup method path = .preflight ↔ method = "OPTIONS") ∧
        (∀ handler, table.lookup method path = .found handler captures ↔
          method ≠ "OPTIONS" ∧ ⟨method, best.source, handler⟩ ∈ registrations) ∧
        (table.lookup method path = .methodNotAllowed ↔
          method ≠ "OPTIONS" ∧ ∀ handler, ⟨method, best.source, handler⟩ ∉ registrations)) := by
  obtain ⟨indexed, holds⟩ := ofRegistrations_sound accepted
  have behind := holds.lookup_given indexed method path
  refine ⟨?_, ?_, ?_, ?_, ?_⟩
  · intro none
    rcases behind with missed | ⟨pattern, captures, accepts, _⟩
    · exact missed
    · exact absurd accepts (none pattern captures)
  · intro handler captures found
    rw [found] at behind
    rcases behind with missed | ⟨pattern, captures, accepts, given⟩
    · cases missed
    · cases given with
      | found other member => exact ⟨other, pattern, accepts, member⟩
  · intro refused
    rw [refused] at behind
    rcases behind with missed | ⟨pattern, captures, accepts, given⟩
    · cases missed
    · cases given with
      | methodNotAllowed other absent => exact ⟨other, pattern, captures, accepts, absent⟩
  · intro answered
    rw [answered] at behind
    rcases behind with missed | ⟨pattern, captures, accepts, given⟩
    · cases missed
    · cases given with
      | preflight options => exact ⟨options, pattern, captures, accepts⟩
  · intro best taken captures least decoded
    have isOf := holds.lookup_of_best indexed least method
    rw [decoded] at isOf
    generalize table.lookup method path = answer at isOf
    cases isOf.given with
    | preflight options => simp [options]
    | found other member =>
      simp only [Lookup.IsOf, if_neg other] at isOf
      obtain ⟨handled, refused⟩ := isOf
      have some : ¬ ∀ handler, ⟨method, best.source, handler⟩ ∉ registrations := fun absent => absent _ member
      refine ⟨nofun, by simp [other], fun handler => ⟨?_, fun same => handled handler same.2⟩, by simp [some]⟩
      intro same
      cases same
      exact ⟨other, member⟩
    | methodNotAllowed other absent => simp [other, absent]

/-- A literal path for one method, and a capture in the place of its last part for another. -/
def literalBesideCapture : List (Registration Nat) := [
  ⟨"POST", "/m/x", 1⟩,
  ⟨"GET", "/m/\x7bid:media_id\x7d", 2⟩]

theorem literalBesideCapture_accepted :
    ∃ table, RouteTable.ofRegistrations literalBesideCapture = .ok table := by
  have accepted : (RouteTable.ofRegistrations literalBesideCapture).toOption.isSome = true := by
    decide +kernel
  obtain ⟨table, made⟩ := Option.isSome_iff_exists.mp accepted
  exact ⟨table, eq_ok_of_toOption made⟩

theorem literalBesideCapture_accepts : RoutePattern.Accepts literalBesideCapture "/m/x"
    ⟨"/m/\x7bid:media_id\x7d", [.literal "m", .capture "id" .mediaId]⟩ [("id", "x")] := by
  refine ⟨⟨⟨"GET", "/m/\x7bid:media_id\x7d", 2⟩, by simp [literalBesideCapture], by decide +kernel⟩,
    [("id", .mediaId, "x")], ⟨["m", "x"], by decide +kernel, ?_⟩, by decide +kernel⟩
  exact .literal (.one nofun (by simp) .done)

theorem literalBesideCapture_best : RoutePattern.Best literalBesideCapture "/m/x"
    ⟨"/m/x", [.literal "m", .literal "x"]⟩ [] where
  registered := ⟨⟨"POST", "/m/x", 1⟩, by simp [literalBesideCapture], by decide +kernel⟩
  takes := ⟨["m", "x"], by decide +kernel, .literal (.literal .done)⟩
  first := by
    rintro other ⟨⟨entry, member, parsed⟩, _⟩ different
    have literal : RoutePattern.parse "/m/x" = .ok ⟨"/m/x", [.literal "m", .literal "x"]⟩ := by
      decide +kernel
    have capture : RoutePattern.parse "/m/\x7bid:media_id\x7d" =
        .ok ⟨"/m/\x7bid:media_id\x7d", [.literal "m", .capture "id" .mediaId]⟩ := by
      decide +kernel
    simp only [literalBesideCapture, List.mem_cons, List.not_mem_nil, or_false] at member
    rcases member with rfl | rfl
    · rw [literal, Except.ok.injEq] at parsed
      exact absurd parsed.symm different
    · rw [capture, Except.ok.injEq] at parsed
      rw [← parsed]
      exact .there rfl (.here (by decide))

/-- The literal path has the word for its place, so no method of the capture's route is answered there. -/
theorem literalBesideCapture_by_acceptance :
    ∃ table, RouteTable.ofRegistrations literalBesideCapture = .ok table ∧
      table.lookup "POST" "/m/x" = .found 1 [] ∧ table.lookup "GET" "/m/x" = .methodNotAllowed ∧
      table.lookup "OPTIONS" "/m/x" = .preflight := by
  obtain ⟨table, accepted⟩ := literalBesideCapture_accepted
  have answers (method : String) :=
    (RouteTable.lookup_by_acceptance accepted method "/m/x").2.2.2.2 _ _ _ literalBesideCapture_best rfl
  refine ⟨table, accepted, ?_, ?_, ?_⟩
  · exact ((answers "POST").2.2.1 1).mpr ⟨by decide, by simp [literalBesideCapture]⟩
  · exact (answers "GET").2.2.2.mpr ⟨by decide, by simp [literalBesideCapture]⟩
  · exact (answers "OPTIONS").2.1.mpr rfl

/-- Two classes for the part after `/m`. The pattern whose class is narrower comes first. -/
def idBesideFilename : List (Registration Nat) := [
  ⟨"GET", "/m/\x7bid:media_id\x7d/x", 1⟩,
  ⟨"GET", "/m/\x7bname:filename\x7d/\x7bfile:filename\x7d", 2⟩]

theorem idBesideFilename_accepts : RoutePattern.Accepts idBesideFilename "/m/a-b/x"
    ⟨"/m/\x7bname:filename\x7d/\x7bfile:filename\x7d",
      [.literal "m", .capture "name" .filename, .capture "file" .filename]⟩
    [("name", "a-b"), ("file", "x")] := by
  refine ⟨⟨⟨"GET", "/m/\x7bname:filename\x7d/\x7bfile:filename\x7d", 2⟩, by simp [idBesideFilename],
    by decide +kernel⟩, [("name", .filename, "a-b"), ("file", .filename, "x")],
    ⟨["m", "a-b", "x"], by decide +kernel, ?_⟩, by decide +kernel⟩
  exact .literal (.one nofun (by simp) (.one nofun (by simp) .done))

theorem idBesideFilename_missed : ∃ table, RouteTable.ofRegistrations idBesideFilename = .ok table ∧
    table.lookup "GET" "/m/a-b/x" = .notFound := by
  have told : (match RouteTable.ofRegistrations idBesideFilename with
      | .error _ => false
      | .ok table => match table.lookup "GET" "/m/a-b/x" with
        | .notFound => true
        | _ => false) = true := by
    decide +kernel
  split at told
  · cases told
  · rename_i table accepted
    split at told
    · rename_i missed
      exact ⟨table, accepted, missed⟩
    · cases told

/-- Not every pattern that accepts a path is asked: one that is registered for the method stays behind
a literal path that is not, and one whose classes fit behind a pattern whose classes do not. -/
theorem lookup_asks_one_pattern :
    (∃ table, RouteTable.ofRegistrations literalBesideCapture = .ok table ∧
      ¬ (table.lookup "GET" "/m/x" = .methodNotAllowed ↔
        (∃ pattern captures, RoutePattern.Accepts literalBesideCapture "/m/x" pattern captures) ∧
          ∀ pattern captures, RoutePattern.Accepts literalBesideCapture "/m/x" pattern captures →
            ∀ handler, ⟨"GET", pattern.source, handler⟩ ∉ literalBesideCapture) ∧
      ¬ ((∃ handler captures, table.lookup "GET" "/m/x" = .found handler captures) ↔
        ∃ pattern captures handler, RoutePattern.Accepts literalBesideCapture "/m/x" pattern captures ∧
          ⟨"GET", pattern.source, handler⟩ ∈ literalBesideCapture)) ∧
    (∃ table, RouteTable.ofRegistrations idBesideFilename = .ok table ∧
      ¬ (table.lookup "GET" "/m/a-b/x" = .notFound ↔
        ∀ pattern captures, ¬ RoutePattern.Accepts idBesideFilename "/m/a-b/x" pattern captures)) := by
  constructor
  · obtain ⟨table, accepted⟩ := literalBesideCapture_accepted
    obtain ⟨indexed, holds⟩ := RouteTable.ofRegistrations_sound accepted
    have refused : table.lookup "GET" "/m/x" = .methodNotAllowed := by
      have isOf := holds.lookup_of_best indexed literalBesideCapture_best "GET"
      exact isOf.2 (by simp [literalBesideCapture])
    have registered : ⟨"GET", "/m/\x7bid:media_id\x7d", 2⟩ ∈ literalBesideCapture := by
      simp [literalBesideCapture]
    refine ⟨table, accepted, fun exact => ?_, fun exact => ?_⟩
    · exact (exact.mp refused).2 _ _ literalBesideCapture_accepts 2 registered
    · obtain ⟨handler, captures, found⟩ := exact.mpr ⟨_, _, 2, literalBesideCapture_accepts, registered⟩
      rw [refused] at found
      cases found
  · obtain ⟨table, accepted, missed⟩ := idBesideFilename_missed
    exact ⟨table, accepted, fun exact => exact.mp missed _ _ idBesideFilename_accepts⟩

end MediaServer
