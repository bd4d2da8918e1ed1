import Mathlib.Data.List.DropRight
import MediaServer.Proofs.Json.Value

namespace MediaServer

theorem Json.memberLine_bytes (name : String) (value : Json) :
    (Json.memberLine (name, value)).flatMap String.utf8EncodeChar =
      0x20 :: 0x20 :: 0x22 :: bodyBytes name.toList ++ 0x22 :: 0x3A :: 0x20 :: value.bytes := by
  have quoted := quote_bytes name
  simp only [memberLine, List.flatMap_cons, List.flatMap_append, quoted, bytes]
  simp [String.utf8EncodeChar]

/-- The bytes of the lines of some members, with a comma and a line feed between them. -/
def Json.lineBytes (members : List (String × Json)) : Bytes :=
  ([',', '\n'].intercalate (members.map Json.memberLine)).flatMap String.utf8EncodeChar

theorem Json.lineBytes_singleton (member : String × Json) :
    lineBytes [member] = (Json.memberLine member).flatMap String.utf8EncodeChar := by
  simp [lineBytes]

theorem Json.lineBytes_cons (member next : String × Json) (members : List (String × Json)) :
    lineBytes (member :: next :: members) =
      (Json.memberLine member).flatMap String.utf8EncodeChar ++
        0x2C :: 0x0A :: lineBytes (next :: members) := by
  simp only [lineBytes, List.map_cons, List.intercalate_cons_cons, List.flatMap_append]
  rw [List.append_assoc]
  rfl

theorem Json.sheet_bytes (members : List (String × Json)) :
    Utf8.encode (Json.sheet members) = 0x7B :: 0x0A :: lineBytes members ++ [0x0A, 0x7D] := by
  rw [sheet, Utf8.encode_ofList]
  simp only [List.cons_append, List.flatMap_cons, List.flatMap_append]
  rfl

theorem Json.length_le_lineBytes (members : List (String × Json)) :
    members.length ≤ (lineBytes members).length := by
  induction members with
  | nil => exact Nat.zero_le _
  | cons member members ih =>
    obtain ⟨name, value⟩ := member
    cases members with
    | nil => rw [lineBytes_singleton, memberLine_bytes]; simp
    | cons next members =>
      rw [lineBytes_cons, List.length_append, List.length_cons, List.length_cons]
      simp only [List.length_cons] at ih ⊢
      omega

theorem Written.readMembers_skipBlanks (fuel : Nat) (bytes : Bytes) :
    readMembers (fuel + 1) (skipBlanks bytes) = readMembers (fuel + 1) bytes := by
  have again : skipBlanks (skipBlanks bytes) = skipBlanks bytes := List.dropWhile_idempotent ..
  rw [readMembers, readMembers, again]

/-- One line is read, and what follows it decides whether there are more. -/
theorem Written.readMembers_line {name : String} {value : Json} {written : Written}
    (reads : Json.ReadsAs value written) (fuel : Nat) {rest after : Bytes} (ended : EndsNumber rest) :
    (skipBlanks rest = 0x2C :: after →
      readMembers (fuel + 2) ((Json.memberLine (name, value)).flatMap String.utf8EncodeChar ++ rest) =
        (readMembers (fuel + 1) after).map fun found =>
          ((Json.bodyBytes name.toList, written) :: found.1, found.2)) ∧
    (skipBlanks rest = 0x7D :: after →
      readMembers (fuel + 2) ((Json.memberLine (name, value)).flatMap String.utf8EncodeChar ++ rest) =
        some ([(Json.bodyBytes name.toList, written)], after)) := by
  have read := (reads fuel rest ended).2
  rw [List.cons_append] at read
  rw [Json.memberLine_bytes, readMembers]
  have skipped : ∀ others, skipBlanks (0x20 :: 0x20 :: 0x22 :: others) = 0x22 :: others := fun _ => rfl
  have colon : ∀ others, skipBlanks (0x3A :: others) = 0x3A :: others := fun _ => rfl
  simp only [List.cons_append, List.append_assoc, skipped, readBody_bodyBytes, Option.bind_some, colon, read]
  constructor
  · intro comma
    simp only [comma]
  · intro brace
    simp only [brace]

/-- Members are read line by line. -/
theorem Written.readMembers_lines {members : List ((String × Json) × Written)} (some : members ≠ [])
    (reads : ∀ member ∈ members, Json.ReadsAs member.1.2 member.2) (fuel : Nat) (rest : Bytes) :
    readMembers (fuel + members.length + 1)
        (Json.lineBytes (members.map (·.1)) ++ 0x0A :: 0x7D :: rest) =
      .some (members.map fun member => (Json.bodyBytes member.1.1.toList, member.2), rest) := by
  induction members with
  | nil => exact absurd rfl some
  | cons member members ih =>
    obtain ⟨⟨name, value⟩, written⟩ := member
    have ⟨here, others⟩ := List.forall_mem_cons.mp reads
    rcases members with _ | ⟨next, members⟩
    · have ended : EndsNumber (0x0A :: 0x7D :: rest) := by
        rintro byte ⟨⟩
        decide
      rw [List.map_singleton, Json.lineBytes_singleton]
      exact (readMembers_line here fuel ended).2 rfl
    · have ended : ∀ more, EndsNumber (0x2C :: more) := by
        rintro more byte ⟨⟩
        decide
      have more := ih (List.cons_ne_nil _ _) others
      rw [List.map_cons, List.map_cons, Json.lineBytes_cons, List.append_assoc, List.cons_append,
        List.cons_append, ← List.map_cons]
      have line := (@readMembers_line name value written here (fuel + (next :: members).length) _ _ (ended
        (0x0A :: (Json.lineBytes ((next :: members).map (·.1)) ++ 0x0A :: 0x7D :: rest)))).1 rfl
      have feed : ∀ fuel others, readMembers (fuel + 1) (0x0A :: others) = readMembers (fuel + 1) others := by
        intro fuel others
        rw [← readMembers_skipBlanks fuel others, ← readMembers_skipBlanks]
        rfl
      rw [feed, more] at line
      exact line

theorem Json.skipBlanks_lines {members : List (String × Json)} (some : members ≠ []) (rest : Bytes) :
    ∃ others, Written.skipBlanks (0x0A :: (lineBytes members ++ rest)) = 0x22 :: others := by
  rcases members with _ | ⟨⟨name, value⟩, _ | ⟨next, members⟩⟩
  · exact absurd rfl some
  · rw [lineBytes_singleton, memberLine_bytes]
    exact ⟨_, rfl⟩
  · rw [lineBytes_cons, memberLine_bytes]
    exact ⟨_, rfl⟩

/-- An object with one member per line is read as its members, in their order, and nothing is left. -/
theorem Written.readValue_sheet {members : List ((String × Json) × Written)} (some : members ≠ [])
    (reads : ∀ member ∈ members, Json.ReadsAs member.1.2 member.2) :
    readValue (2 * (Utf8.encode (Json.sheet (members.map (·.1)))).length + 2)
        (Utf8.encode (Json.sheet (members.map (·.1)))) =
      .some (.object (members.map fun member => (Json.bodyBytes member.1.1.toList, member.2)), []) := by
  have long := Json.length_le_lineBytes (members.map (·.1))
  rw [List.length_map] at long
  rw [Json.sheet_bytes]
  obtain ⟨fuel, total⟩ : ∃ fuel, 2 * (0x7B :: 0x0A :: Json.lineBytes (members.map (·.1)) ++
      [(0x0A : UInt8), 0x7D]).length + 2 = fuel + members.length + 1 + 1 := by
    simp only [List.length_append, List.length_cons]
    exact ⟨2 * (Json.lineBytes (members.map (·.1))).length + 8 - members.length, by simp; omega⟩
  obtain ⟨others, quote⟩ := Json.skipBlanks_lines (List.map_eq_nil_iff.not.mpr some) [0x0A, 0x7D]
  have lines := readMembers_lines some reads fuel []
  rw [← readMembers_skipBlanks] at lines
  have opened : ∀ more, skipBlanks (0x7B :: more) = 0x7B :: more := fun _ => rfl
  have inner : readMembers (fuel + members.length + 1) (0x22 :: others) =
      .some (members.map fun member => (Json.bodyBytes member.1.1.toList, member.2), []) := by
    rw [← quote, ← lines]
    rfl
  rw [total, readValue, List.cons_append, List.cons_append, opened]
  simp only [quote]
  change (readMembers (fuel + members.length + 1) (0x22 :: others)).map _ = _
  rw [inner, Option.map_some]

end MediaServer
