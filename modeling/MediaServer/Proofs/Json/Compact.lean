import MediaServer.Json.Reading
import MediaServer.Proofs.Json.Value

namespace MediaServer

/-- The bytes of a member of an object that is written without blanks. -/
def Json.memberBytes (member : String × Json) : Bytes :=
  0x22 :: bodyBytes member.1.toList ++ 0x22 :: 0x3A :: member.2.bytes

/-- What follows the first member, with a comma before each other member and the brace at the end. -/
def Json.othersBytes (members : List (String × Json)) : Bytes :=
  members.flatMap (fun member => 0x2C :: memberBytes member) ++ [0x7D]

theorem Json.renderMembers_bytes (members : List (String × Json)) :
    (renderMembers members).flatMap String.utf8EncodeChar = othersBytes members := by
  induction members with
  | nil => rfl
  | cons member members ih =>
    obtain ⟨name, value⟩ := member
    simp only [renderMembers, List.flatMap_cons, List.flatMap_append, quote_bytes, ih, othersBytes, memberBytes,
      bytes]
    simp [String.utf8EncodeChar]

theorem Json.bytes_object (member : String × Json) (members : List (String × Json)) :
    bytes (.object (member :: members)) = 0x7B :: memberBytes member ++ othersBytes members := by
  obtain ⟨name, value⟩ := member
  rw [bytes, render]
  simp only [List.flatMap_cons, List.flatMap_append, quote_bytes, renderMembers_bytes, memberBytes, bytes]
  simp [String.utf8EncodeChar]

theorem Json.length_lt_othersBytes (members : List (String × Json)) :
    members.length < (othersBytes members).length := by
  induction members with
  | nil => exact Nat.zero_lt_one
  | cons member members ih =>
    simp only [othersBytes, List.flatMap_cons, List.length_append, List.length_cons] at ih ⊢
    omega

theorem Json.othersBytes_ends (members : List (String × Json)) (rest : Bytes) :
    Written.EndsNumber (othersBytes members ++ rest) := by
  cases members with
  | nil =>
    intro byte first
    cases first
    decide
  | cons member members =>
    intro byte first
    cases first
    decide

/-- One member is read, and what follows it decides whether there are more. -/
theorem Written.readMembers_member {name : String} {value : Json} {written : Written}
    (reads : Json.ReadsAs value written) (fuel : Nat) {rest after : Bytes} (ended : EndsNumber rest) :
    (skipBlanks rest = 0x2C :: after →
      readMembers (fuel + 2) (Json.memberBytes (name, value) ++ rest) =
        (readMembers (fuel + 1) after).map fun found =>
          ((Json.bodyBytes name.toList, written) :: found.1, found.2)) ∧
    (skipBlanks rest = 0x7D :: after →
      readMembers (fuel + 2) (Json.memberBytes (name, value) ++ rest) =
        some ([(Json.bodyBytes name.toList, written)], after)) := by
  have read := (reads fuel rest ended).1
  have quote : ∀ more, skipBlanks (0x22 :: more) = 0x22 :: more := fun _ => rfl
  have colon : ∀ more, skipBlanks (0x3A :: more) = 0x3A :: more := fun _ => rfl
  rw [readMembers]
  simp only [Json.memberBytes, List.cons_append, List.append_assoc, quote, readBody_bodyBytes, Option.bind_some,
    colon, read]
  constructor
  · intro comma
    simp only [comma]
  · intro brace
    simp only [brace]

/-- Members are read one by one, up to the brace. -/
theorem Written.readMembers_members {members : List ((String × Json) × Written)}
    (reads : ∀ member ∈ members, Json.ReadsAs member.1.2 member.2) {name : String} {value : Json}
    {written : Written} (first : Json.ReadsAs value written) (fuel : Nat) (rest : Bytes) :
    readMembers (fuel + members.length + 2)
        (Json.memberBytes (name, value) ++ (Json.othersBytes (members.map (·.1)) ++ rest)) =
      some ((Json.bodyBytes name.toList, written) ::
        members.map fun member => (Json.bodyBytes member.1.1.toList, member.2), rest) := by
  induction members generalizing name value written with
  | nil => exact (readMembers_member first fuel (Json.othersBytes_ends [] rest)).2 rfl
  | cons member members ih =>
    obtain ⟨⟨nextName, nextValue⟩, nextWritten⟩ := member
    have ⟨here, later⟩ := List.forall_mem_cons.mp reads
    have comma : skipBlanks (Json.othersBytes ((nextName, nextValue) :: members.map (·.1)) ++ rest) =
        0x2C :: (Json.memberBytes (nextName, nextValue) ++ (Json.othersBytes (members.map (·.1)) ++ rest)) := by
      simp [Json.othersBytes, skipBlanks, isBlank]
    have ended := Json.othersBytes_ends ((nextName, nextValue) :: members.map (·.1)) rest
    exact ((readMembers_member first (fuel + members.length + 1) ended).1 comma).trans
      (by rw [ih later here, Option.map_some]; rfl)

/-- An object without blanks is read as its members, in their order, and nothing is left. -/
theorem Written.read?_object {name : String} {value : Json} {written : Written}
    (first : Json.ReadsAs value written) {members : List ((String × Json) × Written)}
    (reads : ∀ member ∈ members, Json.ReadsAs member.1.2 member.2) :
    read? (Json.bytes (.object ((name, value) :: members.map (·.1)))) =
      some (.object ((Json.bodyBytes name.toList, written) ::
        members.map fun member => (Json.bodyBytes member.1.1.toList, member.2))) := by
  have long := Json.length_lt_othersBytes (members.map (·.1))
  rw [List.length_map] at long
  rw [read?, Json.bytes_object]
  obtain ⟨fuel, total⟩ : ∃ fuel, 2 * (0x7B :: Json.memberBytes (name, value) ++
      Json.othersBytes (members.map (·.1))).length + 2 = fuel + members.length + 2 + 1 := by
    simp only [List.length_append, List.length_cons]
    exact ⟨2 * ((Json.memberBytes (name, value)).length + 1 +
      (Json.othersBytes (members.map (·.1))).length) - members.length - 1, by omega⟩
  have inner := @readMembers_members members reads name value written first fuel []
  have opened : ∀ more, skipBlanks (0x7B :: more) = 0x7B :: more := fun _ => rfl
  rw [List.append_nil] at inner
  have quote : ∃ others, Json.memberBytes (name, value) ++ Json.othersBytes (members.map (·.1)) = 0x22 :: others ∧
      skipBlanks (0x22 :: others) = 0x22 :: others := ⟨_, rfl, rfl⟩
  obtain ⟨others, start, same⟩ := quote
  rw [start] at inner
  have object : readValue (fuel + members.length + 2 + 1) (0x7B :: (0x22 :: others)) =
      some (.object ((Json.bodyBytes name.toList, written) ::
        members.map fun member => (Json.bodyBytes member.1.1.toList, member.2)), []) := by
    rw [readValue, opened]
    simp only [same]
    change (readMembers (fuel + members.length + 2) (0x22 :: others)).map _ = _
    rw [inner, Option.map_some]
  rw [total, List.cons_append, start, object, Option.bind_some]
  rfl

/-- An object whose members are texts. -/
def Json.ofTexts (members : List (String × String)) : Json :=
  .object (members.map fun member => (member.1, .text member.2))

theorem Written.toJson?_texts (members : List (String × String)) :
    toJson? (.object (members.map fun member =>
      (Json.bodyBytes member.1.toList, .text (Json.bodyBytes member.2.toList)))) = some (Json.ofTexts members) := by
  have read : membersToJson? (members.map fun member =>
      (Json.bodyBytes member.1.toList, .text (Json.bodyBytes member.2.toList))) =
        some (members.map fun member => (member.1, .text member.2)) := by
    induction members with
    | nil => rw [List.map_nil, membersToJson?, List.map_nil]
    | cons member members ih =>
      rw [List.map_cons, membersToJson?, ih, decodeBody?_bodyBytes, toJson?, decodeBody?_bodyBytes]
      rfl
  rw [toJson?, read, Option.map_some]
  rfl

/-- Whatever its texts are, an object of texts is read back as it was written. -/
theorem Json.read?_texts (members : List (String × String)) :
    read? (Utf8.encode (ofTexts members).toText) = some (ofTexts members) := by
  have encoded : Utf8.encode (ofTexts members).toText = (ofTexts members).bytes := by
    rw [toText, Utf8.encode_ofList]
    rfl
  have values := Written.toJson?_texts members
  rw [encoded, read?]
  rcases members with _ | ⟨⟨name, value⟩, members⟩
  · rfl
  · have reads : ∀ member ∈ members.map fun member =>
        ((member.1, Json.text member.2), Written.text (bodyBytes member.2.toList)), ReadsAs member.1.2 member.2 := by
      intro member inside
      obtain ⟨own, _, rfl⟩ := List.mem_map.mp inside
      exact text_readsAs own.2
    have object := @Written.read?_object name _ _ (text_readsAs value) _ reads
    rw [List.map_map, List.map_map] at object
    exact (congrArg (·.bind Written.toJson?) object).trans values

end MediaServer
