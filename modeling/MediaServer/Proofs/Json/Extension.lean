import MediaServer.Proofs.Json.Value

namespace MediaServer

variable {bytes rest : Bytes}

theorem Written.skipBlanks_append {byte : UInt8} (skipped : skipBlanks bytes = byte :: rest) (more : Bytes) :
    skipBlanks (bytes ++ more) = byte :: (rest ++ more) := by
  have found : bytes.dropWhile isBlank = byte :: rest := skipped
  rw [skipBlanks, List.dropWhile_append, found]
  rfl

theorem Written.readBody_append {body : Bytes} (read : readBody bytes = some (body, rest)) (more : Bytes) :
    readBody (bytes ++ more) = some (body, rest ++ more) := by
  fun_induction readBody bytes generalizing body rest with
  | case2 byte bytes quote =>
    cases read
    rw [List.cons_append, readBody.eq_def]
    simp only [quote, if_true]
  | case4 byte quote backslash letter number h₁ h₂ h₃ h₄ bytes digits ih =>
    obtain ⟨⟨inner, after⟩, found, same⟩ := Option.map_eq_some_iff.mp read
    cases same
    simp only [List.cons_append]
    rw [readBody.eq_def]
    simp [quote, backslash, number, digits, ih found]
  | case7 byte quote backslash letter bytes number short ih =>
    obtain ⟨⟨inner, after⟩, found, same⟩ := Option.map_eq_some_iff.mp read
    cases same
    simp only [List.cons_append]
    rw [readBody.eq_def]
    simp [quote, backslash, number, short, ih found]
  | case10 byte bytes quote backslash visible ih =>
    obtain ⟨⟨inner, after⟩, found, same⟩ := Option.map_eq_some_iff.mp read
    cases same
    rw [List.cons_append, readBody.eq_def]
    simp [quote, backslash, visible, ih found]
  | _ => cases read

section Numbers

variable {found : Bytes}

theorem Written.readDigits_eq_some_iff : readDigits bytes = some (found, rest) ↔
    found ≠ [] ∧ bytes.takeWhile isDigitByte = found ∧ bytes.dropWhile isDigitByte = rest := by
  rw [readDigits, List.span_eq_takeWhile_dropWhile]
  rcases digits : bytes.takeWhile isDigitByte with _ | ⟨byte, others⟩
  · simp only [reduceCtorEq, false_iff]
    rintro ⟨some, rfl, _⟩
    exact some rfl
  · simp only [Option.some.injEq, Prod.mk.injEq]
    constructor
    · rintro ⟨rfl, rfl⟩
      exact ⟨List.cons_ne_nil _ _, rfl, rfl⟩
    · exact fun same => same.2

variable (some : rest ≠ []) (more : Bytes)

include some

/-- Digits that something follows end where they did. -/
theorem Written.readDigits_append (read : readDigits bytes = .some (found, rest)) :
    readDigits (bytes ++ more) = .some (found, rest ++ more) := by
  obtain ⟨nonempty, digits, after⟩ := readDigits_eq_some_iff.mp read
  have total : (bytes.takeWhile isDigitByte).length ≠ bytes.length := by
    intro same
    have split := congrArg List.length (List.takeWhile_append_dropWhile (p := isDigitByte) (l := bytes))
    rw [List.length_append, same, after] at split
    exact some (List.eq_nil_of_length_eq_zero (by omega))
  refine readDigits_eq_some_iff.mpr ⟨nonempty, ?_, ?_⟩
  · rw [List.takeWhile_append, if_neg total, digits]
  · rw [List.dropWhile_append, after, if_neg (by simpa using some)]

theorem Written.readFraction_append (read : readFraction bytes = .some (found, rest)) :
    readFraction (bytes ++ more) = .some (found, rest ++ more) := by
  rw [readFraction.eq_def] at read
  split at read
  · obtain ⟨⟨digits, after⟩, inner, same⟩ := Option.map_eq_some_iff.mp read
    cases same
    rw [List.cons_append, readFraction, readDigits_append some more inner, Option.map_some]
  · rename_i noPoint
    cases read
    rcases bytes with _ | ⟨byte, bytes⟩
    · exact absurd rfl some
    · rw [readFraction.eq_def]
      split
      · rename_i other
        cases other
        exact absurd rfl (noPoint bytes)
      · rfl

theorem Written.readExponent_append (read : readExponent bytes = .some (found, rest)) :
    readExponent (bytes ++ more) = .some (found, rest ++ more) := by
  rcases bytes with _ | ⟨letter, bytes⟩
  · cases read
    exact absurd rfl some
  rw [readExponent.eq_def] at read
  rw [List.cons_append, readExponent.eq_def]
  simp only at read ⊢
  by_cases exponent : (letter == 0x65 || letter == 0x45) = true
  · rw [if_pos exponent] at read ⊢
    rcases bytes with _ | ⟨sign, bytes⟩
    · cases read
    · rw [List.cons_append]
      simp only at read ⊢
      split at read
      · rename_i signed
        obtain ⟨⟨digits, after⟩, inner, same⟩ := Option.map_eq_some_iff.mp read
        cases same
        rw [if_pos signed, readDigits_append some more inner, Option.map_some]
      · rename_i unsigned
        obtain ⟨⟨digits, after⟩, inner, same⟩ := Option.map_eq_some_iff.mp read
        cases same
        rw [if_neg unsigned, ← List.cons_append, readDigits_append some more inner, Option.map_some]
  · rw [if_neg exponent] at read ⊢
    cases read
    rfl

theorem Written.readWhole_append (read : readWhole bytes = .some (found, rest)) :
    readWhole (bytes ++ more) = .some (found, rest ++ more) := by
  rw [readWhole.eq_def] at read
  split at read
  · cases read
    rfl
  · rename_i noZero
    have longer := readDigits_append some more read
    rw [readWhole.eq_def]
    split
    · rename_i after zero
      rcases bytes with _ | ⟨byte, bytes⟩
      · cases read
      · cases zero
        exact absurd rfl (noZero bytes)
    · exact longer

/-- What of a number comes after this sign. -/
def Written.readUnsigned (sign bytes : Bytes) : Option (Bytes × Bytes) :=
  (readWhole bytes).bind fun (whole, rest) =>
  (readFraction rest).bind fun (fraction, rest) =>
  (readExponent rest).bind fun (exponent, rest) =>
  .some (sign ++ whole ++ fraction ++ exponent, rest)

omit some in
theorem Written.readUnsigned_eq_some_iff {sign : Bytes} :
    readUnsigned sign bytes = .some (found, rest) ↔
      ∃ whole fraction exponent middle last, readWhole bytes = .some (whole, middle) ∧
        readFraction middle = .some (fraction, last) ∧ readExponent last = .some (exponent, rest) ∧
        sign ++ whole ++ fraction ++ exponent = found := by
  constructor
  · intro read
    obtain ⟨⟨whole, middle⟩, first, read⟩ := Option.bind_eq_some_iff.mp read
    obtain ⟨⟨fraction, last⟩, second, read⟩ := Option.bind_eq_some_iff.mp read
    obtain ⟨⟨exponent, rest⟩, third, read⟩ := Option.bind_eq_some_iff.mp read
    cases read
    exact ⟨whole, fraction, exponent, middle, last, first, second, third, rfl⟩
  · rintro ⟨whole, fraction, exponent, middle, last, first, second, third, rfl⟩
    simp only [readUnsigned, first, second, third, Option.bind_some]

theorem Written.readUnsigned_append {sign : Bytes} (read : readUnsigned sign bytes = .some (found, rest)) :
    readUnsigned sign (bytes ++ more) = .some (found, rest ++ more) := by
  obtain ⟨whole, fraction, exponent, middle, last, first, second, third, rfl⟩ :=
    readUnsigned_eq_some_iff.mp read
  have lastSome : last ≠ [] := by
    rintro rfl
    cases third
    exact some rfl
  have middleSome : middle ≠ [] := by
    rintro rfl
    cases second
    exact lastSome rfl
  exact readUnsigned_eq_some_iff.mpr ⟨whole, fraction, exponent, middle ++ more, last ++ more,
    readWhole_append middleSome more first, readFraction_append lastSome more second,
    readExponent_append some more third, rfl⟩

omit some in
theorem Written.readNumber_minus (bytes : Bytes) : readNumber (0x2D :: bytes) = readUnsigned [0x2D] bytes :=
  rfl

omit some in
theorem Written.readNumber_plain {byte : UInt8} (plain : byte ≠ 0x2D) (others : Bytes) :
    readNumber (byte :: others) = readUnsigned [] (byte :: others) := by
  unfold readNumber
  split
  rename_i sign unsigned parts
  split at parts
  · rename_i same
    exact absurd (List.cons.inj same).1 plain
  · cases parts
    rfl

/-- A number that something follows ends where it did. -/
theorem Written.readNumber_append (read : readNumber bytes = .some (found, rest)) :
    readNumber (bytes ++ more) = .some (found, rest ++ more) := by
  rcases bytes with _ | ⟨byte, others⟩
  · cases read
  · by_cases minus : byte = 0x2D
    · subst minus
      rw [readNumber_minus] at read
      rw [List.cons_append, readNumber_minus, readUnsigned_append some more read]
    · rw [readNumber_plain minus] at read
      rw [List.cons_append, readNumber_plain minus, ← List.cons_append, readUnsigned_append some more read]

omit some in
theorem Written.readNumber_begins (read : readNumber bytes = .some (found, rest)) :
    ∃ byte others, bytes = byte :: others ∧ (byte = 0x2D ∨ isDigitByte byte = true) := by
  rcases bytes with _ | ⟨byte, others⟩
  · cases read
  refine ⟨byte, others, rfl, ?_⟩
  by_cases minus : byte = 0x2D
  · exact .inl minus
  · rw [readNumber_plain minus] at read
    obtain ⟨whole, _, _, middle, _, first, _⟩ := readUnsigned_eq_some_iff.mp read
    rw [readWhole.eq_def] at first
    split at first
    · rename_i zero
      rw [(List.cons.inj zero).1]
      exact .inr rfl
    · obtain ⟨nonempty, digits, _⟩ := readDigits_eq_some_iff.mp first
      rw [List.takeWhile_cons] at digits
      split at digits
      · rename_i digit
        exact .inr digit
      · exact absurd digits.symm nonempty

end Numbers

/-- Nothing that follows can change what was read: only a number is not ended by its own last byte. -/
def Written.Ended (value : Written) (rest : Bytes) : Prop :=
  rest = [] → ∀ spelling, value ≠ .number spelling

/-- With at least this fuel a reader finds the same in front of more bytes. -/
def Written.Extends {α : Type} (reader : Nat → Bytes → Option (α × Bytes)) (ended : α → Bytes → Prop)
    (fuel : Nat) : Prop :=
  ∀ {bytes rest found}, reader fuel bytes = some (found, rest) → ended found rest →
    ∀ more {larger}, fuel ≤ larger → reader larger (bytes ++ more) = some (found, rest ++ more)

theorem Written.readValue_number {byte : UInt8} (skipped : skipBlanks bytes = byte :: rest)
    (begins : byte = 0x2D ∨ isDigitByte byte = true) (fuel : Nat) :
    readValue (fuel + 1) bytes =
      (readNumber (byte :: rest)).map fun (spelling, after) => (.number spelling, after) := by
  rw [readValue, skipped]
  split
  case h_7 => rfl
  all_goals
    rename_i other
    cases other
    exact absurd begins (by decide)

theorem Written.readItems_nil (fuel : Nat) : readItems fuel [] = none := by
  rcases fuel with _ | _ | fuel <;> rfl

theorem Written.readMembers_nil (fuel : Nat) : readMembers fuel [] = none := by
  cases fuel <;> rfl

/-- What is inside a list or an object begins with the same byte in front of more bytes, so it is not taken
for the bracket that ends it there either. -/
theorem Written.inside_extends {α : Type} {reader : Nat → Bytes → Option (α × Bytes)} {fuel larger : Nat}
    (longer : Extends reader (fun _ _ => True) fuel) (enough : fuel ≤ larger)
    (nothing : reader fuel [] = none) {inside : Bytes} {found : α}
    (read : reader fuel (skipBlanks inside) = some (found, rest)) (more : Bytes) :
    ∃ byte others, skipBlanks inside = byte :: others ∧
      skipBlanks (inside ++ more) = byte :: (others ++ more) ∧
      reader larger (byte :: (others ++ more)) = some (found, rest ++ more) := by
  rcases opened : skipBlanks inside with _ | ⟨byte, others⟩
  · rw [opened, nothing] at read
    cases read
  · rw [opened] at read
    exact ⟨byte, others, rfl, skipBlanks_append opened more, longer read trivial more enough⟩

/-- A list or an object is ended by its bracket, so the readers of what is inside need no condition. -/
theorem Written.readValue_extends {fuel : Nat} (items : Extends readItems (fun _ _ => True) fuel)
    (members : Extends readMembers (fun _ _ => True) fuel) : Extends readValue Ended (fuel + 1) := by
  intro bytes rest found read ended more larger enough
  obtain ⟨larger, rfl⟩ : ∃ less, larger = less + 1 := ⟨larger - 1, by omega⟩
  have less : fuel ≤ larger := by omega
  rw [readValue] at read
  split at read
  case h_1 text skipped =>
    obtain ⟨⟨body, after⟩, inner, same⟩ := Option.map_eq_some_iff.mp read
    cases same
    rw [readValue, skipBlanks_append skipped]
    simp only [readBody_append inner, Option.map_some]
  case h_2 inside skipped =>
    rw [readValue, skipBlanks_append skipped]
    simp only
    split at read
    · rename_i closed
      cases read
      simp only [skipBlanks_append closed]
    · rename_i other
      obtain ⟨⟨values, after⟩, inner, same⟩ := Option.map_eq_some_iff.mp read
      cases same
      obtain ⟨byte, others, opened, openedMore, longer⟩ :=
        inside_extends items less (readItems_nil fuel) inner more
      rw [openedMore]
      split
      · rename_i closed
        cases closed
        exact absurd opened (other others)
      · rw [longer, Option.map_some]
  case h_3 inside skipped =>
    rw [readValue, skipBlanks_append skipped]
    simp only
    split at read
    · rename_i closed
      cases read
      simp only [skipBlanks_append closed]
    · rename_i other
      obtain ⟨⟨values, after⟩, inner, same⟩ := Option.map_eq_some_iff.mp read
      cases same
      obtain ⟨byte, others, opened, openedMore, longer⟩ :=
        inside_extends members less (readMembers_nil fuel) inner more
      rw [openedMore]
      split
      · rename_i closed
        cases closed
        exact absurd opened (other others)
      · rw [longer, Option.map_some]
  case h_7 =>
    obtain ⟨⟨spelling, after⟩, inner, same⟩ := Option.map_eq_some_iff.mp read
    cases same
    have some : rest ≠ [] := fun nothing => ended nothing spelling rfl
    obtain ⟨byte, others, skipped, begins⟩ := readNumber_begins inner
    rw [skipped] at inner
    rw [readValue_number (skipBlanks_append skipped more) begins, ← List.cons_append,
      readNumber_append some more inner, Option.map_some]
  all_goals
    rename_i skipped
    cases read
    rw [readValue, skipBlanks_append skipped]
    rfl

theorem Written.readItems_extends {fuel : Nat} (values : Extends readValue Ended fuel)
    (items : Extends readItems (fun _ _ => True) fuel) :
    Extends readItems (fun _ _ => True) (fuel + 1) := by
  intro bytes rest found read _ more larger enough
  obtain ⟨larger, rfl⟩ : ∃ less, larger = less + 1 := ⟨larger - 1, by omega⟩
  have less : fuel ≤ larger := by omega
  rw [readItems] at read
  obtain ⟨⟨item, middle⟩, first, read⟩ := Option.bind_eq_some_iff.mp read
  have followed : ∀ {byte others}, skipBlanks middle = byte :: others → Ended item middle := by
    rintro byte others skipped rfl
    cases skipped
  simp only at read
  split at read
  · rename_i after comma
    obtain ⟨⟨others, last⟩, inner, same⟩ := Option.map_eq_some_iff.mp read
    cases same
    rw [readItems, values first (followed comma) more less, Option.bind_some]
    simp only [skipBlanks_append comma, items inner trivial more less, Option.map_some]
  · rename_i after closed
    cases read
    rw [readItems, values first (followed closed) more less, Option.bind_some]
    simp only [skipBlanks_append closed]
  · cases read

theorem Written.readMembers_extends {fuel : Nat} (values : Extends readValue Ended fuel)
    (members : Extends readMembers (fun _ _ => True) fuel) :
    Extends readMembers (fun _ _ => True) (fuel + 1) := by
  intro bytes rest found read _ more larger enough
  obtain ⟨larger, rfl⟩ : ∃ less, larger = less + 1 := ⟨larger - 1, by omega⟩
  have less : fuel ≤ larger := by omega
  rw [readMembers] at read
  split at read
  case h_2 => cases read
  rename_i inside quote
  obtain ⟨⟨name, named⟩, body, read⟩ := Option.bind_eq_some_iff.mp read
  simp only at read
  split at read
  case h_2 => cases read
  rename_i valued colon
  obtain ⟨⟨value, middle⟩, first, read⟩ := Option.bind_eq_some_iff.mp read
  have followed : ∀ {byte others}, skipBlanks middle = byte :: others → Ended value middle := by
    rintro byte others skipped rfl
    cases skipped
  rw [readMembers, skipBlanks_append quote]
  simp only [readBody_append body, Option.bind_some, skipBlanks_append colon]
  simp only at read
  split at read
  · rename_i after comma
    obtain ⟨⟨others, last⟩, inner, same⟩ := Option.map_eq_some_iff.mp read
    cases same
    rw [values first (followed comma) more less, Option.bind_some]
    simp only [skipBlanks_append comma, members inner trivial more less, Option.map_some]
  · rename_i after closed
    cases read
    rw [values first (followed closed) more less, Option.bind_some]
    simp only [skipBlanks_append closed]
  · cases read

/-- A value that is read from some bytes is read from the same bytes in front of any others. -/
theorem Written.readers_extend (fuel : Nat) : Extends readValue Ended fuel ∧
    Extends readItems (fun _ _ => True) fuel ∧ Extends readMembers (fun _ _ => True) fuel := by
  induction fuel with
  | zero => exact ⟨nofun, nofun, nofun⟩
  | succ fuel ih =>
    obtain ⟨values, items, members⟩ := ih
    exact ⟨readValue_extends items members, readItems_extends values items, readMembers_extends values members⟩

theorem Written.readValue_object {fuel : Nat} {inside : Bytes} {value : Written}
    (read : readValue fuel (0x7B :: inside) = some (value, rest)) : ∃ members, value = .object members := by
  rcases fuel with _ | fuel
  · cases read
  have opened : skipBlanks (0x7B :: inside) = 0x7B :: inside := rfl
  rw [readValue, opened] at read
  simp only at read
  split at read
  · cases read
    exact ⟨_, rfl⟩
  · obtain ⟨⟨members, after⟩, _, same⟩ := Option.map_eq_some_iff.mp read
    cases same
    exact ⟨members, rfl⟩

/-- If nothing is left of an object, then no part of it from its beginning on is a value. -/
theorem Written.read?_eq_none_of_longer {inside more : Bytes} {value : Written}
    (whole : readValue (2 * (0x7B :: inside ++ more).length + 2) (0x7B :: inside ++ more) = some (value, []))
    (some : more ≠ []) : read? (0x7B :: inside) = none := by
  rw [read?, Option.bind_eq_none_iff]
  rintro ⟨found, left⟩ read
  obtain ⟨members, rfl⟩ := readValue_object read
  have enough : 2 * (0x7B :: inside).length + 2 ≤ 2 * (0x7B :: inside ++ more).length + 2 := by
    rw [List.length_append]
    omega
  have longer := (readers_extend _).1 read (fun _ _ => nofun) more enough
  rw [whole] at longer
  simp only [Option.some.injEq, Prod.mk.injEq] at longer
  exact absurd (List.append_eq_nil_iff.mp longer.2.symm).2 some

end MediaServer
