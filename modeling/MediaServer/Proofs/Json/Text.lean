import MediaServer.Json.Basic
import MediaServer.Json.Written
import MediaServer.Proofs.Text.Utf8

namespace MediaServer

/-- The bytes of the body of a JSON text, without its quotes. -/
def Json.bodyBytes (text : List Char) : Bytes :=
  (text.flatMap Json.escapeChar).flatMap String.utf8EncodeChar

theorem Json.bodyBytes_cons (c : Char) (text : List Char) :
    bodyBytes (c :: text) = (escapeChar c).flatMap String.utf8EncodeChar ++ bodyBytes text := by
  rw [bodyBytes, List.flatMap_cons, List.flatMap_append]
  rfl

/-- What a character is written as: a backslash with a letter, a number of four digits, or itself. -/
theorem Json.escapeChar_cases (c : Char) :
    (∃ letter byte, (escapeChar c).flatMap String.utf8EncodeChar = [0x5C, letter] ∧ letter ≠ 0x75 ∧
      Written.isShortEscape letter = true ∧ Written.shortEscape? letter = some byte ∧
      String.utf8EncodeChar c = [byte]) ∨
    (∃ high low, (escapeChar c).flatMap String.utf8EncodeChar = [0x5C, 0x75, 0x30, 0x30, high, low] ∧
      (hexDigit? high).isSome ∧ (hexDigit? low).isSome ∧
      hexNumber? 0x30 0x30 high low = some c.toNat ∧ c.toNat < 0x20) ∨
    (escapeChar c = [c] ∧ 0x20 ≤ c.toNat ∧ c ≠ '"' ∧ c ≠ '\\') := by
  by_cases quote : c = '"'
  · subst quote
    exact Or.inl ⟨0x22, 0x22, rfl, by decide, by decide, by decide, rfl⟩
  by_cases backslash : c = '\\'
  · subst backslash
    exact Or.inl ⟨0x5C, 0x5C, rfl, by decide, by decide, by decide, rfl⟩
  by_cases backspace : c = '\x08'
  · subst backspace
    exact Or.inl ⟨0x62, 0x08, rfl, by decide, by decide, by decide, rfl⟩
  by_cases tab : c = '\t'
  · subst tab
    exact Or.inl ⟨0x74, 0x09, rfl, by decide, by decide, by decide, rfl⟩
  by_cases newline : c = '\n'
  · subst newline
    exact Or.inl ⟨0x6E, 0x0A, rfl, by decide, by decide, by decide, rfl⟩
  by_cases feed : c = '\x0c'
  · subst feed
    exact Or.inl ⟨0x66, 0x0C, rfl, by decide, by decide, by decide, rfl⟩
  by_cases carriage : c = '\r'
  · subst carriage
    exact Or.inl ⟨0x72, 0x0D, rfl, by decide, by decide, by decide, rfl⟩
  by_cases control : c.toNat < 0x20
  · have digits : ∀ n : Fin 0x20,
        hexNumber? 0x30 0x30 (UInt8.ofNat (Nat.digitChar (n / 16)).toNat)
          (UInt8.ofNat (Nat.digitChar (n % 16)).toNat) = some n.val ∧
        (hexDigit? (UInt8.ofNat (Nat.digitChar (n / 16)).toNat)).isSome ∧
        (hexDigit? (UInt8.ofNat (Nat.digitChar (n % 16)).toNat)).isSome ∧
        (['\\', 'u', '0', '0', Nat.digitChar (n / 16), Nat.digitChar (n % 16)].flatMap
          String.utf8EncodeChar = [0x5C, 0x75, 0x30, 0x30, UInt8.ofNat (Nat.digitChar (n / 16)).toNat,
            UInt8.ofNat (Nat.digitChar (n % 16)).toNat]) := by
      decide
    obtain ⟨number, high, low, written⟩ := digits ⟨c.toNat, control⟩
    refine Or.inr (Or.inl ⟨_, _, ?_, high, low, number, control⟩)
    rw [← written]
    simp [escapeChar, quote, backslash, backspace, tab, newline, feed, carriage, control]
  · refine Or.inr (Or.inr ⟨?_, Nat.le_of_not_lt control, quote, backslash⟩)
    simp [escapeChar, quote, backslash, backspace, tab, newline, feed, carriage, control]

/-- A character that stands for itself has no byte that ends a text, begins an escape or is a control. -/
theorem plain_bytes {c : Char} (visible : 0x20 ≤ c.toNat) (noQuote : c ≠ '"') (noBackslash : c ≠ '\\') :
    ∀ byte ∈ String.utf8EncodeChar c, byte ≠ 0x22 ∧ byte ≠ 0x5C ∧ ¬ byte < 0x20 := by
  intro byte member
  have code : ∀ other : Char, c ≠ other → c.toNat ≠ other.toNat :=
    fun other different same => different (Char.toNat_inj.mp same)
  have notQuote := code '"' noQuote
  have notBackslash := code '\\' noBackslash
  have bound : byte.toNat = c.toNat ∨ 0x80 ≤ byte.toNat := by
    by_cases ascii : c.toNat < 0x80
    · rw [utf8EncodeChar_ascii ascii, List.mem_singleton] at member
      rw [member]
      exact Or.inl (toNat_ofNat_of_lt (by omega))
    · exact Or.inr (utf8EncodeChar_high (Nat.le_of_not_lt ascii) byte member)
  refine ⟨?_, ?_, ?_⟩
  · rintro rfl
    rcases bound with same | high
    · exact notQuote same.symm
    · exact absurd high (by decide)
  · rintro rfl
    rcases bound with same | high
    · exact notBackslash same.symm
    · exact absurd high (by decide)
  · rw [UInt8.lt_iff_toNat_lt]
    change ¬ byte.toNat < 0x20
    omega

theorem Written.readBody_plain {plain : Bytes}
    (free : ∀ byte ∈ plain, byte ≠ 0x22 ∧ byte ≠ 0x5C ∧ ¬ byte < 0x20) (rest : Bytes) :
    readBody (plain ++ rest) = (readBody rest).map fun (body, after) => (plain ++ body, after) := by
  induction plain with
  | nil => simp
  | cons byte plain ih =>
    obtain ⟨⟨noQuote, noBackslash, noControl⟩, others⟩ := List.forall_mem_cons.mp free
    rw [List.cons_append, readBody.eq_def]
    simp only [beq_iff_eq, noQuote, noBackslash, noControl, if_false, ih others, Option.map_map]
    rfl

theorem Written.unescape?_plain {plain : Bytes} (free : ∀ byte ∈ plain, byte ≠ 0x5C) (rest : Bytes) :
    unescape? (plain ++ rest) = (unescape? rest).map (plain ++ ·) := by
  induction plain with
  | nil => simp
  | cons byte plain ih =>
    obtain ⟨noBackslash, others⟩ := List.forall_mem_cons.mp free
    rw [List.cons_append, unescape?.eq_def]
    simp only [beq_iff_eq, noBackslash, if_false, ih others, Option.map_map]
    rfl

/-- The body of a text ends at its quote. -/
theorem Written.readBody_bodyBytes (text : List Char) (rest : Bytes) :
    readBody (Json.bodyBytes text ++ 0x22 :: rest) = some (Json.bodyBytes text, rest) := by
  induction text with
  | nil =>
    rw [readBody.eq_def]
    rfl
  | cons c text ih =>
    rw [Json.bodyBytes_cons, List.append_assoc]
    rcases Json.escapeChar_cases c with ⟨letter, byte, written, noNumber, short, _⟩ |
      ⟨high, low, written, highDigit, lowDigit, _⟩ | ⟨same, visible, noQuote, noBackslash⟩
    · rw [written, List.cons_append, List.cons_append, List.nil_append, readBody.eq_def]
      simp [noNumber, short, ih]
    · rw [written]
      simp only [List.cons_append, List.nil_append]
      rw [readBody.eq_def]
      simp [highDigit, lowDigit, ih]
      decide
    · rw [same, List.flatMap_singleton, readBody_plain (plain_bytes visible noQuote noBackslash), ih]
      rfl

theorem Written.unescape?_bodyBytes (text : List Char) :
    unescape? (Json.bodyBytes text) = some (text.flatMap String.utf8EncodeChar) := by
  induction text with
  | nil =>
    rw [unescape?.eq_def]
    rfl
  | cons c text ih =>
    rw [Json.bodyBytes_cons, List.flatMap_cons]
    rcases Json.escapeChar_cases c with ⟨letter, byte, written, noNumber, _, short, single⟩ |
      ⟨high, low, written, _, _, number, control⟩ | ⟨same, visible, noQuote, noBackslash⟩
    · rw [written, single, List.cons_append, List.cons_append, List.nil_append, unescape?.eq_def]
      simp [noNumber, short, ih]
    · have notHigh : ¬ 0xDC00 ≤ c.toNat := by omega
      have notLow : ¬ 0xD800 ≤ c.toNat := by omega
      rw [written]
      simp only [List.cons_append, List.nil_append]
      rw [unescape?.eq_def]
      simp [number, ih, notHigh, notLow, Char.ofNat_toNat]
    · have free : ∀ byte ∈ String.utf8EncodeChar c, byte ≠ 0x5C :=
        fun byte member => (plain_bytes visible noQuote noBackslash byte member).2.1
      rw [same, List.flatMap_singleton, unescape?_plain free, ih]
      rfl

/-- The body of a text is read as that text. -/
theorem Written.decodeBody?_bodyBytes (text : String) :
    decodeBody? (Json.bodyBytes text.toList) = some text := by
  rw [decodeBody?, unescape?_bodyBytes, Option.bind_some]
  exact Utf8.decode?_encode text

theorem Json.quote_bytes (text : String) :
    (Json.quote text).flatMap String.utf8EncodeChar = 0x22 :: bodyBytes text.toList ++ [0x22] := by
  rw [quote, List.flatMap_append, List.flatMap_cons]
  rfl

end MediaServer
