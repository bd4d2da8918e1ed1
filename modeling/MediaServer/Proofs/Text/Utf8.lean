import MediaServer.Text.Utf8

namespace MediaServer

theorem Utf8.encode_ofList (chars : List Char) : encode (String.ofList chars) = chars.flatMap String.utf8EncodeChar := by
  rw [encode, String.toList_ofList]

theorem utf8EncodeChar_ascii {c : Char} (ascii : c.toNat < 0x80) :
    String.utf8EncodeChar c = [UInt8.ofNat c.toNat] := by
  have low : c.val.toNat ≤ 0x7F := Nat.le_of_lt_succ ascii
  unfold String.utf8EncodeChar
  rw [if_pos low]
  rfl

theorem toNat_ofNat_of_lt {n : Nat} (small : n < 256) : (UInt8.ofNat n).toNat = n := by
  simp [Nat.mod_eq_of_lt small]

/-- Bytes of ASCII are those of the characters that they number. -/
theorem Utf8.encode_ascii {bytes : Bytes} (ascii : ∀ byte ∈ bytes, byte.toNat < 0x80) :
    encode (String.ofList (bytes.map fun byte => Char.ofNat byte.toNat)) = bytes := by
  rw [encode_ofList]
  induction bytes with
  | nil => rfl
  | cons byte bytes ih =>
    have ⟨here, others⟩ := List.forall_mem_cons.mp ascii
    have valid : byte.toNat.isValidChar := Or.inl (by omega)
    have code : (Char.ofNat byte.toNat).toNat = byte.toNat := by
      rw [Char.ofNat, dif_pos valid]
      rfl
    rw [List.map_cons, List.flatMap_cons, ih others, utf8EncodeChar_ascii (by omega), code,
      UInt8.ofNat_toNat]
    rfl

/-- The bytes of a character outside ASCII are all above those of ASCII. -/
theorem utf8EncodeChar_high {c : Char} (high : 0x80 ≤ c.toNat) :
    ∀ byte ∈ String.utf8EncodeChar c, 0x80 ≤ byte.toNat := by
  have notLow : ¬ c.val.toNat ≤ 0x7F := Nat.not_le.mpr high
  unfold String.utf8EncodeChar
  simp only [if_neg notLow]
  intro byte member
  split at member
  · simp only [List.mem_cons, List.not_mem_nil, or_false] at member
    rcases member with rfl | rfl <;> rw [toNat_ofNat_of_lt (by omega)] <;> omega
  · split at member
    · simp only [List.mem_cons, List.not_mem_nil, or_false] at member
      rcases member with rfl | rfl | rfl <;> rw [toNat_ofNat_of_lt (by omega)] <;> omega
    · simp only [List.mem_cons, List.not_mem_nil, or_false] at member
      rcases member with rfl | rfl | rfl | rfl <;> rw [toNat_ofNat_of_lt (by omega)] <;> omega

/-- The byte of an ASCII character stands for nothing but this character. -/
theorem Utf8.mem_encode_iff {c : Char} (ascii : c.toNat < 0x80) {text : String} :
    UInt8.ofNat c.toNat ∈ encode text ↔ c ∈ text.toList := by
  rw [encode, List.mem_flatMap]
  constructor
  · rintro ⟨other, member, inside⟩
    by_cases low : other.toNat < 0x80
    · rw [utf8EncodeChar_ascii low, List.mem_singleton] at inside
      have code := congrArg UInt8.toNat inside
      rw [toNat_ofNat_of_lt (by omega), toNat_ofNat_of_lt (by omega)] at code
      rwa [Char.toNat_inj.mp code]
    · have high := utf8EncodeChar_high (Nat.le_of_not_lt low) _ inside
      rw [toNat_ofNat_of_lt (by omega)] at high
      omega
  · intro member
    refine ⟨c, member, ?_⟩
    rw [utf8EncodeChar_ascii ascii]
    exact List.mem_singleton_self _

theorem Utf8.isTrailing_iff {byte : UInt8} :
    isTrailing byte = true ↔ 0x80 ≤ byte.toNat ∧ byte.toNat ≤ 0xBF := by
  simp [isTrailing, UInt8.le_iff_toNat_le]

theorem Utf8.width_eq (lead : UInt8) :
    width lead =
      if 0xC2 ≤ lead.toNat ∧ lead.toNat ≤ 0xDF then 2
      else if 0xE0 ≤ lead.toNat ∧ lead.toNat ≤ 0xEF then 3
      else if 0xF0 ≤ lead.toNat ∧ lead.toNat ≤ 0xF4 then 4
      else 0 := by
  simp [width, UInt8.le_iff_toNat_le]

/-- The second byte of a character only continues it, and after four leads its range is smaller. -/
theorem Utf8.isSecond_of_ranges {lead second : UInt8}
    (low : 0x80 ≤ second.toNat) (high : second.toNat ≤ 0xBF)
    (long3 : lead.toNat = 0xE0 → 0xA0 ≤ second.toNat) (half : lead.toNat = 0xED → second.toNat ≤ 0x9F)
    (long4 : lead.toNat = 0xF0 → 0x90 ≤ second.toNat) (last : lead.toNat = 0xF4 → second.toNat ≤ 0x8F) :
    isSecond lead second = true := by
  have same : ∀ byte : UInt8, (lead == byte) = true → lead.toNat = byte.toNat := by
    intro byte equal
    rw [beq_iff_eq.mp equal]
  unfold isSecond
  split
  · rename_i lead3
    simpa [UInt8.le_iff_toNat_le] using ⟨long3 (same 0xE0 lead3), high⟩
  split
  · rename_i leadHalf
    simpa [UInt8.le_iff_toNat_le] using ⟨low, half (same 0xED leadHalf)⟩
  split
  · rename_i lead4
    simpa [UInt8.le_iff_toNat_le] using ⟨long4 (same 0xF0 lead4), high⟩
  split
  · rename_i leadLast
    simpa [UInt8.le_iff_toNat_le] using ⟨low, last (same 0xF4 leadLast)⟩
  · exact isTrailing_iff.mpr ⟨low, high⟩

theorem Utf8.scan_one {a : UInt8} (ascii : a.toNat < 0x80) (rest : Bytes) :
    scan (a :: rest) = some (Char.ofNat a.toNat) :: scan rest := by
  have lead : a < 0x80 := UInt8.lt_iff_toNat_lt.mpr ascii
  rw [scan.eq_def]
  exact if_pos lead

section
variable {a b : UInt8} (high : ¬ a.toNat < 0x80) (second : Utf8.isSecond a b = true)
include high second

theorem Utf8.scan_two (two : width a = 2) (rest : Bytes) :
    scan (a :: b :: rest) = some (Char.ofNat (payload a 32 * 64 + payload b 64)) :: scan rest := by
  have lead : ¬ a < 0x80 := fun low => high (UInt8.lt_iff_toNat_lt.mp low)
  rw [scan.eq_def]
  simp [lead, two, second]

theorem Utf8.scan_three (three : width a = 3) {c : UInt8} (third : isTrailing c = true) (rest : Bytes) :
    scan (a :: b :: c :: rest) =
      some (Char.ofNat (payload a 16 * 4096 + payload b 64 * 64 + payload c 64)) :: scan rest := by
  have lead : ¬ a < 0x80 := fun low => high (UInt8.lt_iff_toNat_lt.mp low)
  rw [scan.eq_def]
  simp [lead, three, second, third]

theorem Utf8.scan_four (four : width a = 4) {c d : UInt8} (third : isTrailing c = true)
    (fourth : isTrailing d = true) (rest : Bytes) :
    scan (a :: b :: c :: d :: rest) =
      some (Char.ofNat (payload a 8 * 262144 + payload b 64 * 4096 + payload c 64 * 64
        + payload d 64)) :: scan rest := by
  have lead : ¬ a < 0x80 := fun low => high (UInt8.lt_iff_toNat_lt.mp low)
  rw [scan.eq_def]
  simp [lead, four, second, third, fourth]

end

/-- A character is read back from its bytes, whatever follows them. -/
theorem Utf8.scan_encodeChar (c : Char) (rest : Bytes) :
    scan (String.utf8EncodeChar c ++ rest) = some c :: scan rest := by
  have valid : c.val.toNat < 0xD800 ∨ 0xDFFF < c.val.toNat ∧ c.val.toNat < 0x110000 := c.valid
  have back : Char.ofNat c.val.toNat = c := Char.ofNat_toNat c
  unfold String.utf8EncodeChar
  generalize c.val.toNat = v at *
  by_cases one : v ≤ 0x7F
  · have byte := toNat_ofNat_of_lt (n := v) (by omega)
    simp only [if_pos one, List.cons_append, List.nil_append]
    rw [scan_one (by omega), byte, back]
  by_cases two : v ≤ 0x7FF
  · have first := toNat_ofNat_of_lt (n := v / 64 % 0x20 + 0xC0) (by omega)
    have second := toNat_ofNat_of_lt (n := v % 0x40 + 0x80) (by omega)
    simp only [if_neg one, if_pos two, List.cons_append, List.nil_append]
    rw [scan_two (by omega) (isSecond_of_ranges (by omega) (by omega) (by omega) (by omega) (by omega)
      (by omega)) (by rw [width_eq, if_pos (by omega)])]
    have whole : payload (UInt8.ofNat (v / 64 % 0x20 + 0xC0)) 32 * 64 +
        payload (UInt8.ofNat (v % 0x40 + 0x80)) 64 = v := by
      rw [payload, payload, first, second]
      omega
    rw [whole, back]
  by_cases three : v ≤ 0xFFFF
  · have first := toNat_ofNat_of_lt (n := v / 4096 % 0x10 + 0xE0) (by omega)
    have second := toNat_ofNat_of_lt (n := v / 64 % 0x40 + 0x80) (by omega)
    have third := toNat_ofNat_of_lt (n := v % 0x40 + 0x80) (by omega)
    simp only [if_neg one, if_neg two, if_pos three, List.cons_append, List.nil_append]
    rw [scan_three (by omega) (isSecond_of_ranges (by omega) (by omega) (by omega) (by omega) (by omega)
      (by omega)) (by rw [width_eq, if_neg (by omega), if_pos (by omega)])
      (isTrailing_iff.mpr (by omega))]
    have whole : payload (UInt8.ofNat (v / 4096 % 0x10 + 0xE0)) 16 * 4096 +
        payload (UInt8.ofNat (v / 64 % 0x40 + 0x80)) 64 * 64 +
        payload (UInt8.ofNat (v % 0x40 + 0x80)) 64 = v := by
      rw [payload, payload, payload, first, second, third]
      omega
    rw [whole, back]
  · have first := toNat_ofNat_of_lt (n := v / 262144 % 0x08 + 0xF0) (by omega)
    have second := toNat_ofNat_of_lt (n := v / 4096 % 0x40 + 0x80) (by omega)
    have third := toNat_ofNat_of_lt (n := v / 64 % 0x40 + 0x80) (by omega)
    have fourth := toNat_ofNat_of_lt (n := v % 0x40 + 0x80) (by omega)
    simp only [if_neg one, if_neg two, if_neg three, List.cons_append, List.nil_append]
    rw [scan_four (by omega) (isSecond_of_ranges (by omega) (by omega) (by omega) (by omega) (by omega)
      (by omega)) (by rw [width_eq, if_neg (by omega), if_neg (by omega), if_pos (by omega)])
      (isTrailing_iff.mpr (by omega)) (isTrailing_iff.mpr (by omega))]
    have whole : payload (UInt8.ofNat (v / 262144 % 0x08 + 0xF0)) 8 * 262144 +
        payload (UInt8.ofNat (v / 4096 % 0x40 + 0x80)) 64 * 4096 +
        payload (UInt8.ofNat (v / 64 % 0x40 + 0x80)) 64 * 64 +
        payload (UInt8.ofNat (v % 0x40 + 0x80)) 64 = v := by
      rw [payload, payload, payload, payload, first, second, third, fourth]
      omega
    rw [whole, back]

theorem Utf8.scan_flatMap (chars : List Char) :
    scan (chars.flatMap String.utf8EncodeChar) = chars.map some := by
  induction chars with
  | nil => rfl
  | cons c chars ih => rw [List.flatMap_cons, scan_encodeChar, ih, List.map_cons]

/-- A reader that forgives finds nothing to forgive in the bytes of a text. -/
theorem Utf8.decodeLossy_encode (text : String) : decodeLossy (encode text) = text := by
  have read : (text.toList.map some).map (·.getD '\uFFFD') = text.toList := by
    rw [List.map_map]
    exact List.map_id _
  rw [decodeLossy, encode, scan_flatMap, read, String.ofList_toList]

/-- Any text is read back from its bytes. -/
theorem Utf8.decode?_encode (text : String) : decode? (encode text) = some text := by
  have read : ∀ chars : List Char, (chars.map some).mapM id = some chars := by
    intro chars
    induction chars with
    | nil => rfl
    | cons c chars ih =>
      rw [List.map_cons, List.mapM_cons, ih]
      rfl
  rw [decode?, encode, scan_flatMap, read, Option.map_some, String.ofList_toList]

end MediaServer
