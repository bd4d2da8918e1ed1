import Mathlib.Data.List.TakeDrop
import MediaServer.Proofs.Json.Text
import MediaServer.Proofs.Text.Digits

namespace MediaServer

/-- The bytes a number without a sign is written with. -/
def Json.digitBytes (n : Nat) : Bytes :=
  (Nat.toDigits 10 n).map fun c => UInt8.ofNat c.toNat

/-- The bytes a value is written with. -/
def Json.bytes (value : Json) : Bytes :=
  value.render.flatMap String.utf8EncodeChar

theorem flatMap_digits {digits : List Char} (decimal : ∀ c ∈ digits, isDigit c = true) :
    digits.flatMap String.utf8EncodeChar = digits.map fun c => UInt8.ofNat c.toNat := by
  induction digits with
  | nil => rfl
  | cons c digits ih =>
    have ⟨here, others⟩ := List.forall_mem_cons.mp decimal
    have range := isDigit_iff.mp here
    rw [List.flatMap_cons, utf8EncodeChar_ascii (by omega), ih others]
    rfl

theorem Json.bytes_int (n : Nat) : bytes (.int n) = digitBytes n := by
  rw [bytes, render, toList_toString_int]
  exact flatMap_digits fun c member => isDigit_of_mem_toDigits member

theorem Json.bytes_text (text : String) : bytes (.text text) = 0x22 :: bodyBytes text.toList ++ [0x22] := by
  rw [bytes, render, quote_bytes]

theorem isDigitByte_iff {byte : UInt8} :
    isDigitByte byte = true ↔ 48 ≤ byte.toNat ∧ byte.toNat ≤ 57 := by
  simp [isDigitByte, UInt8.le_iff_toNat_le]

theorem Json.isDigitByte_of_mem {n : Nat} {byte : UInt8} (member : byte ∈ digitBytes n) :
    isDigitByte byte = true := by
  obtain ⟨c, within, rfl⟩ := List.mem_map.mp member
  have range := isDigit_iff.mp (isDigit_of_mem_toDigits within)
  rw [isDigitByte_iff, toNat_ofNat_of_lt (by omega)]
  exact range

theorem Json.digitBytes_ne_nil (n : Nat) : digitBytes n ≠ [] := by
  simp [digitBytes]

/-- The bytes go back to the digits, and the digits to the number. -/
theorem Json.natural?_digitBytes {n limit : Nat} (bound : n ≤ limit) :
    (Written.number (digitBytes n)).natural? limit = some n := by
  have digits : (digitBytes n).all isDigitByte = true :=
    List.all_eq_true.mpr fun byte member => isDigitByte_of_mem member
  have back : (digitBytes n).map (fun byte => Char.ofNat byte.toNat) = Nat.toDigits 10 n := by
    rw [digitBytes, List.map_map]
    refine (List.map_congr_left ?_).trans (List.map_id _)
    intro c member
    have range := isDigit_iff.mp (isDigit_of_mem_toDigits member)
    rw [Function.comp_apply, toNat_ofNat_of_lt (by omega), Char.ofNat_toNat]
    rfl
  rw [Written.natural?, if_pos digits, back, ofDigitsUpTo?_eq, ofDigits_toDigits, if_pos bound]

/-- Nothing here goes on with a number. -/
def Written.EndsNumber (rest : Bytes) : Prop :=
  ∀ byte ∈ rest.head?, isDigitByte byte = false ∧ byte ≠ 0x2E ∧ byte ≠ 0x65 ∧ byte ≠ 0x45

theorem Written.span_digits {digits : Bytes} (decimal : ∀ byte ∈ digits, isDigitByte byte = true)
    {rest : Bytes} (ended : EndsNumber rest) : (digits ++ rest).span isDigitByte = (digits, rest) := by
  rw [List.span_eq_takeWhile_dropWhile]
  have stop : rest.takeWhile isDigitByte = [] ∧ rest.dropWhile isDigitByte = rest := by
    cases rest with
    | nil => exact ⟨rfl, rfl⟩
    | cons byte rest =>
      have noDigit := (ended byte rfl).1
      constructor
      · rw [List.takeWhile_cons_of_neg (by simp [noDigit])]
      · rw [List.dropWhile_cons_of_neg (by simp [noDigit])]
  rw [List.takeWhile_append_of_pos decimal, List.dropWhile_append_of_pos decimal, stop.1, stop.2,
    List.append_nil]

theorem Written.readDigits_digits {digits : Bytes} (some : digits ≠ [])
    (decimal : ∀ byte ∈ digits, isDigitByte byte = true) {rest : Bytes} (ended : EndsNumber rest) :
    readDigits (digits ++ rest) = .some (digits, rest) := by
  rw [readDigits, span_digits decimal ended]
  cases digits with
  | nil => exact absurd rfl some
  | cons byte digits => rfl

theorem Written.readWhole_digitBytes (n : Nat) {rest : Bytes} (ended : EndsNumber rest) :
    readWhole (Json.digitBytes n ++ rest) = some (Json.digitBytes n, rest) := by
  rcases Nat.eq_zero_or_pos n with rfl | positive
  · rfl
  · have first := head?_toDigits positive
    have read := readDigits_digits (Json.digitBytes_ne_nil n) (fun _ => Json.isDigitByte_of_mem) ended
    rw [readWhole.eq_def]
    split
    · rename_i rest₂ zero
      rcases digits : Nat.toDigits 10 n with _ | ⟨c, others⟩
      · exact absurd digits Nat.toDigits_ne_nil
      · have range := isDigit_iff.mp (isDigit_of_mem_toDigits (n := n) (c := c) (by simp [digits]))
        simp only [Json.digitBytes, digits, List.map_cons, List.cons_append, List.cons.injEq] at zero
        have code := congrArg UInt8.toNat zero.1
        rw [toNat_ofNat_of_lt (by omega)] at code
        have isZero : c = '0' := Char.toNat_inj.mp code
        rw [digits, List.head?_cons, isZero] at first
        exact absurd rfl first
    · exact read

theorem Written.readNumber_digitBytes (n : Nat) {rest : Bytes} (ended : EndsNumber rest) :
    readNumber (Json.digitBytes n ++ rest) = some (Json.digitBytes n, rest) := by
  have whole := readWhole_digitBytes n ended
  have fraction : readFraction rest = some ([], rest) := by
    rw [readFraction.eq_def]
    split
    · rename_i after
      exact absurd rfl (ended 0x2E rfl).2.1
    · rfl
  have exponent : readExponent rest = some ([], rest) := by
    cases rest with
    | nil => rfl
    | cons letter rest =>
      obtain ⟨_, _, noSmall, noLarge⟩ := ended letter rfl
      rw [readExponent.eq_def]
      simp [noSmall, noLarge]
  have unsigned : ∀ after, Json.digitBytes n ++ rest ≠ 0x2D :: after := by
    intro after signed
    rcases digits : Json.digitBytes n with _ | ⟨byte, others⟩
    · exact Json.digitBytes_ne_nil n digits
    · have digit : isDigitByte byte = true := Json.isDigitByte_of_mem (n := n) (by simp [digits])
      rw [digits, List.cons_append, List.cons.injEq] at signed
      rw [signed.1] at digit
      exact absurd digit (by decide)
  unfold readNumber
  split
  · rename_i sign positive found
    split at found
    · rename_i after minus
      exact absurd minus (unsigned after)
    · cases found
      rw [whole]
      simp [fraction, exponent]

/-- The value is read from its bytes, after blanks or not, whatever follows that does not go on
with a number. -/
def Json.ReadsAs (value : Json) (written : Written) : Prop :=
  ∀ fuel rest, Written.EndsNumber rest →
    Written.readValue (fuel + 1) (value.bytes ++ rest) = some (written, rest) ∧
      Written.readValue (fuel + 1) (0x20 :: value.bytes ++ rest) = some (written, rest)

theorem Json.text_readsAs (text : String) : ReadsAs (.text text) (.text (bodyBytes text.toList)) := by
  intro fuel rest _
  have read := Written.readBody_bodyBytes text.toList rest
  rw [bytes_text]
  simp only [List.cons_append, List.append_assoc, List.nil_append]
  constructor <;>
  · rw [Written.readValue]
    simp [Written.skipBlanks, Written.isBlank, read]

theorem Written.readValue_digit {byte : UInt8} (digit : isDigitByte byte = true) (fuel : Nat)
    (rest : Bytes) :
    readValue (fuel + 1) (byte :: rest) =
      (readNumber (byte :: rest)).map fun (spelling, after) => (.number spelling, after) := by
  have kept : skipBlanks (byte :: rest) = byte :: rest := by
    have range := isDigitByte_iff.mp digit
    have visible : isBlank byte = false := by
      simp only [isBlank, Bool.or_eq_false_iff, beq_eq_false_iff_ne, ne_eq]
      refine ⟨⟨⟨?_, ?_⟩, ?_⟩, ?_⟩ <;> rintro rfl <;> exact absurd range.1 (by decide)
    rw [skipBlanks, List.dropWhile_cons_of_neg (by simp [visible])]
  rw [readValue, kept]
  split
  case h_7 => rfl
  all_goals
    rename_i other
    cases other
    exact absurd digit (by decide)

theorem Json.int_readsAs (n : Nat) : ReadsAs (.int n) (.number (digitBytes n)) := by
  intro fuel rest ended
  rw [bytes_int]
  have number := Written.readNumber_digitBytes n ended
  rcases digits : digitBytes n with _ | ⟨byte, others⟩
  · exact absurd digits (digitBytes_ne_nil n)
  · have digit : isDigitByte byte = true := isDigitByte_of_mem (n := n) (by simp [digits])
    rw [digits] at number
    have plain : Written.readValue (fuel + 1) (byte :: others ++ rest) =
        some (.number (byte :: others), rest) := by
      rw [List.cons_append, Written.readValue_digit digit, ← List.cons_append, number, Option.map_some]
    refine ⟨plain, ?_⟩
    rw [← plain, List.cons_append, Written.readValue, Written.readValue]
    rfl

end MediaServer
