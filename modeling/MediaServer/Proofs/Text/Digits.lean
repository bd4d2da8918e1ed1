import MediaServer.Text.Digits

namespace MediaServer

theorem toList_toString_int (n : Nat) : (toString (n : Int)).toList = Nat.toDigits 10 n :=
  Nat.toList_repr

theorem isDigit_iff {c : Char} : isDigit c = true ↔ 48 ≤ c.toNat ∧ c.toNat ≤ 57 := by
  simp [isDigit, Char.le_def, UInt32.le_iff_toNat_le]

theorem isDigit_of_mem_toDigits {c : Char} {n : Nat} (member : c ∈ Nat.toDigits 10 n) :
    isDigit c = true := by
  have digit := Nat.isDigit_of_mem_toDigits (by decide) (by decide) member
  rw [isDigit_iff]
  simpa [Char.isDigit, UInt32.le_iff_toNat_le] using digit

/-- The digits of a number write that number. -/
theorem ofDigits_toDigits (n : Nat) : ofDigits (Nat.toDigits 10 n) = n := by
  have whole := @Nat.ofDigitChars_ten_toDigits n
  rw [Nat.ofDigitChars_eq_foldl] at whole
  rw [ofDigits]
  simpa only [Nat.mul_comm 10, digitValue] using whole

/-- Only zero starts with a zero. -/
theorem head?_toDigits {n : Nat} (positive : 0 < n) : (Nat.toDigits 10 n).head? ≠ some '0' := by
  induction n using Nat.strongRecOn with
  | ind n ih =>
    by_cases small : n < 10
    · rw [Nat.toDigits_of_lt_base small, List.head?_cons, ne_eq, Option.some.injEq,
        Nat.digitChar_eq_zero]
      omega
    · have front := ih (n / 10) (by omega) (by omega)
      rw [Nat.toDigits_of_base_le (by decide) (by omega), List.head?_append]
      rcases digits : (Nat.toDigits 10 (n / 10)).head? with _ | c
      · exact absurd (List.head?_eq_none_iff.mp digits) Nat.toDigits_ne_nil
      · rwa [digits] at front

/-- Digits that write a number up to a limit, with or without a plus sign, are all that is read as this number. -/
theorem readUnsigned?_eq_some_iff {limit n : Nat} {text : String} :
    readUnsigned? limit text = some n ↔ ∃ sign digits, text.toList = sign ++ digits ∧
      (sign = [] ∨ sign = ['+']) ∧ digits ≠ [] ∧ (∀ c ∈ digits, isDigit c = true) ∧ ofDigits digits = n ∧
      n ≤ limit := by
  have read : ∀ digits : List Char,
      (if digits.isEmpty || !digits.all isDigit then none else ofDigitsUpTo? limit digits) = some n ↔
        digits ≠ [] ∧ (∀ c ∈ digits, isDigit c = true) ∧ ofDigits digits = n ∧ n ≤ limit := by
    intro digits
    rw [ofDigitsUpTo?_eq, ← List.all_eq_true]
    by_cases number : digits ≠ [] ∧ digits.all isDigit = true
    · rw [if_neg (by simp [number])]
      by_cases small : ofDigits digits ≤ limit
      · rw [if_pos small, Option.some.injEq]
        exact ⟨fun same => ⟨number.1, number.2, same, same ▸ small⟩, fun all => all.2.2.1⟩
      · rw [if_neg small]
        exact ⟨nofun, fun ⟨_, _, same, bound⟩ => absurd (same ▸ bound) small⟩
    · rw [if_pos (by simpa [Decidable.or_iff_not_imp_left] using number)]
      exact ⟨nofun, fun all => absurd ⟨all.1, all.2.1⟩ number⟩
  unfold readUnsigned?
  split
  · rename_i rest signed
    rw [read rest, signed]
    constructor
    · exact fun number => ⟨['+'], rest, rfl, Or.inr rfl, number⟩
    · rintro ⟨sign, digits, split, rfl | rfl, number⟩
      · obtain rfl : '+' :: rest = digits := split
        exact absurd (number.2.1 '+' List.mem_cons_self) (by decide)
      · obtain rfl : rest = digits := List.tail_eq_of_cons_eq split
        exact number
  · rename_i unsigned
    rw [read]
    constructor
    · exact fun number => ⟨[], text.toList, rfl, Or.inl rfl, number⟩
    · rintro ⟨sign, digits, split, rfl | rfl, number⟩
      · rwa [show text.toList = digits from split]
      · exact absurd split (unsigned digits)

end MediaServer
