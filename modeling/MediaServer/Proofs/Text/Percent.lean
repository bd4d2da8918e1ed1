import MediaServer.Text.Percent
import MediaServer.Proofs.Text.Utf8

namespace MediaServer

theorem Percent.decode_of_not_mem {bytes : Bytes} (plain : 0x25 ∉ bytes) : decode bytes = bytes := by
  induction bytes with
  | nil => rw [decode.eq_def]
  | cons byte bytes ih =>
    rw [List.mem_cons, not_or] at plain
    rw [decode.eq_def]
    simp [plain.1, ih plain.2, eq_comm (a := byte)]

theorem Percent.not_mem_encode {text : String} (plain : '%' ∉ text.toList) : 0x25 ∉ Utf8.encode text :=
  fun member => plain ((Utf8.mem_encode_iff (c := '%') (by decide)).mp member)

/-- A text without percent signs stands for itself. -/
theorem Percent.decodeText?_of_not_mem {text : String} (plain : '%' ∉ text.toList) :
    decodeText? text = some text := by
  rw [decodeText?, decode_of_not_mem (not_mem_encode plain), Utf8.decode?_encode]

/-- The ways to percent-encode bytes: any byte may be written by two hexadecimal digits, and a percent sign has
to be. -/
inductive Percent.Writes : Bytes → Bytes → Prop
  | nil : Writes [] []
  | plain {byte : UInt8} {written meant : Bytes} (plain : byte ≠ 0x25) (later : Writes written meant) :
      Writes (byte :: written) (byte :: meant)
  | escaped {high low x y : UInt8} {written meant : Bytes} (first : hexDigit? high = some x)
      (second : hexDigit? low = some y) (later : Writes written meant) :
      Writes (0x25 :: high :: low :: written) ((x * 16 + y) :: meant)

theorem Percent.Writes.decode {written meant : Bytes} (writes : Writes written meant) :
    Percent.decode written = meant := by
  induction writes with
  | nil => rw [Percent.decode.eq_def]
  | plain plain later ih =>
    rw [Percent.decode.eq_def]
    simp [plain, ih]
  | escaped first second later ih =>
    rw [Percent.decode.eq_def]
    simp [first, second, ih]

theorem Percent.Writes.append {written meant more also : Bytes} (writes : Writes written meant)
    (others : Writes more also) : Writes (written ++ more) (meant ++ also) := by
  induction writes with
  | nil => exact others
  | plain plain _ ih => exact .plain plain ih
  | escaped first second _ ih => exact .escaped first second ih

/-- A byte that is written is one of those that are meant, or of those that escape others. -/
theorem Percent.Writes.mem {written meant : Bytes} (writes : Writes written meant) {byte : UInt8}
    (member : byte ∈ written) : byte ∈ meant ∨ byte = 0x25 ∨ (hexDigit? byte).isSome := by
  induction writes with
  | nil => cases member
  | plain _ _ ih =>
    rcases List.mem_cons.mp member with rfl | later
    · exact Or.inl List.mem_cons_self
    · exact (ih later).imp_left (List.mem_cons_of_mem _)
  | escaped first second _ ih =>
    simp only [List.mem_cons] at member
    rcases member with percent | rfl | rfl | later
    · exact Or.inr (Or.inl percent)
    · exact Or.inr (Or.inr (Option.isSome_of_eq_some first))
    · exact Or.inr (Or.inr (Option.isSome_of_eq_some second))
    · exact (ih later).imp_left (List.mem_cons_of_mem _)

/-- Bytes without percent signs write themselves. -/
theorem Percent.writes_self {bytes : Bytes} (plain : 0x25 ∉ bytes) : Writes bytes bytes := by
  induction bytes with
  | nil => exact .nil
  | cons byte bytes ih =>
    rw [List.mem_cons, not_or] at plain
    exact .plain (Ne.symm plain.1) (ih plain.2)

/-- A percent-encoded text is read as what it was. -/
theorem Percent.decodeText?_of_writes {part text : String} (writes : Writes (Utf8.encode part) (Utf8.encode text)) :
    decodeText? part = some text := by
  rw [decodeText?, writes.decode, Utf8.decode?_encode]

end MediaServer
