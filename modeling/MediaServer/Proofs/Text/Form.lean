import MediaServer.Text.Form
import MediaServer.Proofs.Lists.Pieces
import MediaServer.Proofs.Text.Percent

namespace MediaServer

/-- What is sent is visible ASCII, and never one of the two signs that keep names and values apart. -/
theorem Form.encodeByte_sends (byte : UInt8) :
    ∀ sent ∈ encodeByte byte, 0x21 ≤ sent.toNat ∧ sent.toNat ≤ 0x7E ∧ sent ≠ 0x26 ∧ sent ≠ 0x3D := by
  have all : ∀ n < 256, (encodeByte (UInt8.ofNat n)).all
      (fun sent => 0x21 ≤ sent.toNat ∧ sent.toNat ≤ 0x7E ∧ sent ≠ 0x26 ∧ sent ≠ 0x3D) = true := by
    decide +kernel
  have own := all byte.toNat byte.toNat_lt
  rw [UInt8.ofNat_toNat, List.all_eq_true] at own
  exact fun sent member => of_decide_eq_true (own sent member)

def Form.plusToSpace (byte : UInt8) : UInt8 :=
  if byte == 0x2B then 0x20 else byte

/-- A byte is sent as itself, as a plus sign that stands for a space, or by its two digits. -/
theorem Form.encodeByte_cases (byte : UInt8) :
    byte ≠ 0x25 ∧ (encodeByte byte).map plusToSpace = [byte] ∨
      (encodeByte byte).map plusToSpace = [0x25, hexDigit (byte / 16), hexDigit (byte % 16)] ∧
        hexDigit? (hexDigit (byte / 16)) = some (byte / 16) ∧
        hexDigit? (hexDigit (byte % 16)) = some (byte % 16) ∧ byte / 16 * 16 + byte % 16 = byte := by
  have all : ∀ n < 256,
      let byte := UInt8.ofNat n
      byte ≠ 0x25 ∧ (encodeByte byte).map plusToSpace = [byte] ∨
        (encodeByte byte).map plusToSpace = [0x25, hexDigit (byte / 16), hexDigit (byte % 16)] ∧
          hexDigit? (hexDigit (byte / 16)) = some (byte / 16) ∧
          hexDigit? (hexDigit (byte % 16)) = some (byte % 16) ∧ byte / 16 * 16 + byte % 16 = byte := by
    decide +kernel
  have own := all byte.toNat byte.toNat_lt
  rwa [UInt8.ofNat_toNat] at own

theorem Form.writes_encodeByte (byte : UInt8) : Percent.Writes ((encodeByte byte).map plusToSpace) [byte] := by
  rcases encodeByte_cases byte with ⟨noPercent, plain⟩ | ⟨escaped, first, second, whole⟩
  · rw [plain]
    exact .plain noPercent .nil
  · have writes := Percent.Writes.escaped first second .nil
    rwa [whole, ← escaped] at writes

theorem Form.writes_flatMap (bytes : Bytes) :
    Percent.Writes ((bytes.flatMap encodeByte).map plusToSpace) bytes := by
  induction bytes with
  | nil => exact .nil
  | cons byte bytes ih =>
    rw [List.flatMap_cons, List.map_append]
    exact (writes_encodeByte byte).append ih

/-- One side of a pair is read back, whatever text it is. -/
theorem Form.decodePart_encodePart (part : String) : decodePart (encodePart part) = part := by
  have sent : Percent.decode ((encodePart part).map plusToSpace) = Utf8.encode part :=
    (writes_flatMap (Utf8.encode part)).decode
  have read : decodePart (encodePart part) =
      Utf8.decodeLossy (Percent.decode ((encodePart part).map plusToSpace)) := rfl
  rw [read, sent, Utf8.decodeLossy_encode]

theorem Form.encodePart_sends {part : String} {sent : UInt8} (member : sent ∈ encodePart part) :
    0x21 ≤ sent.toNat ∧ sent.toNat ≤ 0x7E ∧ sent ≠ 0x26 ∧ sent ≠ 0x3D := by
  obtain ⟨byte, _, inside⟩ := List.mem_flatMap.mp member
  exact encodeByte_sends byte sent inside

theorem Form.decodePair_encodePair (pair : String × String) : decodePair (encodePair pair) = pair := by
  have clean : 0x3D ∉ encodePart pair.1 := fun member => (encodePart_sends member).2.2.2 rfl
  rw [decodePair, encodePair, cutAt_of_mem clean]
  exact Prod.ext (decodePart_encodePart pair.1) (decodePart_encodePart pair.2)

/-- A pair is sent in visible ASCII without the sign that pairs are kept apart by. -/
theorem Form.encodePair_sends {pair : String × String} {sent : UInt8} (member : sent ∈ encodePair pair) :
    0x21 ≤ sent.toNat ∧ sent.toNat ≤ 0x7E ∧ sent ≠ 0x26 := by
  rcases List.mem_append.mp member with name | value
  · obtain ⟨least, most, single, _⟩ := encodePart_sends name
    exact ⟨least, most, single⟩
  · rcases List.mem_cons.mp value with rfl | value
    · decide
    · obtain ⟨least, most, single, _⟩ := encodePart_sends value
      exact ⟨least, most, single⟩

theorem Form.encodeBytes_sends {pairs : List (String × String)} {sent : UInt8} (member : sent ∈ encodeBytes pairs) :
    0x21 ≤ sent.toNat ∧ sent.toNat ≤ 0x7E := by
  rcases mem_of_mem_intercalate member with rfl | ⟨part, within, inside⟩
  · decide
  · obtain ⟨pair, _, rfl⟩ := List.mem_map.mp within
    exact ⟨(encodePair_sends inside).1, (encodePair_sends inside).2.1⟩

theorem Form.encode_encode (pairs : List (String × String)) : Utf8.encode (encode pairs) = encodeBytes pairs := by
  apply Utf8.encode_ascii
  intro byte member
  have range := encodeBytes_sends member
  omega

/-- Any pairs are read back from what they are sent as, in their order and as often as they were there. -/
theorem Form.decode_encode (pairs : List (String × String)) : decode (encode pairs) = pairs := by
  rw [decode, encode_encode, encodeBytes]
  rcases pairs with _ | ⟨pair, pairs⟩
  · rfl
  · have clean : ∀ part ∈ (pair :: pairs).map encodePair, 0x26 ∉ part := by
      intro part member
      obtain ⟨other, _, rfl⟩ := List.mem_map.mp member
      exact fun separator => (encodePair_sends separator).2.2 rfl
    have filled : ((pair :: pairs).map encodePair).filter (!·.isEmpty) = (pair :: pairs).map encodePair := by
      rw [List.filter_eq_self]
      intro part member
      obtain ⟨other, _, rfl⟩ := List.mem_map.mp member
      simp [encodePair]
    rw [pieces_intercalate clean (by simp), filled, List.map_map]
    exact (List.map_congr_left fun other _ => decodePair_encodePair other).trans (List.map_id _)

/-- What is sent is visible ASCII throughout. -/
theorem Form.encode_visible (pairs : List (String × String)) :
    ∀ c ∈ (encode pairs).toList, 0x21 ≤ c.toNat ∧ c.toNat ≤ 0x7E := by
  intro c member
  rw [encode, String.toList_ofList] at member
  obtain ⟨byte, inside, rfl⟩ := List.mem_map.mp member
  have range := encodeBytes_sends inside
  have valid : byte.toNat.isValidChar := Or.inl (by omega)
  rw [Char.ofNat, dif_pos valid]
  exact range

end MediaServer
