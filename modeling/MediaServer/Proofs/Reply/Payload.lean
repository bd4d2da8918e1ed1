import MediaServer.Reply.Response

namespace MediaServer

/-- However much is read at a time, the pieces of a file make the file. -/
theorem readChunks_flatten (sizes : Nat → Nat) {fuel : Nat} {content : Bytes}
    (enough : content.length ≤ fuel) (turn : Nat) : (readChunks sizes fuel turn content).flatten = content := by
  induction fuel generalizing turn content with
  | zero =>
    rw [List.eq_nil_of_length_eq_zero (Nat.le_zero.mp enough)]
    rfl
  | succ fuel ih =>
    rw [readChunks]
    split
    · rename_i empty
      rw [List.isEmpty_iff.mp empty]
      rfl
    · have some : 0 < min chunkSize (max 1 (sizes turn)) := by
        simp only [chunkSize]
        omega
      have shorter : (content.drop (min chunkSize (max 1 (sizes turn)))).length ≤ fuel := by
        rw [List.length_drop]
        omega
      rw [List.flatten_cons, ih shorter, List.take_append_drop]

theorem Payload.chunks_flatten {payload : Payload} {content : Bytes} (known : payload.content? = some content)
    (sizes : Nat → Nat) : (payload.chunks sizes).flatten = content := by
  cases payload with
  | bytes bytes =>
    cases known
    rw [chunks]
    split
    · rename_i empty
      exact (List.isEmpty_iff.mp empty).symm
    · exact List.append_nil _
  | file bytes =>
    cases known
    exact readChunks_flatten sizes (Nat.le_refl _) 0
  | unreadable => cases known

end MediaServer
