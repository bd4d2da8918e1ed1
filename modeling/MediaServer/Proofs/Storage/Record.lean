import MediaServer.Storage.Record
import MediaServer.Proofs.Json.Extension
import MediaServer.Proofs.Json.Sheet

namespace MediaServer

/-- The members of a record with how each is written. -/
def StoredMedia.writtenMembers (media : StoredMedia) : List ((String × Json) × Written) := [
  (("origin", .text media.origin), .text (Json.bodyBytes media.origin.toList)),
  (("media_id", .text media.mediaId), .text (Json.bodyBytes media.mediaId.toList)),
  (("content_type", .text media.contentType), .text (Json.bodyBytes media.contentType.toList)),
  (("filename", .text media.filename), .text (Json.bodyBytes media.filename.toList)),
  (("size_bytes", .int media.sizeBytes), .number (Json.digitBytes media.sizeBytes))]

theorem StoredMedia.readValue_record (media : StoredMedia) :
    Written.readValue (2 * media.record.length + 2) media.record = some (.object
      (media.writtenMembers.map fun member => (Json.bodyBytes member.1.1.toList, member.2)), []) := by
  have reads : ∀ member ∈ media.writtenMembers, Json.ReadsAs member.1.2 member.2 := by
    simp only [writtenMembers, List.forall_mem_cons]
    exact ⟨Json.text_readsAs _, Json.text_readsAs _, Json.text_readsAs _, Json.text_readsAs _,
      Json.int_readsAs _, fun _ nothing => absurd nothing List.not_mem_nil⟩
  have same : media.members = media.writtenMembers.map (·.1) := rfl
  have some : media.writtenMembers ≠ [] := List.cons_ne_nil _ _
  rw [record, same, Written.readValue_sheet some reads]

theorem StoredMedia.read?_written (media : StoredMedia) :
    Written.read? media.record = some (.object
      (media.writtenMembers.map fun member => (Json.bodyBytes member.1.1.toList, member.2))) := by
  rw [Written.read?, readValue_record]
  rfl

/-- Whatever its texts are, an item is read back from its record, at the place of the record. -/
theorem StoredMedia.read?_record {media : StoredMedia} (bound : media.sizeBytes ≤ max64)
    (location : DiskPath) : StoredMedia.read? location media.record = some { media with location } := by
  have text : ∀ value : String, (Written.text (Json.bodyBytes value.toList)).text? = some value :=
    Written.decodeBody?_bodyBytes
  have size := Json.natural?_digitBytes bound
  rw [read?, read?_written, Option.bind_some, ofWritten?]
  simp only [writtenMembers, List.map_cons, List.map_nil, List.mapM_cons, List.mapM_nil,
    Written.decodeBody?_bodyBytes, Option.map_some]
  change StoredMedia.ofValues? location _ _ _ _ _ = _
  simp only [ofValues?, text, size]
  rfl

theorem StoredMedia.ofValues?_location {location : DiskPath}
    {origin mediaId contentType filename size : Written} {media : StoredMedia}
    (made : ofValues? location origin mediaId contentType filename size = some media) :
    media.location = location := by
  unfold ofValues? at made
  obtain ⟨_, _, made⟩ := Option.bind_eq_some_iff.mp made
  obtain ⟨_, _, made⟩ := Option.bind_eq_some_iff.mp made
  obtain ⟨_, _, made⟩ := Option.bind_eq_some_iff.mp made
  obtain ⟨_, _, made⟩ := Option.bind_eq_some_iff.mp made
  obtain ⟨_, _, made⟩ := Option.bind_eq_some_iff.mp made
  rw [← Option.some.inj made]

/-- No record says where its item lies. -/
theorem StoredMedia.read?_location {location : DiskPath} {written : Bytes} {media : StoredMedia}
    (found : read? location written = some media) : media.location = location := by
  unfold read? at found
  obtain ⟨value, _, made⟩ := Option.bind_eq_some_iff.mp found
  unfold ofWritten? at made
  split at made
  · exact ofValues?_location made
  · obtain ⟨_, _, made⟩ := Option.bind_eq_some_iff.mp made
    obtain ⟨_, _, made⟩ := Option.bind_eq_some_iff.mp made
    obtain ⟨_, _, made⟩ := Option.bind_eq_some_iff.mp made
    obtain ⟨_, _, made⟩ := Option.bind_eq_some_iff.mp made
    obtain ⟨_, _, made⟩ := Option.bind_eq_some_iff.mp made
    obtain ⟨_, _, made⟩ := Option.bind_eq_some_iff.mp made
    exact ofValues?_location made
  · cases made

/-- A record is nothing without its last byte, be there braces and quotes in its texts or not. -/
theorem StoredMedia.read?_of_isPrefix {media : StoredMedia} {written : Bytes}
    (part : written <+: media.record) (short : written ≠ media.record) (location : DiskPath) :
    StoredMedia.read? location written = none := by
  obtain ⟨more, split⟩ := part
  have some : more ≠ [] := by
    rintro rfl
    exact short (by simpa using split)
  have unread : Written.read? written = none := by
    have whole := media.readValue_record
    rw [← split] at whole
    obtain ⟨inside, opened⟩ : ∃ inside, media.record = 0x7B :: inside := ⟨_, Json.sheet_bytes _⟩
    rcases written with _ | ⟨byte, inside⟩
    · rfl
    · rw [← split, List.cons_append, List.cons.injEq] at opened
      rw [opened.1] at whole ⊢
      exact Written.read?_eq_none_of_longer whole some
  rw [read?, unread, Option.bind_none]

end MediaServer
