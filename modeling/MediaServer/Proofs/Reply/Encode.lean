import MediaServer.Reply.Encode
import MediaServer.Proofs.Message.Header
import MediaServer.Proofs.Storage.Disk

namespace MediaServer

/-- The file that a reply is read from, if any. -/
def Reply.file? : Reply → Option DiskPath
  | .media ⟨_, _, _, .file path⟩ => some path
  | .image ⟨_, .file path⟩ => some path
  | _ => none

theorem Reply.file?_media {stream : MediaStream} {path : DiskPath} (source : stream.source = .file path) :
    path ∈ (Reply.media stream).file? := by
  obtain ⟨contentType, filename, sizeBytes, _⟩ := stream
  cases source
  rfl

theorem Reply.file?_image {generated : GeneratedImage} {path : DiskPath} (source : generated.source = .file path) :
    path ∈ (Reply.image generated).file? := by
  obtain ⟨contentType, _⟩ := generated
  cases source
  rfl

theorem ErrorCode.status_ne_ok (code : ErrorCode) : code.status ≠ 200 := by
  cases code <;> simp [status]

/-- Opening a source does nothing to the disk but open the file it is in. -/
theorem Source.open_disk (source : Source) (declared? : Option Nat) (disk : Disk) :
    (source.open declared? disk).2 = disk ∨
      ∃ path, source = .file path ∧ (source.open declared? disk).2 = (disk.open path).2 := by
  cases source with
  | memory bytes => exact Or.inl rfl
  | file path =>
    refine Or.inr ⟨path, rfl, ?_⟩
    rw [Source.open]
    split
    · rename_i opened
      rw [opened]
    · rename_i opened
      rw [opened]

/-- Making a response does nothing to the disk but open the file that the reply is read from. -/
theorem Reply.encode_disk (reply : Reply) (disk : Disk) :
    (reply.encode disk).2.2 = disk ∨
      ∃ path ∈ reply.file?, (reply.encode disk).2.2 = (disk.open path).2 := by
  cases reply with
  | empty => exact Or.inl rfl
  | error fault => exact Or.inl rfl
  | raw value => exact Or.inl rfl
  | media stream =>
    have own : ((Reply.media stream).encode disk).2.2 =
        (stream.source.open (some stream.sizeBytes) disk).2 := by
      rw [encode, MediaStream.encode]
      rcases stream.source.open (some stream.sizeBytes) disk with ⟨reason | payload, later⟩
      · rfl
      · rfl
    rw [own]
    rcases stream.source.open_disk (some stream.sizeBytes) disk with same | ⟨path, source, opened⟩
    · exact Or.inl same
    · exact Or.inr ⟨path, file?_media source, opened⟩
  | image generated =>
    have own : ((Reply.image generated).encode disk).2.2 = (generated.source.open none disk).2 := by
      rw [encode, GeneratedImage.encode]
      rcases generated.source.open none disk with ⟨reason | payload, later⟩
      · rfl
      · rfl
    rw [own]
    rcases generated.source.open_disk none disk with same | ⟨path, source, opened⟩
    · exact Or.inl same
    · exact Or.inr ⟨path, file?_image source, opened⟩

/-- Making a response changes nothing on the disk. -/
theorem Reply.encode_node? (reply : Reply) (disk : Disk) (place : DiskPath) :
    (reply.encode disk).2.2.node? place = disk.node? place := by
  rcases reply.encode_disk disk with same | ⟨path, _, opened⟩
  · rw [same]
  · rw [opened, Disk.open_node?]

theorem MediaStream.values_length (stream : MediaStream) :
    stream.headers.1.values "content-length" = [Utf8.encode (toString stream.sizeBytes)] := by
  rw [headers]
  exact (Headers.values_insert _ _ _ _).trans (if_pos rfl)

theorem MediaStream.values_type (stream : MediaStream) :
    stream.headers.1.values "content-type" = [contentTypeValue stream.contentType] := by
  rw [headers]
  refine (Headers.values_insert _ _ _ _).trans ?_
  rw [if_neg (by decide +kernel), Headers.insert?]
  by_cases legal : Headers.isLegal (Utf8.encode (contentDisposition stream.filename)) = true
  · rw [if_pos legal]
    exact (Headers.values_insert _ _ _ _).trans (by rw [if_neg (by decide +kernel)]; rfl)
  · rw [if_neg legal]
    rfl

/-- A file name is sent exactly if a header can hold it. -/
theorem MediaStream.values_disposition_eq (stream : MediaStream) :
    stream.headers.1.values "content-disposition" =
      if Headers.isLegal (Utf8.encode stream.filename) then [Utf8.encode (contentDisposition stream.filename)]
      else [] := by
  rw [headers]
  refine (Headers.values_insert _ _ _ _).trans ?_
  rw [if_neg (by decide +kernel), Headers.insert?]
  simp only [isLegal_contentDisposition_iff]
  by_cases legal : Headers.isLegal (Utf8.encode stream.filename) = true
  · rw [if_pos legal, if_pos legal]
    exact (Headers.values_insert _ _ _ _).trans (if_pos rfl)
  · rw [if_neg legal, if_neg legal]
    rfl

/-- A file name that has no control character is always sent. -/
theorem MediaStream.values_disposition {stream : MediaStream}
    (visible : ∀ c ∈ stream.filename.toList, isControl c = false) :
    stream.headers.1.values "content-disposition" = [Utf8.encode (contentDisposition stream.filename)] := by
  rw [values_disposition_eq, if_pos (Headers.isLegal_encode visible)]

/-- A file of the declared size is sent as it is. -/
theorem MediaStream.encode_of_hasFile {stream : MediaStream} {disk : Disk} {path : DiskPath} {bytes : Bytes}
    (source : stream.source = .file path) (there : disk.HasFile path bytes)
    (size : stream.sizeBytes = bytes.length) (kind : String) :
    (stream.encode kind disk).1 = ⟨200, stream.headers.1, .file bytes⟩ := by
  rw [encode, source, Source.open, there.open]
  simp [DiskNode.payload, servedLength, size, Except.map]

end MediaServer
