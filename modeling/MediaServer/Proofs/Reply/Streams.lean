import MediaServer.Proofs.Reply.Payload
import MediaServer.Proofs.Reply.Shapes

namespace MediaServer

/-- The ways a reader may hand out a content up to a limit: some bytes at a time, but no more than
fit, until the limit is reached or the content ends. -/
inductive ReadsUpTo : Nat → Bytes → List Bytes → Prop
  | full (rest : Bytes) : ReadsUpTo 0 rest []
  | ended (limit : Nat) : ReadsUpTo limit [] []
  | piece {limit : Nat} {piece rest : Bytes} {pieces : List Bytes} (some : piece ≠ [])
      (fits : piece.length ≤ chunkSize) (later : ReadsUpTo limit rest pieces) :
      ReadsUpTo (limit + piece.length) (piece ++ rest) (piece :: pieces)

section Reading

variable {limit : Nat} {content : Bytes} {pieces : List Bytes}

theorem ReadsUpTo.flatten (reads : ReadsUpTo limit content pieces) : pieces.flatten = content.take limit := by
  induction reads with
  | full rest => rfl
  | ended limit => rw [List.take_nil, List.flatten_nil]
  | piece some fits later ih => rw [List.flatten_cons, ih, Nat.add_comm, List.take_length_add_append]

theorem ReadsUpTo.sized (reads : ReadsUpTo limit content pieces) :
    ∀ piece ∈ pieces, piece ≠ [] ∧ piece.length ≤ chunkSize := by
  induction reads with
  | full rest => exact List.forall_mem_nil _
  | ended limit => exact List.forall_mem_nil _
  | piece some fits later ih => exact List.forall_mem_cons.mpr ⟨⟨some, fits⟩, ih⟩

/-- Any pieces that make what is before the limit may be read, if none is empty or too large. -/
theorem readsUpTo_iff : ReadsUpTo limit content pieces ↔
    pieces.flatten = content.take limit ∧ ∀ piece ∈ pieces, piece ≠ [] ∧ piece.length ≤ chunkSize := by
  refine ⟨fun reads => ⟨reads.flatten, reads.sized⟩, ?_⟩
  rintro ⟨whole, sized⟩
  induction pieces generalizing limit content with
  | nil =>
    rcases List.take_eq_nil_iff.mp whole.symm with none | empty
    · rw [none]
      exact .full content
    · rw [empty]
      exact .ended limit
  | cons piece pieces ih =>
    obtain ⟨⟨some, fits⟩, others⟩ := List.forall_mem_cons.mp sized
    rw [List.flatten_cons] at whole
    have within : piece.length ≤ limit := by
      have lengths := congrArg List.length whole
      rw [List.length_append, List.length_take] at lengths
      omega
    obtain ⟨rest, split⟩ : piece <+: content := (List.prefix_append _ _).trans (whole ▸ List.take_prefix _ _)
    obtain ⟨beyond, rfl⟩ := Nat.exists_eq_add_of_le' within
    rw [← split, Nat.add_comm, List.take_length_add_append, List.append_cancel_left_eq] at whole
    rw [← split]
    exact .piece some fits (ih whole others)

theorem readChunks_pieces (sizes : Nat → Nat) {fuel turn : Nat} {content : Bytes} :
    ∀ piece ∈ readChunks sizes fuel turn content, piece ≠ [] ∧ piece.length ≤ chunkSize := by
  induction fuel generalizing turn content with
  | zero => exact List.forall_mem_nil _
  | succ fuel ih =>
    rw [readChunks]
    split
    · exact List.forall_mem_nil _
    · rename_i some
      refine List.forall_mem_cons.mpr ⟨⟨?_, ?_⟩, ih⟩
      · rw [Ne, List.take_eq_nil_iff, not_or, ← List.isEmpty_iff]
        exact ⟨by simp only [chunkSize]; omega, some⟩
      · rw [List.length_take]
        omega

/-- A reader that is asked for the lengths of some pieces one after the other gives these pieces. -/
theorem readChunks_of_readsUpTo (reads : ReadsUpTo limit content pieces) {sizes : Nat → Nat} {fuel turn : Nat}
    (enough : (content.take limit).length ≤ fuel)
    (sized : ∀ n piece, pieces[n]? = some piece → sizes (turn + n) = piece.length) :
    readChunks sizes fuel turn (content.take limit) = pieces := by
  induction reads generalizing fuel turn with
  | full rest => cases fuel <;> rfl
  | ended limit => cases fuel <;> simp [readChunks]
  | @piece limit piece rest pieces some fits later ih =>
    have positive : 0 < piece.length := List.length_pos_of_ne_nil some
    rw [Nat.add_comm limit, List.take_length_add_append] at enough ⊢
    rw [List.length_append] at enough
    obtain ⟨fuel, rfl⟩ : ∃ less, fuel = less + 1 := Nat.exists_eq_add_one_of_ne_zero (by omega)
    have asked : min chunkSize (max 1 (sizes turn)) = piece.length := by
      have first : sizes turn = piece.length := sized 0 piece rfl
      omega
    rw [readChunks, if_neg (by simp [some])]
    simp only [asked, List.take_left, List.drop_left]
    rw [ih (by omega) fun n piece there => by rw [Nat.add_right_comm]; exact sized (n + 1) piece there]

/-- An open file that is sent up to a limit comes in the pieces that a reader may give, and in no others. -/
theorem Payload.file_chunks_iff :
    (∃ sizes, (Payload.file (content.take limit)).chunks sizes = pieces) ↔ ReadsUpTo limit content pieces := by
  constructor
  · rintro ⟨sizes, rfl⟩
    exact readsUpTo_iff.mpr ⟨readChunks_flatten sizes (Nat.le_refl _) 0, readChunks_pieces sizes⟩
  · intro reads
    refine ⟨fun n => (pieces[n]?.getD []).length, readChunks_of_readsUpTo reads (Nat.le_refl _) ?_⟩
    intro n piece there
    rw [Nat.zero_add, there, Option.getD_some]

end Reading

/-- However a body is read, its pieces make the content, and none of them is empty. -/
def Payload.Sends (payload : Payload) (content : Bytes) : Prop :=
  ∀ sizes, (payload.chunks sizes).flatten = content ∧ ∀ piece ∈ payload.chunks sizes, piece ≠ []

theorem Payload.sends_of_content {payload : Payload} {content : Bytes} (known : payload.content? = some content) :
    payload.Sends content := by
  intro sizes
  refine ⟨chunks_flatten known sizes, ?_⟩
  cases payload with
  | bytes bytes =>
    rw [chunks]
    split
    · exact List.forall_mem_nil _
    · rename_i some
      exact List.forall_mem_singleton.mpr fun empty => some (List.isEmpty_iff.mpr empty)
  | file bytes => exact fun piece member => (readChunks_pieces sizes piece member).1
  | unreadable => cases known

/-- The bytes of a source that can be opened. -/
def Source.content? (source : Source) (disk : Disk) : Option Bytes :=
  match source with
  | .memory bytes => some bytes
  | .file path =>
    match disk.find path with
    | .ok (some (.file content)) => some content
    | _ => none

/-- The source is not a directory. -/
def Source.Regular (source : Source) (disk : Disk) : Prop :=
  ∀ path, source = .file path → disk.find path ≠ .ok (some .directory)

/-- The body in which some bytes of a source are sent. -/
def Source.payload : Source → Bytes → Payload
  | .memory _ => .bytes
  | .file _ => .file

section Opening

variable {source : Source} {disk : Disk} {content : Bytes}

@[simp]
theorem Source.payload_content? (source : Source) (content : Bytes) :
    (source.payload content).content? = some content := by
  cases source <;> rfl

theorem Source.content?_file {path : DiskPath} :
    (Source.file path).content? disk = some content ↔ disk.HasFile path content := by
  rw [content?, Disk.HasFile]
  split
  · rename_i found
    simp [found]
  · rename_i other
    simpa using other content

theorem Source.open_of_content (held : source.content? disk = some content) (declared? : Option Nat) :
    (source.open declared? disk).1 =
      (servedLength content.length declared?).map fun length => source.payload (content.take length) := by
  cases source with
  | memory bytes =>
    cases held
    rfl
  | file path =>
    rw [Source.open, (content?_file.mp held).open]
    rfl

theorem Source.open_of_none (regular : source.Regular disk) (none : source.content? disk = none)
    (declared? : Option Nat) : ∃ reason, (source.open declared? disk).1 = .error reason := by
  cases source with
  | memory bytes => cases none
  | file path =>
    rw [Source.open, Disk.open]
    rcases found : disk.find path with fault | _ | (content | _)
    · exact ⟨_, rfl⟩
    · exact ⟨_, rfl⟩
    · rw [content?_file.mpr found] at none
      cases none
    · exact absurd found (regular path rfl)

end Opening

section Encoding

variable {stream : MediaStream} {image : GeneratedImage} {disk : Disk} {content : Bytes}

theorem MediaStream.encode_of_enough (held : stream.source.content? disk = some content)
    (enough : stream.sizeBytes ≤ content.length) : ((Reply.media stream).encode disk).1 =
      ⟨200, stream.headers.1, stream.source.payload (content.take stream.sizeBytes)⟩ := by
  have opened := Source.open_of_content held (some stream.sizeBytes)
  rw [servedLength, if_neg (Nat.not_lt.mpr enough)] at opened
  rw [Reply.encode, encode]
  rcases result : stream.source.open (some stream.sizeBytes) disk with ⟨reason | payload, later⟩
  · rw [result] at opened
    cases opened
  · rw [result] at opened
    cases opened
    rfl

theorem MediaStream.encode_of_error {reason : String}
    (failed : (stream.source.open (some stream.sizeBytes) disk).1 = .error reason) :
    ((Reply.media stream).encode disk).1 = .genericError := by
  rw [Reply.encode, encode]
  rcases result : stream.source.open (some stream.sizeBytes) disk with ⟨reason | payload, later⟩
  · rfl
  · rw [result] at failed
    cases failed

/-- A source that holds too little is not sent at all. -/
theorem MediaStream.encode_of_less (held : stream.source.content? disk = some content)
    (less : content.length < stream.sizeBytes) : ((Reply.media stream).encode disk).1 = .genericError := by
  have opened := Source.open_of_content held (some stream.sizeBytes)
  rw [servedLength, if_pos less] at opened
  exact encode_of_error opened

theorem MediaStream.encode_of_none (regular : stream.source.Regular disk)
    (none : stream.source.content? disk = none) : ((Reply.media stream).encode disk).1 = .genericError := by
  obtain ⟨reason, failed⟩ := Source.open_of_none regular none (some stream.sizeBytes)
  exact encode_of_error failed

/-- An item is sent as declared, or its source does not hold what is declared and nothing of it is sent. -/
theorem MediaStream.encode_cases (regular : stream.source.Regular disk) :
    (∃ content, stream.source.content? disk = some content ∧ stream.sizeBytes ≤ content.length ∧
      ((Reply.media stream).encode disk).1 =
        ⟨200, stream.headers.1, stream.source.payload (content.take stream.sizeBytes)⟩) ∨
    (¬ ∃ content, stream.source.content? disk = some content ∧ stream.sizeBytes ≤ content.length) ∧
      ((Reply.media stream).encode disk).1 = .genericError := by
  rcases held : stream.source.content? disk with _ | content
  · exact Or.inr ⟨by simp, encode_of_none regular held⟩
  · by_cases enough : stream.sizeBytes ≤ content.length
    · exact Or.inl ⟨content, rfl, enough, encode_of_enough held enough⟩
    · exact Or.inr ⟨by simpa using enough, encode_of_less held (Nat.lt_of_not_le enough)⟩

theorem GeneratedImage.encode_of_content (held : image.source.content? disk = some content) :
    ((Reply.image image).encode disk).1 =
      ⟨200, [("content-type", contentTypeValue image.contentType)], image.source.payload content⟩ := by
  have opened := Source.open_of_content held none
  rw [servedLength, Except.map, List.take_length] at opened
  rw [Reply.encode, encode]
  rcases result : image.source.open none disk with ⟨reason | payload, later⟩
  · rw [result] at opened
    cases opened
  · rw [result] at opened
    cases opened
    rfl

theorem GeneratedImage.encode_of_none (regular : image.source.Regular disk)
    (none : image.source.content? disk = none) : ((Reply.image image).encode disk).1 = .genericError := by
  obtain ⟨reason, failed⟩ := Source.open_of_none regular none Option.none
  rw [Reply.encode, encode]
  rcases result : image.source.open Option.none disk with ⟨reason | payload, later⟩
  · rfl
  · rw [result] at failed
    cases failed

end Encoding

/-- An item is sent if its source opens and holds what is declared, and then it is sent just as far;
if not, nothing of it is sent. -/
structure MediaStream.Answered (stream : MediaStream) (disk : Disk) (response : Response) : Prop where
  status : response.status = 200 ↔
    ∃ content, stream.source.content? disk = some content ∧ stream.sizeBytes ≤ content.length
  length : response.status = 200 →
    response.headers.values "content-length" = [Utf8.encode (toString stream.sizeBytes)]
  body : ∀ content, response.status = 200 → stream.source.content? disk = some content →
    response.payload.Sends (content.take stream.sizeBytes)
  reads : ∀ content path pieces, response.status = 200 → stream.source.content? disk = some content →
    stream.source = .file path →
      ((∃ sizes, response.payload.chunks sizes = pieces) ↔ ReadsUpTo stream.sizeBytes content pieces)
  refusal : response.status ≠ 200 → response = .genericError

/-- An image that opens is sent whole. -/
structure GeneratedImage.Answered (image : GeneratedImage) (disk : Disk) (response : Response) : Prop where
  status : response.status = 200 ↔ ∃ content, image.source.content? disk = some content
  body : ∀ content, image.source.content? disk = some content → response.payload.Sends content
  refusal : response.status ≠ 200 → response = .genericError

theorem Response.genericError_status : Response.genericError.status ≠ 200 := by
  decide

theorem MediaStream.answered (stream : MediaStream) {disk : Disk} (regular : stream.source.Regular disk) :
    stream.Answered disk ((Reply.media stream).encode disk).1 := by
  rcases encode_cases regular with ⟨content, held, enough, sent⟩ | ⟨lacking, refused⟩
  · have only : ∀ same, stream.source.content? disk = some same → same = content :=
      fun same again => Option.some.inj (again.symm.trans held)
    rw [sent]
    refine ⟨⟨fun _ => ⟨content, held, enough⟩, fun _ => rfl⟩, ?_, ?_, ?_, fun failed => absurd rfl failed⟩
    · intro _
      dsimp only
      exact stream.values_length
    · intro same _ again
      rw [only same again]
      exact Payload.sends_of_content (stream.source.payload_content? _)
    · intro same path pieces _ again source
      rw [only same again, source]
      exact Payload.file_chunks_iff
  · rw [refused]
    have failed := Response.genericError_status
    exact ⟨⟨fun ok => absurd ok failed, fun able => absurd able lacking⟩, fun ok => absurd ok failed,
      fun _ ok => absurd ok failed, fun _ _ _ ok => absurd ok failed, fun _ => rfl⟩

theorem GeneratedImage.answered (image : GeneratedImage) {disk : Disk} (regular : image.source.Regular disk) :
    image.Answered disk ((Reply.image image).encode disk).1 := by
  rcases held : image.source.content? disk with _ | content
  · rw [encode_of_none regular held]
    have failed := Response.genericError_status
    exact ⟨⟨fun ok => absurd ok failed, by simp [held]⟩, by simp [held], fun _ => rfl⟩
  · rw [encode_of_content held]
    refine ⟨⟨fun _ => ⟨content, held⟩, fun _ => rfl⟩, ?_, fun failed => absurd rfl failed⟩
    intro same again
    rw [Option.some.inj (again.symm.trans held)]
    exact Payload.sends_of_content (image.source.payload_content? content)

/-- Responses of one status, with the same headers, whose bodies are the same bytes. -/
def Response.Alike (one other : Response) : Prop :=
  one.status = other.status ∧ one.headers = other.headers ∧
    ∀ sizes others, (one.payload.chunks sizes).flatten = (other.payload.chunks others).flatten

theorem Response.Alike.refl {response : Response} {content : Bytes}
    (known : response.payload.content? = some content) : response.Alike response := by
  refine ⟨rfl, rfl, fun sizes others => ?_⟩
  rw [Payload.chunks_flatten known, Payload.chunks_flatten known]

section Alike

variable {source another : Source} {disk : Disk} {content : Bytes}

end Alike

end MediaServer
