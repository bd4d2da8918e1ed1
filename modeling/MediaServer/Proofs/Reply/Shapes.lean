import Mathlib.Data.List.Nodup
import MediaServer.Gateway.Serve
import MediaServer.Proofs.Json.Compact
import MediaServer.Proofs.Reply.Encode
import MediaServer.Proofs.Reply.Payload

namespace MediaServer

section Values

variable {headers others : Headers} {name : String} {value : Bytes}

theorem Headers.values_append (headers others : Headers) (name : String) :
    Headers.values (headers ++ others) name = headers.values name ++ others.values name := by
  rw [values, List.filter_append, List.map_append]
  rfl

theorem Headers.values_eq_nil (absent : name ∉ headers.map (·.1)) : headers.values name = [] := by
  rw [values, List.map_eq_nil_iff, List.filter_eq_nil_iff]
  intro entry member same
  exact absent (List.mem_map.mpr ⟨entry, member, eq_of_beq same⟩)

end Values

/-- A response that is no success tells in its body what went wrong: an object of a code and a message,
both texts, and no more. -/
def Response.TellsFailure (response : Response) : Prop :=
  response.status ≠ 200 → ∃ content code message, response.payload = .bytes content ∧
    Json.read? content = some (errorBody code message)

/-- A length that a response announces is the number of bytes it sends, however they are read. -/
def Response.TellsLength (response : Response) : Prop :=
  ∀ value ∈ response.headers.values "content-length", ∀ sizes,
    value = Utf8.encode (toString (response.payload.chunks sizes).flatten.length)

/-- The headers that a reply may be given. -/
def replyHeaders : List String :=
  ["content-length", "content-type", "content-disposition"]

/-- No reply is read from a directory. -/
def Reply.Regular (reply : Reply) (disk : Disk) : Prop :=
  ∀ path ∈ reply.file?, disk.find path ≠ .ok (some .directory)

theorem errorBody_read (code message : String) :
    Json.read? (Utf8.encode (errorBody code message).toText) = some (errorBody code message) :=
  Json.read?_texts [("code", code), ("message", message)]

/-- All responses that a reply can be encoded as. -/
inductive Reply.Encoding (disk : Disk) : Reply → Response → Prop
  | value {reply : Reply} (body : Bytes) : Encoding disk reply (.ofJson 200 body)
  | failure {reply : Reply} (status : Nat) (code message : String) :
      Encoding disk reply (.ofJson status (Utf8.encode (errorBody code message).toText))
  | media {stream : MediaStream} {payload : Payload}
      (opened : (stream.source.open (some stream.sizeBytes) disk).1 = .ok payload) :
      Encoding disk (.media stream) ⟨200, stream.headers.1, payload⟩
  | image {image : GeneratedImage} {payload : Payload} (opened : (image.source.open none disk).1 = .ok payload) :
      Encoding disk (.image image) ⟨200, [("content-type", contentTypeValue image.contentType)], payload⟩

section Encoding

variable {disk : Disk} {reply : Reply} {response : Response}

theorem Reply.Encoding.generic : reply.Encoding disk .genericError := by
  have body : genericErrorBody = (errorBody "M_UNKNOWN" "Unexpected error processing response").toText := by
    decide +kernel
  rw [Response.genericError, body]
  exact .failure 500 _ _

theorem Reply.encode_encoding (reply : Reply) (disk : Disk) : reply.Encoding disk (reply.encode disk).1 := by
  cases reply with
  | empty => exact .value _
  | error fault => exact .failure fault.code.status fault.code.text fault.message
  | media stream =>
    rw [encode, MediaStream.encode]
    rcases opened : stream.source.open (some stream.sizeBytes) disk with ⟨reason | payload, later⟩
    · exact .generic
    · exact .media (congrArg Prod.fst opened)
  | image generated =>
    rw [encode, GeneratedImage.encode]
    rcases opened : generated.source.open none disk with ⟨reason | payload, later⟩
    · exact .generic
    · exact .image (congrArg Prod.fst opened)
  | raw value =>
    cases value with
    | ok value => exact .value _
    | error reason => exact .generic

theorem Headers.mem_insert {headers : Headers} {name : String} {value : Bytes} {entry : String × Bytes}
    (member : entry ∈ headers.insert name value) : entry ∈ headers ∨ entry.1 = name := by
  rcases List.mem_append.mp member with old | new
  · exact Or.inl (List.mem_filter.mp old).1
  · exact Or.inr (congrArg Prod.fst (List.mem_singleton.mp new))

theorem MediaStream.headers_names (stream : MediaStream) :
    ∀ entry ∈ stream.headers.1, entry.1 ∈ replyHeaders := by
  intro entry member
  have type : ∀ entry ∈ ([("content-type", contentTypeValue stream.contentType)] : Headers),
      entry.1 ∈ replyHeaders := by
    simp [replyHeaders]
  rw [headers, Headers.insert?] at member
  rcases Headers.mem_insert member with inside | length
  · by_cases legal : Headers.isLegal (Utf8.encode (contentDisposition stream.filename)) = true
    · rw [if_pos legal] at inside
      rcases Headers.mem_insert inside with first | disposition
      · exact type entry first
      · rw [disposition]
        decide
    · rw [if_neg legal] at inside
      exact type entry inside
  · rw [length]
    decide

/-- A reply is given no headers but those of its own. -/
theorem Reply.Encoding.names (encoding : reply.Encoding disk response) :
    ∀ entry ∈ response.headers, entry.1 ∈ replyHeaders := by
  cases encoding with
  | value body => simp [Response.ofJson, replyHeaders]
  | failure status code message => simp [Response.ofJson, replyHeaders]
  | @media stream payload opened =>
    dsimp only
    exact stream.headers_names
  | image opened => simp [replyHeaders]

/-- As much is sent as was declared, or nothing is sent at all. -/
theorem servedLength_cut {content : Bytes} {declared : Nat} {cut : Bytes → Payload} {payload : Payload}
    (known : ∀ part, (cut part).content? = some part)
    (made : ((servedLength content.length (some declared)).map fun length => cut (content.take length)) =
      .ok payload) : ∃ sent, payload.content? = some sent ∧ sent.length = declared := by
  by_cases short : content.length < declared
  · simp [servedLength, short, Except.map] at made
  · simp only [servedLength, short, if_false, Except.map, Except.ok.injEq] at made
    subst made
    exact ⟨_, known _, by rw [List.length_take, Nat.min_eq_left (Nat.not_lt.mp short)]⟩

/-- What is opened with a declared length has this length, unless it is a directory. -/
theorem Source.open_length {source : Source} {declared : Nat} {payload : Payload}
    (regular : ∀ path, source = .file path → disk.find path ≠ .ok (some .directory))
    (opened : (source.open (some declared) disk).1 = .ok payload) :
    ∃ content, payload.content? = some content ∧ content.length = declared := by
  cases source with
  | memory bytes => exact servedLength_cut (fun _ => rfl) opened
  | file path =>
    rw [Source.open, Disk.open] at opened
    rcases found : disk.find path with fault | _ | (content | _)
    · simp [found] at opened
    · simp [found] at opened
    · simp only [found, DiskNode.payload] at opened
      exact servedLength_cut (fun _ => rfl) opened
    · exact absurd found (regular path rfl)

/-- The length that a reply announces is that of its body. -/
theorem Reply.Encoding.length (encoding : reply.Encoding disk response) (regular : reply.Regular disk) :
    ∀ value ∈ response.headers.values "content-length", ∃ content, response.payload.content? = some content ∧
      value = Utf8.encode (toString content.length) := by
  intro value announced
  cases encoding with
  | value body => cases announced
  | failure status code message => cases announced
  | @media stream payload opened =>
    have named : ∀ path, stream.source = .file path → disk.find path ≠ .ok (some .directory) :=
      fun path source => regular path (Reply.file?_media source)
    obtain ⟨content, known, long⟩ := Source.open_length named opened
    dsimp only at announced
    rw [stream.values_length, List.mem_singleton] at announced
    exact ⟨content, known, by rw [announced, long]⟩
  | image opened => cases announced

end Encoding

end MediaServer
