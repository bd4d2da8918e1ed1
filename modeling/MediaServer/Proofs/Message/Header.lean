import MediaServer.Message.Header
import MediaServer.Reply.BaseHeaders
import MediaServer.Text.Space
import MediaServer.Text.Quoted
import MediaServer.Proofs.Text.Quoted
import MediaServer.Proofs.Text.Utf8

namespace MediaServer

/-- All values of a name, in their order. -/
def Headers.values (headers : Headers) (name : String) : List Bytes :=
  (headers.filter (·.1 == name)).map (·.2)

theorem Headers.values_insert (headers : Headers) (name : String) (value : Bytes) (asked : String) :
    (headers.insert name value).values asked = if asked = name then [value] else headers.values asked := by
  unfold values insert
  rw [List.filter_append, List.filter_filter, List.map_append]
  by_cases same : asked = name
  · subst same
    have none : (headers.filter fun entry => entry.1 == asked && entry.1 != asked) = [] := by
      rw [List.filter_eq_nil_iff]
      intro entry _
      by_cases here : entry.1 = asked <;> simp [here]
    rw [none, if_pos rfl]
    simp
  · have kept : (headers.filter fun entry => entry.1 == asked && entry.1 != name) =
        headers.filter (·.1 == asked) := by
      apply List.filter_congr
      intro entry _
      by_cases here : entry.1 = asked
      · simp [here, same]
      · simp [here]
    have other : name ≠ asked := fun equal => same equal.symm
    rw [kept, if_neg same]
    simp [other]

/-- Headers that the base does not name keep their values. -/
theorem BaseHeaders.values_apply {base : BaseHeaders} {asked : String}
    (other : asked ∉ base.map (·.1)) (headers : Headers) :
    (base.apply headers).values asked = headers.values asked := by
  unfold apply
  induction base generalizing headers with
  | nil => rfl
  | cons entry base ih =>
    rw [List.map_cons, List.mem_cons, not_or] at other
    rw [List.foldl_cons, ih other.2, Headers.values_insert, if_neg other.1]

/-- Base headers of names that are new stand behind the headers that were there. -/
theorem BaseHeaders.apply_fresh {base : BaseHeaders} {headers : Headers}
    (fresh : ∀ entry ∈ headers, entry.1 ∉ base.map (·.1)) (distinct : (base.map (·.1)).Nodup) :
    base.apply headers = headers ++ base := by
  unfold apply
  induction base generalizing headers with
  | nil => simp
  | cons entry base ih =>
    obtain ⟨name, value⟩ := entry
    rw [List.map_cons, List.nodup_cons] at distinct
    have grown : headers.insert name value = headers ++ [(name, value)] := by
      rw [Headers.insert, List.filter_eq_self.mpr]
      intro other member
      have apart := fresh other member
      rw [List.map_cons, List.mem_cons, not_or] at apart
      exact bne_iff_ne.mpr apart.1
    change base.foldl _ (headers.insert name value) = _
    rw [grown, ih, List.append_assoc, List.singleton_append]
    · intro other member
      rcases List.mem_append.mp member with old | new
      · have apart := fresh other old
        rw [List.map_cons, List.mem_cons, not_or] at apart
        exact apart.2
      · rw [List.mem_singleton.mp new]
        exact distinct.1
    · exact distinct.2

theorem BaseHeaders.ofServer_names (server : String) :
    ∀ name ∈ ["content-length", "content-type", "content-disposition"],
      name ∉ (BaseHeaders.ofServer server).map (·.1) := by
  simp [ofServer]

theorem BaseHeaders.ofServer_distinct (server : String) : ((BaseHeaders.ofServer server).map (·.1)).Nodup := by
  simp [ofServer]

/-- A header that the base does not name stays in front of it. -/
theorem BaseHeaders.ofServer_apply (server name : String) (value : Bytes)
    (fresh : name ∈ ["content-length", "content-type", "content-disposition"]) :
    (BaseHeaders.ofServer server).apply [(name, value)] = (name, value) :: BaseHeaders.ofServer server := by
  apply apply_fresh
  · rw [List.forall_mem_singleton]
    exact ofServer_names server name fresh
  · exact ofServer_distinct server

theorem Headers.isLegal_iff {value : Bytes} :
    isLegal value = true ↔ ∀ byte ∈ value, byte.toNat = 0x09 ∨ 0x20 ≤ byte.toNat ∧ byte.toNat ≠ 0x7F := by
  simp [isLegal, UInt8.le_iff_toNat_le, ← UInt8.toNat_inj]

theorem Headers.isText_iff {value : Bytes} :
    isText value = true ↔ ∀ byte ∈ value, byte.toNat = 0x09 ∨ 0x20 ≤ byte.toNat ∧ byte.toNat ≤ 0x7E := by
  simp [isText, UInt8.le_iff_toNat_le, ← UInt8.toNat_inj]

theorem Headers.isLegal_of_isText {value : Bytes} (text : isText value = true) : isLegal value = true := by
  rw [isLegal_iff]
  intro byte member
  have range := isText_iff.mp text byte member
  omega

/-- The bytes of a header that is text are those of the text. -/
theorem Headers.encode_of_isText {value : Bytes} (text : isText value = true) :
    Utf8.encode (String.ofList (value.map fun byte => Char.ofNat byte.toNat)) = value := by
  apply Utf8.encode_ascii
  intro byte member
  have range := isText_iff.mp text byte member
  omega

theorem isControl_eq_false_iff {c : Char} :
    isControl c = false ↔ 0x20 ≤ c.toNat ∧ (c.toNat < 0x7F ∨ 0x9F < c.toNat) := by
  simp only [isControl, Bool.or_eq_false_iff, Bool.and_eq_false_iff, decide_eq_false_iff_not]
  omega

/-- A text without control characters can be sent in a header. -/
theorem Headers.isLegal_encode {text : String} (visible : ∀ c ∈ text.toList, isControl c = false) :
    isLegal (Utf8.encode text) = true := by
  rw [isLegal_iff]
  intro byte member
  obtain ⟨c, within, inside⟩ := List.mem_flatMap.mp member
  have range := isControl_eq_false_iff.mp (visible c within)
  by_cases ascii : c.toNat < 0x80
  · rw [utf8EncodeChar_ascii ascii, List.mem_singleton] at inside
    rw [inside, toNat_ofNat_of_lt (by omega)]
    omega
  · have high := utf8EncodeChar_high (Nat.le_of_not_lt ascii) byte inside
    omega

theorem contentDisposition_toList (filename : String) :
    (contentDisposition filename).toList =
      "inline; filename=\"".toList ++ Quoted.escape filename.toList ++ "\"".toList := by
  have framed : ∀ (opening closing : String) (text : List Char),
      (opening ++ String.ofList text ++ closing).toList = opening.toList ++ text ++ closing.toList := by
    intro opening closing text
    rw [String.toList_append, String.toList_append, String.toList_ofList]
  exact framed _ _ _

/-- Escaping adds nothing that a header could not hold. -/
theorem isLegal_contentDisposition_iff {filename : String} :
    Headers.isLegal (Utf8.encode (contentDisposition filename)) = true ↔
      Headers.isLegal (Utf8.encode filename) = true := by
  have opening : Headers.isLegal (Utf8.encode "inline; filename=\"") = true := by decide
  have closing : Headers.isLegal (Utf8.encode "\"") = true := by decide
  have backslash : Headers.isLegal (String.utf8EncodeChar '\\') = true := by decide
  simp only [Headers.isLegal_iff, Utf8.encode, List.forall_mem_flatMap] at opening closing backslash ⊢
  rw [contentDisposition_toList, List.forall_mem_append, List.forall_mem_append, Quoted.forall_mem_escape backslash]
  exact ⟨fun legal => legal.1.2, fun legal => ⟨⟨opening, legal⟩, closing⟩⟩

end MediaServer
