import MediaServer.Route.Class
import MediaServer.Proofs.Storage.Writes

namespace MediaServer

/-- Keys under which something can be stored: each is a single step down from where it stands. -/
def IsKey (key : String) : Prop :=
  key ∉ ["", ".", ".."] ∧ '/' ∉ key.toList ∧ '\\' ∉ key.toList

instance (key : String) : Decidable (IsKey key) :=
  inferInstanceAs (Decidable (_ ∧ _))

theorem isStoreKey_iff {key : String} : isStoreKey key = true ↔ IsKey key := by
  simp [isStoreKey, IsKey, and_assoc]

/-- What somebody stored. -/
structure Item where
  contentType : String
  filename : String
  bytes : Bytes

/-- What is known of an item under its keys. -/
def Item.media (item : Item) (origin mediaId : String) : StoredMedia :=
  ⟨origin, mediaId, item.contentType, item.filename, item.bytes.length, itemPlace origin mediaId⟩

/-- A store as those who use it see it: items by origin and id. -/
abbrev Catalogue := String → String → Option Item

def Catalogue.empty : Catalogue :=
  fun _ _ => none

def Catalogue.insert (catalogue : Catalogue) (origin mediaId : String) (item : Item) : Catalogue :=
  fun otherOrigin otherId =>
    if otherOrigin = origin ∧ otherId = mediaId then some item else catalogue otherOrigin otherId

theorem Catalogue.insert_self (catalogue : Catalogue) (origin mediaId : String) (item : Item) :
    catalogue.insert origin mediaId item origin mediaId = some item :=
  if_pos ⟨rfl, rfl⟩

/-- An item that is there or new is there afterwards; no other is. -/
theorem Catalogue.insert_eq_some_iff {catalogue : Catalogue} {origin mediaId otherOrigin otherId : String}
    {item other : Item} :
    catalogue.insert origin mediaId item otherOrigin otherId = some other ↔
      (otherOrigin = origin ∧ otherId = mediaId) ∧ item = other ∨
        ¬ (otherOrigin = origin ∧ otherId = mediaId) ∧ catalogue otherOrigin otherId = some other := by
  rw [insert]
  by_cases same : otherOrigin = origin ∧ otherId = mediaId
  · simp [same]
  · simp [same]

inductive StoreCall
  | put (origin : String) (item : Item) (newId : String)
  | get (origin mediaId : String)

abbrev StoreAnswer := Except StoreFault (Option StoredMedia)

/-- A call to the store on a disk. -/
def Disk.call (disk : Disk) : StoreCall → StoreAnswer × Disk
  | .put origin item newId =>
    let (answer, disk) := disk.put origin item.contentType item.filename item.bytes newId
    (answer.map some, disk)
  | .get origin mediaId => disk.get origin mediaId

/-- A call as it has to be answered. -/
def Catalogue.call (catalogue : Catalogue) : StoreCall → StoreAnswer × Catalogue
  | .put origin item newId =>
    if IsKey origin then (.ok (some (item.media origin newId)), catalogue.insert origin newId item)
    else (.error (.invalidKey origin), catalogue)
  | .get origin mediaId =>
    if ¬ IsKey origin then (.error (.invalidKey origin), catalogue)
    else if ¬ IsKey mediaId then (.error (.invalidKey mediaId), catalogue)
    else (.ok ((catalogue origin mediaId).map (·.media origin mediaId)), catalogue)

/-- Calls one after the other, with their answers. -/
def StoreCall.runAll {σ : Type} (call : σ → StoreCall → StoreAnswer × σ) (state : σ) :
    List StoreCall → List StoreAnswer × σ
  | [] => ([], state)
  | next :: calls =>
    let (answer, state) := call state next
    let (answers, state) := runAll call state calls
    (answer :: answers, state)

/-- Ids as they are made for new items. -/
structure IsNewId (id : String) : Prop where
  length : id.length = 24
  plain : id.toList.all isAlphanumeric = true

/-- An item is stored under an id that its origin has not used, and the number of its bytes has 64 bits. -/
def StoreCall.IsFresh (catalogue : Catalogue) : StoreCall → Prop
  | .put origin item newId => IsNewId newId ∧ catalogue origin newId = none ∧ item.bytes.length ≤ max64
  | .get _ _ => True

def Catalogue.Allows (catalogue : Catalogue) : List StoreCall → Prop
  | [] => True
  | call :: calls => call.IsFresh catalogue ∧ Allows (catalogue.call call).2 calls

/-- The keys of a call lead to names that can stand on a disk. -/
def StoreCall.Fits : StoreCall → Prop
  | .put origin _ _ => fitsDisk origin
  | .get origin mediaId => fitsDisk origin ∧ fitsDisk (mediaId ++ ".json")

/-- The disk did its work for a call. -/
def StoreAnswer.Works (answer : StoreAnswer) : Prop :=
  ∀ fault, answer ≠ .error (.disk fault)

section Ids

variable {id : String}

theorem length_encode_le (text : String) : (Utf8.encode text).length ≤ 4 * text.length := by
  rw [Utf8.encode, ← String.length_toList]
  induction text.toList with
  | nil => rfl
  | cons c chars ih =>
    rw [List.flatMap_cons, List.length_append, String.length_utf8EncodeChar, List.length_cons]
    have four := c.utf8Size_le_four
    omega

theorem IsNewId.not_mem (new : IsNewId id) {c : Char} (special : isAlphanumeric c = false) : c ∉ id.toList := by
  intro member
  rw [List.all_eq_true.mp new.plain c member] at special
  cases special

theorem IsNewId.ne_json (new : IsNewId id) (name : String) : id ≠ name ++ ".json" :=
  ne_append_json_of_noDot (new.not_mem rfl) name

theorem IsNewId.fits (new : IsNewId id) : fitsDisk id := by
  refine ⟨new.not_mem rfl, (length_encode_le id).trans ?_⟩
  rw [new.length, nameLimit]
  decide

theorem IsNewId.fits_json (new : IsNewId id) : fitsDisk (id ++ ".json") := by
  have suffix : '\x00' ∉ ".json".toList := by decide +kernel
  refine ⟨?_, (length_encode_le _).trans ?_⟩
  · rw [String.toList_append, List.mem_append]
    exact fun member => member.elim (new.not_mem rfl) suffix
  · rw [String.length_append, new.length, nameLimit]
    decide +kernel

end Ids

/-- The disk holds the items of the catalogue, and no directory of an origin holds anything else. -/
structure Disk.Represents (disk : Disk) (catalogue : Catalogue) : Prop where
  holds : ∀ {origin mediaId item}, catalogue origin mediaId = some item →
    disk.Holds (item.media origin mediaId) item.bytes
  fresh : ∀ {origin mediaId item}, catalogue origin mediaId = some item →
    IsNewId mediaId ∧ item.bytes.length ≤ max64
  directories : ∀ origin content, disk.node? [origin] ≠ some (.file content)
  files : ∀ {origin name node}, disk.node? [origin, name] = some node → (∃ content, node = .file content) ∧
    ∃ mediaId item, catalogue origin mediaId = some item ∧ (name = mediaId ∨ name = mediaId ++ ".json")

theorem Disk.empty_represents : Disk.empty.Represents .empty where
  holds there := by cases there
  fresh there := by cases there
  directories origin content := by simp [node?, Disk.empty]
  files there := by simp [node?, Disk.empty] at there

section Represents

variable {disk new : Disk} {catalogue : Catalogue} (represents : disk.Represents catalogue)

include represents

theorem Disk.Represents.congr (same : ∀ path, new.node? path = disk.node? path) : new.Represents catalogue where
  holds there := by
    obtain ⟨item, record⟩ := represents.holds there
    exact ⟨(find_pair_congr (same _) (same _)).trans item, (find_pair_congr (same _) (same _)).trans record⟩
  fresh := represents.fresh
  directories origin content := by
    rw [same]
    exact represents.directories origin content
  files there := by
    rw [same] at there
    exact represents.files there

variable {origin mediaId : String}

/-- There is no record of an item that nobody stored: names of items do not end like names of records. -/
theorem Disk.Represents.record_none (absent : catalogue origin mediaId = none) :
    disk.node? (recordPlace origin mediaId) = none := by
  rcases there : disk.node? (recordPlace origin mediaId) with _ | node
  · rfl
  · obtain ⟨_, otherId, item, present, own | own⟩ := represents.files there
    · exact absurd own.symm ((represents.fresh present).1.ne_json mediaId)
    · obtain rfl := (String.append_left_inj _).mp own
      rw [absent] at present
      cases present

/-- Looking an item up gives what the catalogue says, but for names that the disk cannot hold. -/
theorem Disk.Represents.get (key : isStoreKey origin = true) (idKey : isStoreKey mediaId = true) :
    (disk.get origin mediaId).1 = .ok ((catalogue origin mediaId).map (·.media origin mediaId)) ∨
      ¬ (fitsDisk origin ∧ fitsDisk (mediaId ++ ".json")) ∧
        ∃ fault, (disk.get origin mediaId).1 = .error (.disk fault) := by
  rcases found : catalogue origin mediaId with _ | item
  · rw [get_fst key idKey]
    have missing := read_missing (represents.directories origin) (represents.record_none found)
    rcases missing with notFound | ⟨unfit, fault, failed⟩
    · rw [recordPlace, notFound]
      exact Or.inl rfl
    · rw [recordPlace, failed]
      cases fault with
      | notFound => exact Or.inl rfl
      | _ => exact Or.inr ⟨unfit, _, rfl⟩
  · have got := (represents.holds found).get key idKey (represents.fresh found).2 rfl
    exact Or.inl (congrArg Prod.fst got)

variable {item : Item} {newId : String}

/-- The places of an item that is there are not those of an item with other keys. -/
theorem Disk.Represents.apart (present : catalogue origin mediaId = some item) {target : String}
    (new : IsNewId newId) (different : ¬ (origin = target ∧ mediaId = newId)) :
    itemPlace origin mediaId ∉ [itemPlace target newId, recordPlace target newId] ∧
      recordPlace origin mediaId ∉ [itemPlace target newId, recordPlace target newId] := by
  have plain := (represents.fresh present).1
  have recordApart : mediaId ++ ".json" ≠ newId := (new.ne_json mediaId).symm
  constructor
  · simpa [itemPlace, recordPlace, plain.ne_json newId] using different
  · simpa [itemPlace, recordPlace, recordApart] using different

/-- A store that succeeds enters the item into the catalogue, in the place of one with the same keys. -/
theorem Disk.Represents.put {media : StoredMedia} (fresh : IsNewId newId) (bound : item.bytes.length ≤ max64)
    (stored : disk.put origin item.contentType item.filename item.bytes newId = (.ok media, new)) :
    media = item.media origin newId ∧ new.Represents (catalogue.insert origin newId item) := by
  obtain ⟨rfl, _, holds⟩ := put_eq_ok stored
  obtain ⟨opened, written, directory, itemFile, recordFile⟩ := put_becomes stored
  have kept := disk.put_kept origin item.contentType item.filename item.bytes newId
  rw [stored] at kept
  constructor
  · rfl
  constructor
  · intro otherOrigin otherId other there
    rcases Catalogue.insert_eq_some_iff.mp there with ⟨⟨rfl, rfl⟩, rfl⟩ | ⟨different, present⟩
    · exact holds
    · obtain ⟨noItem, noRecord⟩ := represents.apart present fresh different
      exact (represents.holds present).kept kept (by simp [itemPlace, recordPlace]) noItem noRecord
  · intro otherOrigin otherId other there
    rcases Catalogue.insert_eq_some_iff.mp there with ⟨⟨rfl, rfl⟩, rfl⟩ | ⟨_, present⟩
    · exact ⟨fresh, bound⟩
    · exact represents.fresh present
  · intro otherOrigin content there
    rw [recordFile.elsewhere (by simp [recordPlace]), itemFile.elsewhere (by simp [itemPlace]),
      directory] at there
    split at there
    · cases there
    · exact represents.directories otherOrigin content there
  · intro otherOrigin name node there
    have own : (catalogue.insert origin newId item) origin newId = some item := catalogue.insert_self _ _ _
    rw [recordFile, itemFile, directory] at there
    split at there
    · rename_i same
      cases same
      cases there
      exact ⟨⟨_, rfl⟩, newId, item, own, Or.inr rfl⟩
    split at there
    · rename_i same
      cases same
      cases there
      exact ⟨⟨_, rfl⟩, newId, item, own, Or.inl rfl⟩
    split at there
    · rename_i same
      cases same
    -- The name was there before. Its item may have been of this origin and id, for all that is known here.
    · obtain ⟨file, otherId, other, present, named⟩ := represents.files there
      refine ⟨file, otherId, ?_⟩
      by_cases same : otherOrigin = origin ∧ otherId = newId
      · obtain ⟨rfl, rfl⟩ := same
        exact ⟨item, own, named⟩
      · exact ⟨other, Catalogue.insert_eq_some_iff.mpr (Or.inr ⟨same, present⟩), named⟩

/-- A store works for every origin whose name can stand on a disk. -/
theorem Disk.Represents.put_ok (key : isStoreKey origin = true) (fits : fitsDisk origin)
    (fresh : IsNewId newId) :
    ∃ media new, disk.put origin item.contentType item.filename item.bytes newId = (.ok media, new) := by
  have noDirectory : ∀ name, disk.node? [origin, name] ≠ some .directory := by
    intro name there
    obtain ⟨⟨_, file⟩, _⟩ := represents.files there
    cases file
  exact Disk.put_ok key fits fresh.fits fresh.fits_json (represents.directories origin) (noDirectory _)
    (noDirectory _)

/-- One call, from a disk that represents a catalogue: it is answered as the catalogue says and the disk
represents the catalogue afterwards, or the disk could not hold a name. -/
theorem Disk.Represents.call {call : StoreCall} (fresh : call.IsFresh catalogue) :
    (disk.call call).1 = (catalogue.call call).1 ∧ (disk.call call).2.Represents (catalogue.call call).2 ∨
      ¬ call.Fits ∧ ∃ fault, (disk.call call).1 = .error (.disk fault) := by
  cases call with
  | put origin item newId =>
    obtain ⟨new, _, bound⟩ := fresh
    rw [Disk.call, Catalogue.call]
    by_cases key : IsKey origin
    · have storeKey := isStoreKey_iff.mpr key
      rw [if_pos key]
      rcases disk.put_of_key item.contentType item.filename item.bytes newId storeKey with
        ⟨media, later, stored⟩ | ⟨fault, later, failed⟩
      · obtain ⟨rfl, grown⟩ := represents.put new bound stored
        rw [stored]
        exact Or.inl ⟨rfl, grown⟩
      · refine Or.inr ⟨fun fits => ?_, fault, by rw [failed]; rfl⟩
        obtain ⟨media, later, stored⟩ := @put_ok _ _ represents origin item newId storeKey fits new
        rw [failed] at stored
        cases stored
    · have noKey : ¬ isStoreKey origin = true := fun valid => key (isStoreKey_iff.mp valid)
      rw [if_neg key, Disk.put, if_neg noKey]
      exact Or.inl ⟨rfl, represents⟩
  | get origin mediaId =>
    have same := represents.congr (disk.get_node? origin mediaId)
    rw [Disk.call, Catalogue.call]
    by_cases key : isStoreKey origin = true
    · by_cases idKey : isStoreKey mediaId = true
      · simp only [isStoreKey_iff.mp key, isStoreKey_iff.mp idKey, not_true_eq_false, if_false]
        exact (represents.get key idKey).imp_left fun answer => ⟨answer, same⟩
      · refine Or.inl ⟨?_, ?_⟩
        · simp [Disk.get, key, idKey, ← isStoreKey_iff]
        · simpa [key, idKey, ← isStoreKey_iff] using same
    · refine Or.inl ⟨?_, ?_⟩
      · simp [Disk.get, key, ← isStoreKey_iff]
      · simpa [key, ← isStoreKey_iff] using same

/-- No store changes what is found of an item that is there, or of another origin. -/
theorem Disk.Represents.put_get {target : String} (fresh : IsNewId newId)
    (absent : catalogue target newId = none) (other : origin ≠ target ∨ catalogue origin mediaId ≠ none) :
    ((disk.put target item.contentType item.filename item.bytes newId).2.get origin mediaId).1 =
      (disk.get origin mediaId).1 := by
  by_cases elsewhere : origin = target
  · obtain ⟨present, there⟩ := Option.ne_none_iff_exists'.mp (other.resolve_left (not_not.mpr elsewhere))
    have kept := disk.put_kept target item.contentType item.filename item.bytes newId
    obtain ⟨_, _, _, directory, record⟩ := find_pair_eq_ok_iff.mp (represents.holds there).record
    have different : ¬ (origin = target ∧ mediaId = newId) := by
      rintro ⟨rfl, rfl⟩
      rw [absent] at there
      cases there
    obtain ⟨_, noRecord⟩ := represents.apart there fresh different
    apply get_fst_congr
    · exact (kept _ _ (by simp [itemPlace, recordPlace]) directory).trans directory.symm
    · exact (kept _ _ noRecord record).trans record.symm
  · have outside : ∀ names, (origin :: names).head? ≠ some target := by simpa using elsewhere
    exact get_fst_congr (put_elsewhere (outside _) ..) (put_elsewhere (outside _) ..)

end Represents

/-- A call with a key that is not valid does nothing. -/
theorem Disk.call_invalid {disk : Disk} {call : StoreCall} {key : String}
    (invalid : (disk.call call).1 = .error (.invalidKey key)) : (disk.call call).2 = disk := by
  cases call with
  | put origin item newId =>
    rw [Disk.call] at invalid ⊢
    by_cases valid : isStoreKey origin = true
    · rcases disk.put_of_key item.contentType item.filename item.bytes newId valid with
        ⟨_, _, stored⟩ | ⟨_, _, failed⟩
      · rw [stored] at invalid
        cases invalid
      · rw [failed] at invalid
        cases invalid
    · rw [put, if_neg valid]
  | get origin mediaId =>
    rw [Disk.call] at invalid ⊢
    by_cases valid : isStoreKey origin = true
    · by_cases idValid : isStoreKey mediaId = true
      · rw [get_fst valid idValid] at invalid
        split at invalid
        · cases invalid
        · cases invalid
        · split at invalid
          · cases invalid
          · cases invalid
      · simp [get, valid, idValid]
    · simp [get, valid]

/-- The catalogue never speaks of the disk. -/
theorem Catalogue.call_works (catalogue : Catalogue) (call : StoreCall) : (catalogue.call call).1.Works := by
  intro fault failed
  cases call with
  | put origin item newId =>
    rw [Catalogue.call] at failed
    split at failed
    · cases failed
    · cases failed
  | get origin mediaId =>
    rw [Catalogue.call] at failed
    split at failed
    · cases failed
    split at failed
    · cases failed
    · cases failed

section Run

variable {disk : Disk} {catalogue : Catalogue} {calls : List StoreCall}

theorem Disk.Represents.runAll_works (represents : disk.Represents catalogue) (allowed : catalogue.Allows calls)
    (fits : ∀ call ∈ calls, call.Fits) :
    ∀ answer ∈ (StoreCall.runAll Disk.call disk calls).1, answer.Works := by
  induction calls generalizing disk catalogue with
  | nil => simp [StoreCall.runAll]
  | cons call calls ih =>
    have ⟨fitsHere, fitsLater⟩ := List.forall_mem_cons.mp fits
    rcases represents.call allowed.1 with ⟨same, later⟩ | ⟨unfit, _⟩
    · rw [StoreCall.runAll]
      refine List.forall_mem_cons.mpr ⟨?_, ih later allowed.2 fitsLater⟩
      rw [same]
      exact catalogue.call_works call
    · exact absurd fitsHere unfit

theorem Disk.Represents.runAll (represents : disk.Represents catalogue) (allowed : catalogue.Allows calls)
    (works : ∀ answer ∈ (StoreCall.runAll Disk.call disk calls).1, answer.Works) :
    (StoreCall.runAll Disk.call disk calls).1 = (StoreCall.runAll Catalogue.call catalogue calls).1 ∧
      (StoreCall.runAll Disk.call disk calls).2.Represents
        (StoreCall.runAll Catalogue.call catalogue calls).2 := by
  induction calls generalizing disk catalogue with
  | nil => exact ⟨rfl, represents⟩
  | cons call calls ih =>
    rw [StoreCall.runAll] at works
    have ⟨worksHere, worksLater⟩ := List.forall_mem_cons.mp works
    rcases represents.call allowed.1 with ⟨same, later⟩ | ⟨_, fault, failed⟩
    · obtain ⟨answers, after⟩ := ih later allowed.2 worksLater
      rw [StoreCall.runAll, StoreCall.runAll]
      exact ⟨List.cons_eq_cons.mpr ⟨same, answers⟩, after⟩
    · exact absurd failed (worksHere fault)

end Run

/-- A store on a disk answers as the catalogue says, whatever is stored and looked up, as long as the disk
does its work; and it does if it can hold the names. What is found is where it is said to be, a key that is
not valid changes nothing, and no store changes what is found of an earlier item or of another origin. -/
theorem Disk.store_refines_catalogue (calls : List StoreCall) (allowed : Catalogue.empty.Allows calls) :
    let run := StoreCall.runAll Disk.call .empty calls
    let expected := StoreCall.runAll Catalogue.call .empty calls
    ((∀ call ∈ calls, call.Fits) → ∀ answer ∈ run.1, answer.Works) ∧
      ((∀ answer ∈ run.1, answer.Works) →
        run.1 = expected.1 ∧
        (∀ origin mediaId item, expected.2 origin mediaId = some item →
          (run.2.read (item.media origin mediaId).location).1 = .ok item.bytes) ∧
        (∀ call key, (run.2.call call).1 = .error (.invalidKey key) → (run.2.call call).2 = run.2) ∧
        ∀ target item newId, IsNewId newId → expected.2 target newId = none →
          ∀ origin mediaId, origin ≠ target ∨ expected.2 origin mediaId ≠ none →
            ((run.2.call (.put target item newId)).2.call (.get origin mediaId)).1 =
              (run.2.call (.get origin mediaId)).1) := by
  intro run expected
  refine ⟨empty_represents.runAll_works allowed, fun works => ?_⟩
  obtain ⟨same, represents⟩ := empty_represents.runAll allowed works
  refine ⟨same, fun origin mediaId item there => ?_, fun call key => Disk.call_invalid, ?_⟩
  · exact congrArg Prod.fst (represents.holds there).item.read
  · intro target item newId fresh absent origin mediaId other
    exact represents.put_get fresh absent other

/-- A type and a name with marks that JSON escapes, a name of a record for an id, and a key that leads up. -/
def catCalls : List StoreCall := [
  .put "example.org" ⟨"image/\"png\"", "cat\n猫.png", [0, 255, 10]⟩ "0123456789abcdefghijABCD",
  .get "example.org" "0123456789abcdefghijABCD",
  .get "example.org" "0123456789abcdefghijABCD.json",
  .get ".." "0123456789abcdefghijABCD"]

theorem catCalls_refine_catalogue :
    (StoreCall.runAll Disk.call .empty catCalls).1 =
      let cat : StoredMedia := ⟨"example.org", "0123456789abcdefghijABCD", "image/\"png\"", "cat\n猫.png", 3,
        ["example.org", "0123456789abcdefghijABCD"]⟩
      [.ok (some cat), .ok (some cat), .ok none, .error (.invalidKey "..")] := by
  have fresh : IsNewId "0123456789abcdefghijABCD" := ⟨by decide +kernel, by decide +kernel⟩
  have allowed : Catalogue.empty.Allows catCalls :=
    ⟨⟨fresh, rfl, by decide +kernel⟩, trivial, trivial, trivial, trivial⟩
  have fits : ∀ call ∈ catCalls, call.Fits := by
    have origin : fitsDisk "example.org" := ⟨by decide +kernel, by decide +kernel⟩
    have above : fitsDisk ".." := ⟨by decide +kernel, by decide +kernel⟩
    have record : fitsDisk ("0123456789abcdefghijABCD.json" ++ ".json") :=
      ⟨by decide +kernel, by decide +kernel⟩
    simp only [catCalls, List.forall_mem_cons]
    exact ⟨origin, ⟨origin, fresh.fits_json⟩, ⟨origin, record⟩, ⟨above, fresh.fits_json⟩,
      fun _ nothing => absurd nothing List.not_mem_nil⟩
  obtain ⟨works, refines⟩ := Disk.store_refines_catalogue catCalls allowed
  rw [(refines (works fits)).1]
  decide +kernel

end MediaServer
