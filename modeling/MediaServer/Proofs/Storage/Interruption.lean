import MediaServer.Proofs.Storage.Catalogue

namespace MediaServer

/-- The disks that are passed while steps are taken until one fails or all are done. Bytes reach a file
one after the other. -/
inductive DiskStep.Passes : Disk → List DiskStep → Disk → Prop
  | here {disk : Disk} {steps : List DiskStep} : Passes disk steps disk
  | within {disk : Disk} {path : DiskPath} {bytes written : Bytes} {steps : List DiskStep} :
      written <+: bytes → Passes disk (.append path bytes :: steps) (disk.append path written)
  | later {disk next point : Disk} {step : DiskStep} {steps : List DiskStep} :
      step.run disk = .ok next → Passes next steps point → Passes disk (step :: steps) point

theorem DiskStep.runAll_passes (disk : Disk) (steps : List DiskStep) :
    Passes disk steps (runAll disk steps).2 := by
  induction steps generalizing disk with
  | nil => exact .here
  | cons step steps ih =>
    rw [runAll]
    rcases taken : step.run disk with fault | next
    · exact .here
    · exact .later taken (ih next)

/-- The disks that are passed while an item is stored under a new id. -/
def Disk.PutPasses (disk : Disk) (origin : String) (item : Item) (newId : String) (point : Disk) : Prop :=
  if isStoreKey origin then DiskStep.Passes disk ((item.media origin newId).steps item.bytes) point
  else point = disk

/-- An id is drawn when the key is valid and its directory is there. -/
def Disk.DrawsId (disk : Disk) (origin : String) : Prop :=
  isStoreKey origin = true ∧ ∃ opened, disk.makeDirectories [origin] = .ok opened

/-- What stands inside something stands inside a directory. -/
def Disk.Grounded (disk : Disk) : Prop :=
  ∀ {outer inner node}, disk.node? [outer, inner] = some node → disk.node? [outer] = some .directory

theorem Disk.empty_grounded : Disk.empty.Grounded := by
  intro outer inner node there
  simp [node?, Disk.empty] at there

/-- A file that is opened anew and written to holds a part of what is written, until it is complete. -/
theorem DiskStep.Passes.write {disk point : Disk} {place : DiskPath} {bytes : Bytes} {steps : List DiskStep}
    (below : place ≠ []) (passes : Passes disk (.truncate place :: .append place bytes :: steps) point) :
    point = disk ∨ (∃ written, written <+: bytes ∧ disk.Becomes place (.file written) point) ∨
      ∃ complete, disk.Becomes place (.file bytes) complete ∧ Passes complete steps point := by
  cases passes with
  | here => exact .inl rfl
  | later opened passes =>
    cases passes with
    | here => exact .inr (.inl ⟨[], List.nil_prefix, Disk.truncate_becomes below opened⟩)
    | within part => exact .inr (.inl ⟨_, part, Disk.write_becomes below opened _⟩)
    | later written passes =>
      cases written
      exact .inr (.inr ⟨_, Disk.write_becomes below opened bytes, passes⟩)

theorem Disk.makeDirectories_fits {disk opened : Disk} {name : String}
    (made : disk.makeDirectories [name] = .ok opened) :
    fitsDisk name ∧ ∀ content, disk.node? [name] ≠ some (.file content) := by
  unfold makeDirectories at made
  split at made
  · cases made
  · rename_i noZero
    rw [makeInside] at made
    by_cases long : nameLimit < (Utf8.encode name).length
    · simp [long] at made
    · refine ⟨⟨by simpa [DiskPath.hasZero] using noZero, Nat.le_of_not_lt long⟩, ?_⟩
      rintro content there
      simp [long, there] at made

/-- The directory is there, and nothing has changed but this and what is at the place of the item. -/
structure Disk.Begun (disk : Disk) (origin newId : String) (point : Disk) : Prop where
  fits : fitsDisk origin
  noFile : ∀ content, disk.node? [origin] ≠ some (.file content)
  directory : point.node? [origin] = some .directory
  elsewhere : ∀ path, path ≠ [origin] → path ≠ itemPlace origin newId → point.node? path = disk.node? path

section Put

variable {disk middle point : Disk} {origin newId : String}

theorem Disk.begun_of_made (made : disk.makeDirectories [origin] = .ok point) : disk.Begun origin newId point := by
  obtain ⟨fits, noFile⟩ := makeDirectories_fits made
  have directory := makeDirectories_becomes made
  exact ⟨fits, noFile, directory.here, fun path noDirectory _ => directory.elsewhere noDirectory⟩

theorem Disk.Begun.item (begun : disk.Begun origin newId middle) {node : DiskNode}
    (file : middle.Becomes (itemPlace origin newId) node point) : disk.Begun origin newId point where
  fits := begun.fits
  noFile := begun.noFile
  directory := by
    rw [file.elsewhere (by simp [itemPlace]), begun.directory]
  elsewhere path noDirectory noItem := by
    rw [file.elsewhere noItem, begun.elsewhere path noDirectory noItem]

/-- All that a store can leave: the record is begun when the item is complete. -/
theorem Disk.cases_of_passes {item : Item}
    (passes : DiskStep.Passes disk ((item.media origin newId).steps item.bytes) point) :
    point = disk ∨ disk.Begun origin newId point ∨
      ∃ complete written, disk.Begun origin newId complete ∧
        complete.node? (itemPlace origin newId) = some (.file item.bytes) ∧
        written <+: (item.media origin newId).record ∧
        complete.Becomes (recordPlace origin newId) (.file written) point := by
  cases passes with
  | here => exact .inl rfl
  | later made passes =>
    have begun : disk.Begun origin newId _ := begun_of_made made
    refine .inr ?_
    rcases passes.write (List.cons_ne_nil _ _) with rfl | ⟨written, part, file⟩ | ⟨complete, file, passes⟩
    · exact .inl begun
    · exact .inl (begun.item file)
    have whole := begun.item file
    rcases passes.write (List.cons_ne_nil _ _) with rfl | ⟨written, part, record⟩ | ⟨last, record, passes⟩
    · exact .inl whole
    · exact .inr ⟨complete, written, whole, file.here, part, record⟩
    · cases passes
      exact .inr ⟨complete, _, whole, file.here, List.prefix_rfl, record⟩

theorem Disk.Begun.grounded (begun : disk.Begun origin newId point) (grounded : disk.Grounded) :
    point.Grounded := by
  intro outer inner node there
  by_cases own : outer = origin
  · rw [own, begun.directory]
  · rw [begun.elsewhere _ (by simp) (by simp [itemPlace, own])] at there
    rw [begun.elsewhere _ (by simp [own]) (by simp [itemPlace]), grounded there]

/-- A file that is written inside a directory leaves every other directory and what is in it as it was. -/
theorem Disk.Becomes.grounded {inner : String} {node : DiskNode}
    (becomes : middle.Becomes [origin, inner] node point) (directory : middle.node? [origin] = some .directory)
    (grounded : middle.Grounded) : point.Grounded := by
  intro outer name other there
  rw [becomes.elsewhere (by simp)]
  by_cases own : [outer, name] = [origin, inner]
  · cases own
    exact directory
  · rw [becomes.elsewhere own] at there
    exact grounded there

theorem IsNewId.isStoreKey (new : IsNewId newId) : isStoreKey newId = true := by
  refine isStoreKey_iff.mpr ⟨?_, new.not_mem rfl, new.not_mem rfl⟩
  have length := new.length
  simp only [List.mem_cons, List.not_mem_nil, or_false]
  rintro (rfl | rfl | rfl)
  all_goals exact absurd length (by decide +kernel)

theorem Disk.Begun.record_none (begun : disk.Begun origin newId point)
    (fresh : disk.node? (recordPlace origin newId) = none) : point.node? (recordPlace origin newId) = none := by
  have apart : recordPlace origin newId ≠ itemPlace origin newId := by
    simp [recordPlace, itemPlace]
  rw [begun.elsewhere _ (by simp [recordPlace]) apart, fresh]

/-- As long as the record is not begun the new item is not there. -/
theorem Disk.Begun.get_new (begun : disk.Begun origin newId point) (key : isStoreKey origin = true)
    (new : IsNewId newId) (fresh : disk.node? (recordPlace origin newId) = none) :
    (point.get origin newId).1 = .ok none := by
  have noFile : ∀ content, point.node? [origin] ≠ some (.file content) := by
    simp [begun.directory]
  rw [get_fst key new.isStoreKey]
  rcases read_missing noFile (begun.record_none fresh) with absent | ⟨unfit, _⟩
  · rw [recordPlace, absent]
  · exact absurd ⟨begun.fits, new.fits_json⟩ unfit

theorem Disk.hasFile_of_node? {inner : String} {content : Bytes} (fits : fitsDisk origin)
    (fitsInner : fitsDisk inner) (directory : point.node? [origin] = some .directory)
    (file : point.node? [origin, inner] = some (.file content)) : point.HasFile [origin, inner] content := by
  have noZero : DiskPath.hasZero [origin, inner] = false := by
    simpa [DiskPath.hasZero] using And.intro fits.1 fitsInner.1
  exact find_pair_eq_ok_iff.mpr ⟨noZero, Nat.not_lt.mpr fits.2, Nat.not_lt.mpr fitsInner.2, directory, file⟩

theorem Disk.get_of_read_missing {otherId : String} (key : isStoreKey origin = true)
    (idKey : isStoreKey otherId = true)
    (missing : (disk.read (recordPlace origin otherId)).1 = .error .notFound) :
    (disk.get origin otherId).1 = .ok none := by
  rw [get_fst key idKey, missing]

/-- Before the directory is there no item of the origin is, and making it makes none. Only a name that no
directory can have is found missing before and refused afterwards. -/
theorem Disk.Begun.get_sibling (begun : disk.Begun origin newId point) (absent : disk.node? [origin] = none)
    (grounded : disk.Grounded) {otherId : String}
    (record : point.node? (recordPlace origin otherId) = disk.node? (recordPlace origin otherId))
    (seen : (disk.get origin otherId).1 ≠ .ok none ∨ fitsDisk (otherId ++ ".json")) :
    (point.get origin otherId).1 = (disk.get origin otherId).1 := by
  by_cases key : isStoreKey origin = true
  case neg => simp [get, key]
  by_cases idKey : isStoreKey otherId = true
  case neg => simp [get, key, idKey]
  by_cases zero : DiskPath.hasZero (recordPlace origin otherId) = true
  · simp only [get_fst key idKey, read_fst, find, if_pos zero]
  have before : (disk.get origin otherId).1 = .ok none := by
    refine get_of_read_missing key idKey ?_
    rw [read_fst, find, if_neg zero, recordPlace, follow, if_neg (Nat.not_lt.mpr begun.fits.2)]
    simp [absent]
  have fits := seen.resolve_left fun other => other before
  have missing : point.node? (recordPlace origin otherId) = none := by
    rw [record]
    rcases there : disk.node? (recordPlace origin otherId) with _ | node
    · rfl
    · rw [grounded there] at absent
      cases absent
  have noFile : ∀ content, point.node? [origin] ≠ some (.file content) := by
    simp [begun.directory]
  rcases read_missing noFile missing with after | ⟨unfit, _⟩
  · rw [before, get_of_read_missing key idKey after]
  · exact absurd ⟨begun.fits, fits⟩ unfit

theorem Disk.Begun.get_other (begun : disk.Begun origin newId point) (grounded : disk.Grounded)
    (new : IsNewId newId) {otherOrigin otherId : String}
    (seen : (disk.get otherOrigin otherId).1 ≠ .ok none ∨ fitsDisk (otherId ++ ".json")) :
    (point.get otherOrigin otherId).1 = (disk.get otherOrigin otherId).1 := by
  have apart : recordPlace otherOrigin otherId ≠ itemPlace origin newId := by
    intro same
    simp only [recordPlace, itemPlace, List.cons.injEq, and_true] at same
    exact new.ne_json otherId same.2.symm
  have record := begun.elsewhere (recordPlace otherOrigin otherId) (by simp [recordPlace]) apart
  by_cases own : otherOrigin = origin
  · subst own
    rcases there : disk.node? [otherOrigin] with _ | (content | _)
    · exact begun.get_sibling there grounded record seen
    · exact absurd there (begun.noFile content)
    · exact get_fst_congr (begun.directory.trans there.symm) record
  · exact get_fst_congr (begun.elsewhere _ (by simpa using own) (by simp [itemPlace])) record

/-- Once the record is begun the bytes are complete, and the item is found when the record is complete. -/
theorem Disk.Begun.get_recorded {item : Item} {written : Bytes} (begun : disk.Begun origin newId middle)
    (key : isStoreKey origin = true) (new : IsNewId newId) (bound : item.bytes.length ≤ max64)
    (bytes : middle.node? (itemPlace origin newId) = some (.file item.bytes))
    (part : written <+: (item.media origin newId).record)
    (record : middle.Becomes (recordPlace origin newId) (.file written) point) :
    point.HasFile (itemPlace origin newId) item.bytes ∧ point.HasFile (recordPlace origin newId) written ∧
      (point.get origin newId).1 = if written = (item.media origin newId).record then
        .ok (some (item.media origin newId)) else .error .corrupt := by
  have directory : point.node? [origin] = some .directory := by
    rw [record.elsewhere (by simp [recordPlace]), begun.directory]
  have itemFile : point.HasFile (itemPlace origin newId) item.bytes := by
    refine hasFile_of_node? begun.fits new.fits directory ?_
    have apart : itemPlace origin newId ≠ recordPlace origin newId := by
      simpa [itemPlace, recordPlace] using ne_append_json newId
    rw [← itemPlace, record.elsewhere apart, bytes]
  have recordFile : point.HasFile (recordPlace origin newId) written :=
    hasFile_of_node? begun.fits new.fits_json directory record.here
  refine ⟨itemFile, recordFile, ?_⟩
  by_cases complete : written = (item.media origin newId).record
  · have holds : point.Holds (item.media origin newId) item.bytes := ⟨itemFile, complete ▸ recordFile⟩
    rw [if_pos complete]
    exact congrArg Prod.fst (holds.get key new.isStoreKey bound rfl)
  · rw [get_fst key new.isStoreKey, recordFile.read, if_neg complete]
    simp only [StoredMedia.read?_of_isPrefix part complete]

theorem Disk.DrawsId.get_new (draws : disk.DrawsId origin) (new : IsNewId newId)
    (fresh : disk.node? (recordPlace origin newId) = none) : (disk.get origin newId).1 = .ok none := by
  obtain ⟨key, _, made⟩ := draws
  obtain ⟨fits, noFile⟩ := makeDirectories_fits made
  rcases read_missing noFile fresh with absent | ⟨unfit, _⟩
  · exact get_of_read_missing key new.isStoreKey absent
  · exact absurd ⟨fits, new.fits_json⟩ unfit

variable {item : Item}

/-- Where a store ends, be it with an error, is one of the disks it passes. -/
theorem Disk.put_passes : disk.PutPasses origin item newId
    (disk.put origin item.contentType item.filename item.bytes newId).2 := by
  unfold PutPasses put
  split
  · have passes := DiskStep.runAll_passes disk ((item.media origin newId).steps item.bytes)
    dsimp only
    split
    · rename_i done
      rwa [Item.media, done] at passes
    · rename_i failed
      rwa [Item.media, failed] at passes
  · rfl

/-- A store that draws no id changes nothing. -/
theorem Disk.put_of_not_drawsId (undrawn : ¬ disk.DrawsId origin) :
    (∃ fault, disk.put origin item.contentType item.filename item.bytes newId = (.error fault, disk)) ∧
      ∀ point, disk.PutPasses origin item newId point → point = disk := by
  by_cases key : isStoreKey origin = true
  · simp only [PutPasses, put, if_pos key]
    rcases made : disk.makeDirectories [origin] with fault | opened
    · have failed : DiskStep.run disk (.makeDirectories [origin]) = .error fault := made
      refine ⟨⟨.disk fault, by simp only [StoredMedia.steps, DiskStep.runAll, failed]⟩, ?_⟩
      intro point passes
      cases passes with
      | here => rfl
      | later taken _ =>
        rw [Item.media, failed] at taken
        cases taken
    · exact absurd ⟨key, opened, made⟩ undrawn
  · simp only [PutPasses, put, if_neg key]
    exact ⟨⟨_, rfl⟩, fun _ same => same⟩

/-- No disk on the way is one where something stands in no directory. -/
theorem Disk.PutPasses.grounded (passes : disk.PutPasses origin item newId point) (grounded : disk.Grounded) :
    point.Grounded := by
  unfold PutPasses at passes
  split at passes
  · rcases cases_of_passes passes with rfl | begun | ⟨complete, written, begun, _, _, record⟩
    · exact grounded
    · exact begun.grounded grounded
    · exact record.grounded begun.directory (begun.grounded grounded)
  · rwa [passes]

theorem Disk.call_grounded (grounded : disk.Grounded) (call : StoreCall) : (disk.call call).2.Grounded := by
  cases call with
  | put origin item newId => exact put_passes.grounded grounded
  | get origin mediaId =>
    intro outer inner node there
    rw [call, get_node?] at there ⊢
    exact grounded there

/-- So this is true of every disk that calls to the store have led to. -/
theorem StoreCall.runAll_grounded (grounded : disk.Grounded) (calls : List StoreCall) :
    (runAll Disk.call disk calls).2.Grounded := by
  induction calls generalizing disk with
  | nil => exact grounded
  | cons call calls ih => exact ih (Disk.call_grounded grounded call)

end Put

/-- A store is all or nothing for those who look items up. Wherever it is on its way, and wherever it stops,
its own item is not there, or has a part of a record, or has all of its record and of its bytes; every
other item is found or not as before. This says nothing only of ids whose record could have no name on a
disk, which are not there before and perhaps refused afterwards. -/
theorem Disk.put_all_or_nothing {disk : Disk} {origin newId : String} {item : Item} (grounded : disk.Grounded)
    (new : IsNewId newId) (bound : item.bytes.length ≤ max64)
    (fresh : disk.node? (recordPlace origin newId) = none) :
    let answer := disk.put origin item.contentType item.filename item.bytes newId
    let media := item.media origin newId
    disk.PutPasses origin item newId answer.2 ∧
      (¬ disk.DrawsId origin → ∃ fault, answer = (.error fault, disk)) ∧
      ∀ point, disk.PutPasses origin item newId point →
        point.Grounded ∧
        (¬ disk.DrawsId origin → point = disk) ∧
        (disk.DrawsId origin →
          (point.node? (recordPlace origin newId) = none ∧ (point.get origin newId).1 = .ok none) ∨
          (∃ written, written <+: media.record ∧ written ≠ media.record ∧
            point.HasFile (recordPlace origin newId) written ∧
            (point.get origin newId).1 = .error .corrupt) ∨
          (point.HasFile (recordPlace origin newId) media.record ∧
            point.HasFile (itemPlace origin newId) item.bytes ∧ media.sizeBytes = item.bytes.length ∧
            (point.get origin newId).1 = .ok (some media))) ∧
        ∀ otherOrigin otherId, ¬ (otherOrigin = origin ∧ otherId = newId) →
          (disk.get otherOrigin otherId).1 ≠ .ok none ∨ fitsDisk (otherId ++ ".json") →
            (point.get otherOrigin otherId).1 = (disk.get otherOrigin otherId).1 := by
  intro answer media
  refine ⟨put_passes, fun undrawn => (put_of_not_drawsId undrawn).1, fun point passes => ?_⟩
  by_cases draws : disk.DrawsId origin
  case neg =>
    obtain rfl := (put_of_not_drawsId draws).2 point passes
    exact ⟨grounded, fun _ => rfl, fun drawn => absurd drawn draws, fun _ _ _ _ => rfl⟩
  refine ⟨passes.grounded grounded, fun undrawn => absurd draws undrawn, ?_⟩
  have key := draws.1
  rw [PutPasses, if_pos key] at passes
  rcases cases_of_passes passes with rfl | begun | ⟨complete, written, begun, bytes, part, record⟩
  · exact ⟨fun _ => .inl ⟨fresh, draws.get_new new fresh⟩, fun _ _ _ _ => rfl⟩
  · exact ⟨fun _ => .inl ⟨begun.record_none fresh, begun.get_new key new fresh⟩,
      fun _ _ _ seen => begun.get_other grounded new seen⟩
  · obtain ⟨itemFile, recordFile, answered⟩ := begun.get_recorded key new bound bytes part record
    constructor
    · intro _
      by_cases whole : written = media.record
      · rw [if_pos whole] at answered
        exact .inr (.inr ⟨whole ▸ recordFile, itemFile, rfl, answered⟩)
      · rw [if_neg whole] at answered
        exact .inr (.inl ⟨written, part, whole, recordFile, answered⟩)
    · intro otherOrigin otherId other seen
      rw [← begun.get_other grounded new seen]
      refine get_fst_congr (record.elsewhere (by simp [recordPlace])) (record.elsewhere ?_)
      intro same
      simp only [recordPlace, List.cons.injEq, and_true, String.append_left_inj] at same
      exact other same

/-- A type and a name with the marks that end a text and a record. -/
def bracedItem : Item :=
  ⟨"text/\"plain\"", "\x7d\n\"\x7d\x7b", [0x7D]⟩

theorem bracedItem_all_or_nothing :
    Disk.empty.DrawsId "example.org" ∧ IsNewId "0123456789abcdefghijABCD" ∧
      ∀ point, Disk.empty.PutPasses "example.org" bracedItem "0123456789abcdefghijABCD" point →
        let answer := (point.get "example.org" "0123456789abcdefghijABCD").1
        answer = .ok none ∨ answer = .error .corrupt ∨
          answer = .ok (some (bracedItem.media "example.org" "0123456789abcdefghijABCD")) := by
  have new : IsNewId "0123456789abcdefghijABCD" := ⟨by decide +kernel, by decide +kernel⟩
  have fits : fitsDisk "example.org" := ⟨by decide +kernel, by decide +kernel⟩
  have draws : Disk.empty.DrawsId "example.org" :=
    ⟨by decide +kernel, Disk.makeDirectories_ok fits (by simp [Disk.node?, Disk.empty])⟩
  have small : bracedItem.bytes.length ≤ max64 := by decide
  have fresh : Disk.empty.node? (recordPlace "example.org" "0123456789abcdefghijABCD") = none := rfl
  obtain ⟨_, _, answers⟩ := Disk.put_all_or_nothing Disk.empty_grounded new small fresh
  refine ⟨draws, new, fun point passes => ?_⟩
  rcases (answers point passes).2.2.1 draws with ⟨_, absent⟩ | ⟨_, _, _, _, corrupt⟩ | ⟨_, _, _, stored⟩
  · exact .inl absent
  · exact .inr (.inl corrupt)
  · exact .inr (.inr stored)

end MediaServer
