import MediaServer.Storage.Store
import MediaServer.Proofs.Storage.Disk
import MediaServer.Proofs.Storage.Record

namespace MediaServer

/-- The places whose content a step may change. -/
def DiskStep.places : DiskStep → List DiskPath
  | .makeDirectories _ => []
  | .truncate path => [path]
  | .append path _ => [path]

theorem DiskStep.run_kept {step : DiskStep} {disk new : Disk} (taken : step.run disk = .ok new) :
    disk.KeptIn step.places new := by
  cases step with
  | makeDirectories path => exact Disk.makeDirectories_kept taken
  | truncate path => exact Disk.truncate_kept taken
  | append path bytes =>
    cases taken
    exact disk.append_kept path bytes

theorem DiskStep.runAll_kept (disk : Disk) (steps : List DiskStep) :
    disk.KeptIn (steps.flatMap DiskStep.places) (DiskStep.runAll disk steps).2 := by
  induction steps generalizing disk with
  | nil => exact .refl disk _
  | cons step steps ih =>
    rw [runAll]
    rcases taken : step.run disk with fault | next
    · exact .refl disk _
    · rw [List.flatMap_cons]
      exact ((run_kept taken).mono fun _ => List.mem_append_left _).trans
        ((ih next).mono fun _ => List.mem_append_right _)

theorem DiskStep.runAll_cons_eq_none {disk new : Disk} {step : DiskStep} {steps : List DiskStep}
    (done : DiskStep.runAll disk (step :: steps) = (none, new)) :
    ∃ next, step.run disk = .ok next ∧ DiskStep.runAll next steps = (none, new) := by
  rw [runAll] at done
  rcases taken : step.run disk with fault | next
  · simp [taken] at done
  · exact ⟨next, rfl, by simpa [taken] using done⟩

/-- Storing an item changes no more than its own two files, whether it succeeds or not. -/
theorem Disk.put_kept (disk : Disk) (origin contentType filename : String) (bytes : Bytes)
    (newId : String) :
    disk.KeptIn [itemPlace origin newId, recordPlace origin newId]
      (disk.put origin contentType filename bytes newId).2 := by
  unfold put
  split
  · have kept := DiskStep.runAll_kept disk (StoredMedia.steps
      ⟨origin, newId, contentType, filename, bytes.length, itemPlace origin newId⟩ bytes)
    have within : disk.KeptIn [itemPlace origin newId, recordPlace origin newId]
        (DiskStep.runAll disk (StoredMedia.steps
          ⟨origin, newId, contentType, filename, bytes.length, itemPlace origin newId⟩ bytes)).2 :=
      kept.mono (by simp [StoredMedia.steps, DiskStep.places])
    dsimp only
    split
    · rename_i done
      rwa [done] at within
    · rename_i failed
      rwa [failed] at within
  · exact .refl disk _

/-- What a successful store leaves on the disk: the bytes, and the record beside them. -/
structure Disk.Holds (disk : Disk) (media : StoredMedia) (bytes : Bytes) : Prop where
  item : disk.HasFile (itemPlace media.origin media.mediaId) bytes
  record : disk.HasFile (recordPlace media.origin media.mediaId) media.record

/-- Of two files that are written one after the other, the second does not touch the first. -/
theorem DiskStep.runAll_pair {disk new : Disk} {outer first second : String} {bytes more : Bytes}
    (apart : first ≠ second)
    (done : runAll disk [.makeDirectories [outer], .truncate [outer, first], .append [outer, first] bytes,
      .truncate [outer, second], .append [outer, second] more] = (none, new)) :
    new.HasFile [outer, first] bytes ∧ new.HasFile [outer, second] more := by
  obtain ⟨disk₁, _, done⟩ := runAll_cons_eq_none done
  obtain ⟨disk₂, opened, done⟩ := runAll_cons_eq_none done
  obtain ⟨disk₃, written, done⟩ := runAll_cons_eq_none done
  obtain ⟨disk₄, openedNext, done⟩ := runAll_cons_eq_none done
  obtain ⟨disk₅, writtenNext, done⟩ := runAll_cons_eq_none done
  obtain rfl : disk₂.append [outer, first] bytes = disk₃ := Except.ok.inj written
  obtain rfl : disk₄.append [outer, second] more = disk₅ := Except.ok.inj writtenNext
  obtain rfl : disk₄.append [outer, second] more = new := congrArg Prod.snd done
  have there := (Disk.truncate_hasFile opened).append bytes
  have elsewhere : [outer, first] ∉ [[outer, second]] := by simpa using apart
  have reopened := there.kept (Disk.truncate_kept openedNext) (by simp) elsewhere
  exact ⟨reopened.kept (Disk.append_kept _ _ _) (by simp) elsewhere,
    (Disk.truncate_hasFile openedNext).append more⟩

theorem ne_append_json (name : String) : name ≠ name ++ ".json" := by
  intro same
  have lengths := congrArg String.length same
  rw [String.length_append] at lengths
  exact absurd lengths (by simp)

theorem ne_append_json_of_noDot {id : String} (noDot : '.' ∉ id.toList) (name : String) :
    id ≠ name ++ ".json" := by
  rintro rfl
  rw [String.toList_append, List.mem_append] at noDot
  exact noDot (Or.inr (by decide +kernel))

/-- A store succeeds if its key is valid and all of its steps can be taken. -/
theorem Disk.put_eq_ok_iff {disk new : Disk} {origin contentType filename : String} {bytes : Bytes}
    {newId : String} {media : StoredMedia} :
    disk.put origin contentType filename bytes newId = (.ok media, new) ↔
      media = ⟨origin, newId, contentType, filename, bytes.length, itemPlace origin newId⟩ ∧
        isStoreKey origin = true ∧ DiskStep.runAll disk (media.steps bytes) = (none, new) := by
  unfold put
  dsimp only
  constructor
  · intro stored
    split at stored
    · rename_i key
      split at stored
      · rename_i done
        simp only [Prod.mk.injEq, Except.ok.injEq] at stored
        obtain ⟨rfl, rfl⟩ := stored
        exact ⟨rfl, key, done⟩
      · simp at stored
    · simp at stored
  · rintro ⟨rfl, key, done⟩
    rw [if_pos key, done]

theorem Disk.put_eq_ok {disk new : Disk} {origin contentType filename : String} {bytes : Bytes}
    {newId : String} {media : StoredMedia}
    (stored : disk.put origin contentType filename bytes newId = (.ok media, new)) :
    media = ⟨origin, newId, contentType, filename, bytes.length, itemPlace origin newId⟩ ∧
      isStoreKey origin = true ∧ new.Holds media bytes := by
  obtain ⟨rfl, key, done⟩ := put_eq_ok_iff.mp stored
  obtain ⟨item, record⟩ := DiskStep.runAll_pair (ne_append_json newId) done
  exact ⟨rfl, key, item, record⟩

/-- Looking an item up changes nothing. -/
theorem Disk.get_node? (disk : Disk) (origin mediaId : String) (place : DiskPath) :
    (disk.get origin mediaId).2.node? place = disk.node? place := by
  have kept := disk.read_node? (recordPlace origin mediaId) place
  unfold get
  split
  · rfl
  split
  · rfl
  split
  · rename_i read
    rwa [read] at kept
  · rename_i read
    rwa [read] at kept
  · rename_i read
    rw [read] at kept
    split
    · exact kept
    · exact kept

/-- An item that is there is found as it was stored. -/
theorem Disk.Holds.get {disk : Disk} {media : StoredMedia} {bytes : Bytes} (holds : disk.Holds media bytes)
    (origin : isStoreKey media.origin = true) (mediaId : isStoreKey media.mediaId = true)
    (bound : media.sizeBytes ≤ max64) (place : media.location = itemPlace media.origin media.mediaId) :
    disk.get media.origin media.mediaId =
      (.ok (some media), disk.noteOpened (recordPlace media.origin media.mediaId)) := by
  have read := StoredMedia.read?_record bound (itemPlace media.origin media.mediaId)
  rw [← place] at read
  simp only [Disk.get, origin, mediaId, holds.record.read, ← place, read, Bool.not_true,
    Bool.false_eq_true, if_false]

theorem Disk.Holds.kept {old new : Disk} {places : List DiskPath} {media : StoredMedia} {bytes : Bytes}
    (holds : old.Holds media bytes) (kept : old.KeptIn places new)
    (noDirectory : [media.origin] ∉ places)
    (noItem : itemPlace media.origin media.mediaId ∉ places)
    (noRecord : recordPlace media.origin media.mediaId ∉ places) : new.Holds media bytes :=
  ⟨holds.item.kept kept noDirectory noItem, holds.record.kept kept noDirectory noRecord⟩

end MediaServer
