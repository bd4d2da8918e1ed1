import MediaServer.Proofs.Storage.Store

namespace MediaServer

/-- A name that can stand on a disk. -/
def fitsDisk (name : String) : Prop :=
  '\x00' ∉ name.toList ∧ (Utf8.encode name).length ≤ nameLimit

/-- One disk is the other but for what is at one place. -/
def Disk.Becomes (old : Disk) (place : DiskPath) (node : DiskNode) (new : Disk) : Prop :=
  ∀ path, new.node? path = if path = place then some node else old.node? path

section Steps

variable {old middle new : Disk} {place : DiskPath} {node again : DiskNode}

theorem Disk.Becomes.here (becomes : old.Becomes place node new) : new.node? place = some node := by
  rw [becomes, if_pos rfl]

theorem Disk.Becomes.elsewhere (becomes : old.Becomes place node new) {path : DiskPath} (other : path ≠ place) :
    new.node? path = old.node? path := by
  rw [becomes, if_neg other]

theorem Disk.Becomes.trans (first : old.Becomes place node middle) (second : middle.Becomes place again new) :
    old.Becomes place again new := by
  intro path
  rw [second]
  split
  · rfl
  · rename_i other
    exact first.elsewhere other

theorem Disk.set_becomes (disk : Disk) {place : DiskPath} (below : place ≠ []) (node : DiskNode) :
    disk.Becomes place node (disk.set place node) :=
  node?_set below node

/-- Making a directory at the root leaves one there. -/
theorem Disk.makeDirectories_becomes {name : String} (made : old.makeDirectories [name] = .ok new) :
    old.Becomes [name] .directory new := by
  unfold makeDirectories at made
  split at made
  · cases made
  · rw [makeInside] at made
    by_cases long : nameLimit < (Utf8.encode name).length
    · simp [long] at made
    · rw [if_neg long, List.nil_append] at made
      rcases there : old.node? [name] with _ | (_ | _)
      · simp only [there, makeInside, Except.ok.injEq] at made
        rw [← made]
        exact old.set_becomes (List.cons_ne_nil _ _) _
      · simp [there] at made
      · simp only [there, makeInside, Except.ok.injEq] at made
        subst made
        intro path
        split
        · rename_i same
          rw [same, there]
        · rfl

theorem Disk.truncate_becomes (below : place ≠ []) (opened : old.truncate place = .ok new) :
    old.Becomes place (.file []) new := by
  unfold truncate at opened
  split at opened
  · cases opened
  · cases opened
  · cases opened
    exact old.set_becomes below _

theorem Disk.append_becomes {content : Bytes} (below : place ≠ [])
    (there : old.node? place = some (.file content)) (bytes : Bytes) :
    old.Becomes place (.file (content ++ bytes)) (old.append place bytes) := by
  unfold append
  rw [there]
  exact old.set_becomes below _

/-- A file that is opened anew and written to holds what was written. -/
theorem Disk.write_becomes (below : place ≠ []) (opened : old.truncate place = .ok middle) (bytes : Bytes) :
    old.Becomes place (.file bytes) (middle.append place bytes) := by
  have anew := truncate_becomes below opened
  exact anew.trans (append_becomes below anew.here bytes)

variable {outer inner : String}

theorem Disk.makeDirectories_ok (fits : fitsDisk outer)
    (noFile : ∀ content, old.node? [outer] ≠ some (.file content)) :
    ∃ new, old.makeDirectories [outer] = .ok new := by
  have zero : ¬ DiskPath.hasZero [outer] = true := by simpa [DiskPath.hasZero] using fits.1
  have short : ¬ nameLimit < (Utf8.encode outer).length := Nat.not_lt.mpr fits.2
  rw [makeDirectories, if_neg zero, makeInside, if_neg short, List.nil_append]
  rcases there : old.node? [outer] with _ | (content | _)
  · exact ⟨_, rfl⟩
  · exact absurd there (noFile content)
  · exact ⟨_, rfl⟩

theorem Disk.truncate_ok (fits : fitsDisk outer) (fitsInner : fitsDisk inner)
    (directory : old.node? [outer] = some .directory)
    (noDirectory : old.node? [outer, inner] ≠ some .directory) :
    ∃ new, old.truncate [outer, inner] = .ok new := by
  have zero : DiskPath.hasZero [outer, inner] = false := by
    simpa [DiskPath.hasZero] using And.intro fits.1 fitsInner.1
  have found : old.find [outer, inner] = .ok (old.node? [outer, inner]) :=
    find_pair_eq_ok_iff.mpr ⟨zero, Nat.not_lt.mpr fits.2, Nat.not_lt.mpr fitsInner.2, directory, rfl⟩
  rw [truncate, found]
  rcases there : old.node? [outer, inner] with _ | (_ | _)
  · exact ⟨_, rfl⟩
  · exact ⟨_, rfl⟩
  · exact absurd there noDirectory

end Steps

section Put

variable {disk new : Disk} {origin contentType filename newId : String} {bytes : Bytes} {media : StoredMedia}

theorem Disk.put_of_key (disk : Disk) (contentType filename : String) (bytes : Bytes) (newId : String)
    (key : isStoreKey origin = true) :
    (∃ media new, disk.put origin contentType filename bytes newId = (.ok media, new)) ∨
      ∃ fault new, disk.put origin contentType filename bytes newId = (.error (.disk fault), new) := by
  unfold put
  rw [if_pos key]
  dsimp only
  split
  · exact Or.inl ⟨_, _, rfl⟩
  · exact Or.inr ⟨_, _, rfl⟩

/-- What a store that succeeds makes of the disk: a directory, a file for the bytes and one for the record. -/
theorem Disk.put_becomes (stored : disk.put origin contentType filename bytes newId = (.ok media, new)) :
    ∃ opened written, disk.Becomes [origin] .directory opened ∧
      opened.Becomes (itemPlace origin newId) (.file bytes) written ∧
      written.Becomes (recordPlace origin newId) (.file media.record) new := by
  obtain ⟨rfl, _, done⟩ := put_eq_ok_iff.mp stored
  obtain ⟨disk₁, made, done⟩ := DiskStep.runAll_cons_eq_none done
  obtain ⟨disk₂, opened, done⟩ := DiskStep.runAll_cons_eq_none done
  obtain ⟨disk₃, written, done⟩ := DiskStep.runAll_cons_eq_none done
  obtain ⟨disk₄, openedNext, done⟩ := DiskStep.runAll_cons_eq_none done
  obtain ⟨disk₅, writtenNext, done⟩ := DiskStep.runAll_cons_eq_none done
  obtain rfl := Except.ok.inj written
  obtain rfl := Except.ok.inj writtenNext
  obtain rfl := congrArg Prod.snd done
  exact ⟨_, _, makeDirectories_becomes made, write_becomes (List.cons_ne_nil _ _) opened _,
    write_becomes (List.cons_ne_nil _ _) openedNext _⟩

/-- A store succeeds if its names can stand on the disk and nothing else has their places. -/
theorem Disk.put_ok (key : isStoreKey origin = true) (fits : fitsDisk origin) (fitsItem : fitsDisk newId)
    (fitsRecord : fitsDisk (newId ++ ".json")) (noFile : ∀ content, disk.node? [origin] ≠ some (.file content))
    (noItem : disk.node? (itemPlace origin newId) ≠ some .directory)
    (noRecord : disk.node? (recordPlace origin newId) ≠ some .directory) :
    ∃ media new, disk.put origin contentType filename bytes newId = (.ok media, new) := by
  obtain ⟨disk₁, made⟩ := makeDirectories_ok fits noFile
  have outer := makeDirectories_becomes made
  have itemFree : disk₁.node? (itemPlace origin newId) ≠ some .directory := by
    rwa [outer.elsewhere (by simp [itemPlace])]
  obtain ⟨disk₂, opened⟩ := truncate_ok fits fitsItem outer.here itemFree
  have written := write_becomes (List.cons_ne_nil _ _) opened bytes
  have directory : (disk₂.append [origin, newId] bytes).node? [origin] = some .directory := by
    rw [written.elsewhere (by simp), outer.here]
  have recordFree :
      (disk₂.append [origin, newId] bytes).node? [origin, newId ++ ".json"] ≠ some .directory := by
    rw [written.elsewhere (by simp), outer.elsewhere (by simp)]
    exact noRecord
  obtain ⟨disk₃, openedNext⟩ := truncate_ok fits fitsRecord directory recordFree
  let media : StoredMedia := ⟨origin, newId, contentType, filename, bytes.length, itemPlace origin newId⟩
  have done : DiskStep.runAll disk (media.steps bytes) =
      (none, disk₃.append (recordPlace origin newId) media.record) := by
    simp only [StoredMedia.steps, DiskStep.runAll, DiskStep.run, media, itemPlace, recordPlace, made, opened,
      openedNext]
  exact ⟨media, _, put_eq_ok_iff.mpr ⟨rfl, key, done⟩⟩

end Put

/-- A step inside the directory of an origin. -/
def DiskStep.Inside (origin : String) : DiskStep → Prop
  | .makeDirectories path => path = [origin]
  | .truncate path => ∃ name, path = [origin, name]
  | .append path _ => ∃ name, path = [origin, name]

section Elsewhere

variable {disk new : Disk} {origin : String} {path : DiskPath} (other : path.head? ≠ some origin)

include other

theorem DiskStep.run_elsewhere {step : DiskStep} (inside : step.Inside origin)
    (taken : step.run disk = .ok new) : new.node? path = disk.node? path := by
  cases step with
  | makeDirectories place =>
    obtain rfl := inside
    apply (Disk.makeDirectories_becomes taken).elsewhere
    rintro rfl
    exact other rfl
  | truncate place =>
    obtain ⟨name, rfl⟩ := inside
    apply (Disk.truncate_becomes (List.cons_ne_nil _ _) taken).elsewhere
    rintro rfl
    exact other rfl
  | append place bytes =>
    obtain ⟨name, rfl⟩ := inside
    cases taken
    unfold Disk.append
    split
    · apply (disk.set_becomes (List.cons_ne_nil _ _) _).elsewhere
      rintro rfl
      exact other rfl
    · rfl

theorem DiskStep.runAll_elsewhere {steps : List DiskStep} (inside : ∀ step ∈ steps, step.Inside origin) :
    (runAll disk steps).2.node? path = disk.node? path := by
  induction steps generalizing disk with
  | nil => rfl
  | cons step steps ih =>
    have ⟨here, later⟩ := List.forall_mem_cons.mp inside
    rw [runAll]
    rcases taken : step.run disk with fault | next
    · rfl
    · exact (ih later).trans (run_elsewhere other here taken)

/-- Storing an item changes nothing outside the directory of its origin, whether it succeeds or not. -/
theorem Disk.put_elsewhere (contentType filename : String) (bytes : Bytes) (newId : String) :
    (disk.put origin contentType filename bytes newId).2.node? path = disk.node? path := by
  have inside : ∀ step ∈ StoredMedia.steps
      ⟨origin, newId, contentType, filename, bytes.length, itemPlace origin newId⟩ bytes,
      step.Inside origin := by
    simp [StoredMedia.steps, DiskStep.Inside, itemPlace, recordPlace]
  have kept := @DiskStep.runAll_elsewhere disk origin path other _ inside
  unfold put
  split
  · dsimp only
    split
    · rename_i done
      rwa [done] at kept
    · rename_i failed
      rwa [failed] at kept
  · rfl

end Elsewhere

/-- What is found at a place inside a directory depends on the two places on the way alone. -/
theorem Disk.find_pair_congr {disk new : Disk} {outer inner : String}
    (directory : new.node? [outer] = disk.node? [outer])
    (same : new.node? [outer, inner] = disk.node? [outer, inner]) :
    new.find [outer, inner] = disk.find [outer, inner] := by
  have within : [outer] ++ [inner] = [outer, inner] := rfl
  simp only [find, follow, List.nil_append, List.isEmpty_cons, List.isEmpty_nil, within, directory, same]

theorem Disk.read_fst (disk : Disk) (path : DiskPath) :
    (disk.read path).1 = match disk.find path with
      | .error fault => .error fault
      | .ok none => .error .notFound
      | .ok (some .directory) => .error .isDirectory
      | .ok (some (.file content)) => .ok content := by
  unfold read
  split <;> simp_all

/-- A file that is missing is not found, or its names cannot stand on a disk. -/
theorem Disk.read_missing {disk : Disk} {outer inner : String}
    (noFile : ∀ content, disk.node? [outer] ≠ some (.file content))
    (missing : disk.node? [outer, inner] = none) :
    (disk.read [outer, inner]).1 = .error .notFound ∨
      ¬ (fitsDisk outer ∧ fitsDisk inner) ∧ ∃ fault, (disk.read [outer, inner]).1 = .error fault := by
  rw [read_fst, find]
  by_cases zero : DiskPath.hasZero [outer, inner] = true
  · rw [if_pos zero]
    refine Or.inr ⟨fun ⟨fits, fitsInner⟩ => ?_, _, rfl⟩
    simp [DiskPath.hasZero, fits.1, fitsInner.1] at zero
  rw [if_neg zero, follow]
  by_cases long : nameLimit < (Utf8.encode outer).length
  · rw [if_pos long]
    exact Or.inr ⟨fun fits => Nat.not_lt.mpr fits.1.2 long, _, rfl⟩
  rw [if_neg long]
  rcases there : disk.node? [outer] with _ | (content | _)
  · simp [there]
  · exact absurd there (noFile content)
  · by_cases longer : nameLimit < (Utf8.encode inner).length
    · simp only [List.nil_append, there, follow, if_pos longer, List.isEmpty_cons, Bool.false_eq_true, if_false]
      exact Or.inr ⟨fun fits => Nat.not_lt.mpr fits.2.2 longer, _, rfl⟩
    · simp [there, follow, longer, missing]

/-- The answer of a lookup with valid keys. -/
theorem Disk.get_fst {disk : Disk} {origin mediaId : String} (key : isStoreKey origin = true)
    (idKey : isStoreKey mediaId = true) :
    (disk.get origin mediaId).1 = match (disk.read (recordPlace origin mediaId)).1 with
      | .error .notFound => .ok none
      | .error fault => .error (.disk fault)
      | .ok record => match StoredMedia.read? (itemPlace origin mediaId) record with
        | none => .error .corrupt
        | some media => .ok (some media) := by
  simp only [get, key, idKey, Bool.not_true, Bool.false_eq_true, if_false]
  rcases disk.read (recordPlace origin mediaId) with ⟨fault | record, later⟩
  · cases fault <;> rfl
  · dsimp only
    cases StoredMedia.read? (itemPlace origin mediaId) record <;> rfl

theorem Disk.get_fst_congr {disk new : Disk} {origin mediaId : String}
    (directory : new.node? [origin] = disk.node? [origin])
    (record : new.node? (recordPlace origin mediaId) = disk.node? (recordPlace origin mediaId)) :
    (new.get origin mediaId).1 = (disk.get origin mediaId).1 := by
  by_cases key : isStoreKey origin = true
  · by_cases idKey : isStoreKey mediaId = true
    · rw [get_fst key idKey, get_fst key idKey, read_fst, read_fst, recordPlace,
        find_pair_congr directory record]
    · simp [get, key, idKey]
  · simp [get, key]

end MediaServer
