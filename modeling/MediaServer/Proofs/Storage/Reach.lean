import MediaServer.Proofs.Storage.Writes

namespace MediaServer

/-- One disk comes from the other by opening some of these files, perhaps writing to them, and by making
some of these directories. What was opened has a path that a disk can have. -/
structure Disk.Reaches (old : Disk) (files directories : DiskPath → Prop) (new : Disk) : Prop where
  opened : ∃ paths, new.opened = old.opened ++ paths ∧
    ∀ path ∈ paths, files path ∧ DiskPath.hasZero path = false
  changed : ∀ path, new.node? path = old.node? path ∨ files path ∨
    directories path ∧ old.node? path = none ∧ new.node? path = some .directory

section Reaches

variable {old middle new disk : Disk} {files directories moreFiles moreDirectories : DiskPath → Prop}
  {path : DiskPath}

theorem Disk.Reaches.refl (disk : Disk) : disk.Reaches files directories disk where
  opened := ⟨[], (List.append_nil _).symm, by simp⟩
  changed _ := Or.inl rfl

theorem Disk.Reaches.trans (first : old.Reaches files directories middle)
    (second : middle.Reaches files directories new) : old.Reaches files directories new where
  opened := by
    obtain ⟨paths, grown, allowed⟩ := first.opened
    obtain ⟨more, grownMore, allowedMore⟩ := second.opened
    refine ⟨paths ++ more, by rw [grownMore, grown, List.append_assoc], ?_⟩
    rw [List.forall_mem_append]
    exact ⟨allowed, allowedMore⟩
  changed path := by
    rcases second.changed path with same | file | ⟨directory, absent, made⟩
    · rw [same]
      exact first.changed path
    · exact Or.inr (Or.inl file)
    · rcases first.changed path with same | file | ⟨_, _, there⟩
      · exact Or.inr (Or.inr ⟨directory, same.symm.trans absent, made⟩)
      · exact Or.inr (Or.inl file)
      · rw [absent] at there
        cases there

theorem Disk.Reaches.mono (reaches : old.Reaches files directories new)
    (within : ∀ path, files path → moreFiles path)
    (withinDirectories : ∀ path, directories path → moreDirectories path) :
    old.Reaches moreFiles moreDirectories new where
  opened := by
    obtain ⟨paths, grown, allowed⟩ := reaches.opened
    exact ⟨paths, grown, fun path member => ⟨within path (allowed path member).1, (allowed path member).2⟩⟩
  changed path := by
    rcases reaches.changed path with same | file | ⟨directory, made⟩
    · exact Or.inl same
    · exact Or.inr (Or.inl (within path file))
    · exact Or.inr (Or.inr ⟨withinDirectories path directory, made⟩)

/-- What is found has a path that a disk can have. -/
theorem Disk.hasZero_of_find {node? : Option DiskNode} (found : disk.find path = .ok node?) :
    DiskPath.hasZero path = false := by
  unfold find at found
  split at found
  · cases found
  · rename_i noZero
    exact Bool.not_eq_true _ ▸ noZero

theorem Disk.noteOpened_reaches (file : files path) {node? : Option DiskNode}
    (found : disk.find path = .ok node?) : disk.Reaches files directories (disk.noteOpened path) where
  opened := ⟨[path], rfl, by simpa using ⟨file, hasZero_of_find found⟩⟩
  changed _ := Or.inl rfl

theorem Disk.read_reaches (file : files path) : disk.Reaches files directories (disk.read path).2 := by
  unfold read
  split
  · exact .refl disk
  · exact .refl disk
  · rename_i found
    exact noteOpened_reaches file found
  · rename_i found
    exact noteOpened_reaches file found

theorem Disk.open_reaches (file : files path) : disk.Reaches files directories (disk.open path).2 := by
  unfold Disk.open
  split
  · exact .refl disk
  · exact .refl disk
  · rename_i found
    exact noteOpened_reaches file found

/-- Making a directory at the root opens nothing. -/
theorem Disk.makeDirectories_reaches {name : String} (directory : directories [name])
    (made : old.makeDirectories [name] = .ok new) : old.Reaches files directories new := by
  unfold makeDirectories at made
  split at made
  · cases made
  rw [makeInside] at made
  by_cases long : nameLimit < (Utf8.encode name).length
  · simp [long] at made
  rw [if_neg long, List.nil_append] at made
  rcases there : old.node? [name] with _ | (_ | _)
  · simp only [there, makeInside, Except.ok.injEq] at made
    subst made
    refine ⟨⟨[], (List.append_nil _).symm, by simp⟩, fun path => ?_⟩
    rw [node?_set (List.cons_ne_nil _ _)]
    by_cases here : path = [name]
    · subst here
      exact Or.inr (Or.inr ⟨directory, there, if_pos rfl⟩)
    · exact Or.inl (if_neg here)
  · simp [there] at made
  · simp only [there, makeInside, Except.ok.injEq] at made
    subst made
    exact .refl old

theorem Disk.truncate_reaches (file : files path) (opened : old.truncate path = .ok new) :
    old.Reaches files directories new := by
  have below : path ≠ [] := by
    rintro rfl
    cases opened
  have becomes := truncate_becomes below opened
  unfold truncate at opened
  split at opened
  · cases opened
  · cases opened
  · rename_i found
    cases opened
    refine ⟨⟨[path], rfl, by simpa using ⟨file, hasZero_of_find found⟩⟩, fun other => ?_⟩
    by_cases here : other = path
    · exact Or.inr (Or.inl (here ▸ file))
    · exact Or.inl (becomes.elsewhere here)

/-- What is appended goes to a file that is there already. -/
theorem Disk.append_reaches (file : files path) (bytes : Bytes) :
    disk.Reaches files directories (disk.append path bytes) := by
  unfold append
  split
  · rename_i there
    have below : path ≠ [] := by
      rintro rfl
      cases there
    refine ⟨⟨[], (List.append_nil _).symm, by simp⟩, fun other => ?_⟩
    by_cases here : other = path
    · exact Or.inr (Or.inl (here ▸ file))
    · exact Or.inl ((disk.set_becomes below _).elsewhere here)
  · exact .refl disk

/-- A step that opens and writes none but these files, and makes none but these directories. -/
def DiskStep.Within (files directories : DiskPath → Prop) : DiskStep → Prop
  | .makeDirectories path => ∃ name, path = [name] ∧ directories path
  | .truncate path => files path
  | .append path _ => files path

theorem DiskStep.run_reaches {step : DiskStep} (within : step.Within files directories)
    (taken : step.run old = .ok new) : old.Reaches files directories new := by
  cases step with
  | makeDirectories path =>
    obtain ⟨name, rfl, directory⟩ := within
    exact Disk.makeDirectories_reaches directory taken
  | truncate path => exact Disk.truncate_reaches within taken
  | append path bytes =>
    cases taken
    exact Disk.append_reaches within bytes

theorem DiskStep.runAll_reaches {steps : List DiskStep}
    (within : ∀ step ∈ steps, step.Within files directories) :
    disk.Reaches files directories (runAll disk steps).2 := by
  induction steps generalizing disk with
  | nil => exact .refl disk
  | cons step steps ih =>
    have ⟨here, later⟩ := List.forall_mem_cons.mp within
    rw [runAll]
    rcases taken : step.run disk with fault | next
    · exact .refl disk
    · exact (run_reaches here taken).trans (ih later)

end Reaches

/-- The files of an item, its bytes and its record, if its origin is a key. -/
def ItemFile (origin mediaId : String) (path : DiskPath) : Prop :=
  isStoreKey origin = true ∧ (path = itemPlace origin mediaId ∨ path = recordPlace origin mediaId)

/-- The directory of an origin, if it is a key. -/
def OriginDirectory (origin : String) (path : DiskPath) : Prop :=
  isStoreKey origin = true ∧ path = [origin]

variable {disk : Disk} {origin mediaId : String}

/-- Storing an item reaches its two files and the directory of its origin, whether it succeeds or not. -/
theorem Disk.put_reaches (contentType filename : String) (bytes : Bytes) (newId : String) :
    disk.Reaches (ItemFile origin newId) (OriginDirectory origin)
      (disk.put origin contentType filename bytes newId).2 := by
  unfold put
  split
  · rename_i key
    have within : ∀ step ∈ StoredMedia.steps
        ⟨origin, newId, contentType, filename, bytes.length, itemPlace origin newId⟩ bytes,
        step.Within (ItemFile origin newId) (OriginDirectory origin) := by
      simp [StoredMedia.steps, DiskStep.Within, ItemFile, OriginDirectory, key]
    have reaches := @DiskStep.runAll_reaches disk _ _ _ within
    dsimp only
    split
    · rename_i done
      rwa [done] at reaches
    · rename_i failed
      rwa [failed] at reaches
  · exact .refl disk

/-- Looking an item up reaches no more than its record. -/
theorem Disk.get_reaches {directories : DiskPath → Prop} :
    disk.Reaches (ItemFile origin mediaId) directories (disk.get origin mediaId).2 := by
  unfold get
  split
  · exact .refl disk
  split
  · exact .refl disk
  · rename_i key _
    have reaches := @read_reaches disk (ItemFile origin mediaId) directories (recordPlace origin mediaId)
      ⟨by simpa using key, Or.inr rfl⟩
    split
    · rename_i read
      rwa [read] at reaches
    · rename_i read
      rwa [read] at reaches
    · rename_i read
      rw [read] at reaches
      split
      · exact reaches
      · exact reaches

/-- Whatever its record says, an item that is found lies at the place of its keys. -/
theorem Disk.get_location {media : StoredMedia} (got : (disk.get origin mediaId).1 = .ok (some media)) :
    ItemFile origin mediaId media.location := by
  unfold get at got
  split at got
  · cases got
  split at got
  · cases got
  rename_i key _
  split at got
  · cases got
  · cases got
  split at got
  · cases got
  · rename_i found
    cases got
    exact ⟨by simpa using key, Or.inl (StoredMedia.read?_location found)⟩

end MediaServer
