import MediaServer.Storage.Disk
import MediaServer.Proofs.Lists.Lookup

namespace MediaServer

theorem Disk.node?_of_ne_nil {disk : Disk} {path : DiskPath} (below : path ≠ []) :
    disk.node? path = disk.nodes.lookup path := by
  rw [node?, if_neg (by simpa using below)]

theorem Disk.node?_set {disk : Disk} {place : DiskPath} (below : place ≠ []) (node : DiskNode)
    (path : DiskPath) :
    (disk.set place node).node? path = if path = place then some node else disk.node? path := by
  by_cases root : path = []
  · subst root
    rw [if_neg fun same => below same.symm]
    rfl
  · rw [node?_of_ne_nil root, node?_of_ne_nil root, set, List.lookup_append, lookup_filter_key]
    by_cases here : path = place
    · subst here
      simp
    · simp [here, lookup_cons_if]

/-- Whatever was on the disk is still there as it was, but perhaps at these places. -/
def Disk.KeptIn (old : Disk) (places : List DiskPath) (new : Disk) : Prop :=
  ∀ path node, path ∉ places → old.node? path = some node → new.node? path = some node

theorem Disk.KeptIn.refl (disk : Disk) (places : List DiskPath) : disk.KeptIn places disk :=
  fun _ _ _ there => there

theorem Disk.KeptIn.trans {old middle new : Disk} {places : List DiskPath}
    (first : old.KeptIn places middle) (second : middle.KeptIn places new) : old.KeptIn places new :=
  fun path node other there => second path node other (first path node other there)

theorem Disk.KeptIn.mono {old new : Disk} {places more : List DiskPath} (kept : old.KeptIn places new)
    (within : ∀ path ∈ places, path ∈ more) : old.KeptIn more new :=
  fun path node other there => kept path node (fun member => other (within path member)) there

theorem Disk.set_kept {disk : Disk} {place : DiskPath} (below : place ≠ []) (node : DiskNode) :
    disk.KeptIn [place] (disk.set place node) := by
  intro path old other there
  rw [node?_set below, if_neg (by simpa using other), there]

/-- Making directories changes nothing that is there. -/
theorem Disk.makeInside_kept (disk : Disk) (place : DiskPath) (names : List String) :
    disk.KeptIn [] (disk.makeInside place names).2 := by
  induction names generalizing disk place with
  | nil => exact .refl disk []
  | cons name names ih =>
    rw [makeInside]
    split
    · exact .refl disk []
    · split
      · rename_i absent
        intro path node other there
        have elsewhere : path ≠ place ++ [name] := by
          rintro rfl
          rw [absent] at there
          cases there
        apply ih _ _ path node other
        rw [node?_set (by simp), if_neg elsewhere, there]
      · exact ih disk _
      · exact .refl disk []

theorem Disk.makeDirectories_kept {disk new : Disk} {path : DiskPath}
    (made : disk.makeDirectories path = .ok new) : disk.KeptIn [] new := by
  unfold makeDirectories at made
  split at made
  · cases made
  · have kept := disk.makeInside_kept [] path
    split at made
    · rename_i result
      cases made
      rwa [result] at kept
    · cases made

/-- A name inside a directory is found if both names can be on a disk and the directory is there. -/
theorem Disk.find_pair_eq_ok_iff {disk : Disk} {outer inner : String} {found : Option DiskNode} :
    disk.find [outer, inner] = .ok found ↔
      DiskPath.hasZero [outer, inner] = false ∧ ¬ nameLimit < (Utf8.encode outer).length ∧
        ¬ nameLimit < (Utf8.encode inner).length ∧ disk.node? [outer] = some .directory ∧
        disk.node? [outer, inner] = found := by
  unfold find
  by_cases zero : DiskPath.hasZero [outer, inner] = true
  · simp [zero]
  rw [if_neg zero, follow]
  by_cases long : nameLimit < (Utf8.encode outer).length
  · simp [long]
  simp only [if_neg long, List.isEmpty_cons, Bool.false_eq_true, if_false, List.nil_append]
  rcases there : disk.node? [outer] with _ | (_ | _)
  · simp
  · simp
  · simp only [follow]
    by_cases longer : nameLimit < (Utf8.encode inner).length
    · simp [longer]
    · simp [longer, long, zero]

/-- There is a file with this content at a path. -/
def Disk.HasFile (disk : Disk) (path : DiskPath) (content : Bytes) : Prop :=
  disk.find path = .ok (some (.file content))

theorem Disk.HasFile.kept {old new : Disk} {places : List DiskPath} {outer inner : String}
    {content : Bytes} (there : old.HasFile [outer, inner] content) (kept : old.KeptIn places new)
    (noDirectory : [outer] ∉ places) (other : [outer, inner] ∉ places) :
    new.HasFile [outer, inner] content := by
  obtain ⟨noZero, short, shorter, directory, file⟩ := find_pair_eq_ok_iff.mp there
  exact find_pair_eq_ok_iff.mpr ⟨noZero, short, shorter, kept _ _ noDirectory directory,
    kept _ _ other file⟩

theorem Disk.noteOpened_kept (disk : Disk) (path : DiskPath) : disk.KeptIn [] (disk.noteOpened path) :=
  fun _ _ _ there => there

theorem Disk.truncate_kept {disk new : Disk} {path : DiskPath} (opened : disk.truncate path = .ok new) :
    disk.KeptIn [path] new := by
  unfold truncate at opened
  rcases path with _ | ⟨name, names⟩
  · cases opened
  · split at opened
    · cases opened
    · cases opened
    · cases opened
      exact (set_kept (List.cons_ne_nil _ _) _).trans ((noteOpened_kept _ _).mono (by simp))

/-- A file that was opened anew is empty. -/
theorem Disk.truncate_hasFile {disk new : Disk} {outer inner : String}
    (opened : disk.truncate [outer, inner] = .ok new) : new.HasFile [outer, inner] [] := by
  unfold truncate at opened
  rcases found : disk.find [outer, inner] with fault | node?
  · simp [found] at opened
  · obtain ⟨noZero, short, shorter, directory, _⟩ := find_pair_eq_ok_iff.mp found
    have grown : new = (disk.set [outer, inner] (.file [])).noteOpened [outer, inner] := by
      rw [found] at opened
      rcases node? with _ | (_ | _)
      · cases opened
        rfl
      · cases opened
        rfl
      · cases opened
    subst grown
    refine find_pair_eq_ok_iff.mpr ⟨noZero, short, shorter, ?_, ?_⟩
    · change (disk.set [outer, inner] (.file [])).node? [outer] = _
      rw [node?_set (List.cons_ne_nil _ _), if_neg (by simp), directory]
    · change (disk.set [outer, inner] (.file [])).node? [outer, inner] = _
      rw [node?_set (List.cons_ne_nil _ _), if_pos rfl]

theorem Disk.append_kept (disk : Disk) (path : DiskPath) (bytes : Bytes) :
    disk.KeptIn [path] (disk.append path bytes) := by
  unfold append
  rcases path with _ | ⟨name, names⟩
  · exact .refl disk _
  · split
    · exact set_kept (List.cons_ne_nil _ _) _
    · exact .refl disk _

theorem Disk.HasFile.append {disk : Disk} {outer inner : String} {content : Bytes}
    (there : disk.HasFile [outer, inner] content) (bytes : Bytes) :
    (disk.append [outer, inner] bytes).HasFile [outer, inner] (content ++ bytes) := by
  obtain ⟨noZero, short, shorter, directory, file⟩ := find_pair_eq_ok_iff.mp there
  unfold Disk.append
  rw [file]
  refine find_pair_eq_ok_iff.mpr ⟨noZero, short, shorter, ?_, ?_⟩
  · rw [node?_set (List.cons_ne_nil _ _), if_neg (by simp), directory]
  · rw [node?_set (List.cons_ne_nil _ _), if_pos rfl]

theorem Disk.HasFile.read {disk : Disk} {path : DiskPath} {content : Bytes}
    (there : disk.HasFile path content) : disk.read path = (.ok content, disk.noteOpened path) := by
  unfold Disk.read
  rw [there]

theorem Disk.HasFile.open {disk : Disk} {path : DiskPath} {content : Bytes}
    (there : disk.HasFile path content) : disk.open path = (.ok (.file content), disk.noteOpened path) := by
  unfold Disk.open
  rw [there]

/-- Reading changes nothing. -/
theorem Disk.read_node? (disk : Disk) (path place : DiskPath) :
    (disk.read path).2.node? place = disk.node? place := by
  unfold read
  split <;> rfl

/-- Opening changes nothing either. -/
theorem Disk.open_node? (disk : Disk) (path place : DiskPath) :
    (disk.open path).2.node? place = disk.node? place := by
  unfold Disk.open
  split <;> rfl

end MediaServer
