/-
Writing within a directory. A file in a directory of a directory is written at the
place that the names say, and what lies elsewhere is as before: the same files, the
same directories (`differsWithin_of_openFile`). A tree stays a tree
(`isTree_of_openFile`).

Writing the same bytes once more changes nothing at all (`writeText_again`): the
directories are there, the file is found where it was put, and it holds them.
-/
import MockApi.Proofs.Disk.Tree
import MockApi.Proofs.Disk.Written
import MockApi.Proofs.Document

namespace MockApi.Disk

variable {disk made other : Disk} {path root : FilePath} {location directory place : Location}
  {name : Text} {bytes : Bytes}

-- ================================================================ vocabulary

/-- The disks differ within a place only. -/
structure DiffersWithin (disk other : Disk) (place : Location) : Prop where
  files : ∀ location, ¬place <+: location → other.file? location = disk.file? location
  directories : ∀ location, ¬place <+: location →
    other.isDirectoryAt location = disk.isDirectoryAt location
  closed : other.closed = disk.closed

/-- Changes within a place add up to one. -/
theorem DiffersWithin.trans {third : Disk} (h : disk.DiffersWithin other place)
    (h' : other.DiffersWithin third place) : disk.DiffersWithin third place where
  files location hnot := (h'.files location hnot).trans (h.files location hnot)
  directories location hnot := (h'.directories location hnot).trans (h.directories location hnot)
  closed := h'.closed.trans h.closed

/-- What changes within a place changes within all that are above it. -/
theorem DiffersWithin.mono {front : Location} (h : disk.DiffersWithin other place)
    (hfront : front <+: place) : disk.DiffersWithin other front where
  files location hnot := h.files location fun hplace => hnot (hfront.trans hplace)
  directories location hnot := h.directories location fun hplace => hnot (hfront.trans hplace)
  closed := h.closed

-- ========================================================= what is put there

/-- A file that is put in a directory is within it. -/
theorem differsWithin_put (hdirectory : disk.isDirectoryAt directory = true) :
    disk.DiffersWithin (disk.put (directory ++ [name]) bytes) (directory ++ [name]) where
  files location hnot := by
    apply file?_put_of_ne
    rintro rfl
    exact hnot (List.prefix_refl _)
  directories front _ := by
    rw [Bool.eq_iff_iff, isDirectoryAt_put_iff, List.dropLast_concat]
    exact or_iff_left_of_imp fun hfront => isDirectoryAt_of_isPrefix hfront hdirectory
  closed := (directories_put ..).2.2

/-- A tree stays a tree when a file is put in one of its directories, where none is. -/
theorem IsTree.put (tree : disk.IsTree) (hdirectory : disk.isDirectoryAt directory = true)
    (hunused : disk.isDirectoryAt (directory ++ [name]) = false)
    (hnames : ∀ part ∈ directory ++ [name], FileName.IsName part) :
    (disk.put (directory ++ [name]) bytes).IsTree := by
  -- the files are the earlier ones and this one
  have hmem : ∀ file ∈ (disk.put (directory ++ [name]) bytes).files.map (·.1),
      file = directory ++ [name] ∨ file ∈ disk.files.map (·.1) := by
    intro file hfile
    rw [names_put] at hfile
    split at hfile
    · exact .inr hfile
    · rw [List.mem_append, List.mem_singleton] at hfile
      exact hfile.symm
  refine ⟨?_, fun file hfile => ?_, fun file hfile => ?_⟩
  · rw [names_put]
    split
    · exact tree.nodup
    · next hnew =>
      rw [List.nodup_append_comm, List.singleton_append, List.nodup_cons]
      exact ⟨hnew, tree.nodup⟩
  -- the directories are the earlier ones and those above the file, none of which is a file
  · have hopen : disk.isDirectoryAt file = false := by
      rcases hmem file hfile with rfl | hold
      · exact hunused
      · exact tree.apart file hold
    rw [← Bool.not_eq_true, isDirectoryAt_put_iff, List.dropLast_concat, hopen]
    rintro (hfront | hfront)
    · cases hfront
    · rw [isDirectoryAt_of_isPrefix hfront hdirectory] at hopen
      cases hopen
  · rcases hmem file hfile with rfl | hold
    · exact hnames
    · exact tree.named file hold

/-- A file that was written has the bytes that were written. -/
theorem eq_of_mem_put {entry : Location × Bytes} (h : entry ∈ (disk.put location bytes).files)
    (hname : entry.1 = location) : entry = (location, bytes) := by
  unfold put at h
  split at h
  · obtain ⟨old, -, rfl⟩ := List.mem_map.1 h
    by_cases hold : old.1 = location
    · simp [hold]
    · simp [hold] at hname
  · next hnone =>
    rcases List.mem_append.1 h with hmem | hmem
    · refine absurd (List.any_eq_true.2 ⟨entry, hmem, ?_⟩) hnone
      exact beq_iff_eq.2 hname
    · exact List.mem_singleton.1 hmem

/-- Bytes that stand at a place are put there in vain. -/
theorem put_eq_self (hthere : (disk.file? location).isSome = true)
    (hall : ∀ entry ∈ disk.files, entry.1 = location → entry = (location, bytes)) :
    disk.put location bytes = disk := by
  have hany : disk.files.any (fun entry => entry.1 == location) = true := by
    obtain ⟨entry, hentry, hname⟩ := List.mem_map.1 (file?_isSome_iff.1 hthere)
    exact List.any_eq_true.2 ⟨entry, hentry, beq_iff_eq.2 hname⟩
  have hmap : disk.files.map (fun entry =>
      if entry.1 == location then (location, bytes) else entry) = disk.files := by
    conv_rhs => rw [← List.map_id disk.files]
    apply List.map_congr_left
    intro entry hentry
    split
    · next hname => exact (hall entry hentry (eq_of_beq hname)).symm
    · rfl
  unfold put
  rw [if_pos hany, hmap]

/-- To write a file twice is to write it once. -/
theorem put_put_self (disk : Disk) (location : Location) (bytes : Bytes) :
    (disk.put location bytes).put location bytes = disk.put location bytes := by
  apply put_eq_self
  · rw [file?_put_self]
    rfl
  · intro entry hentry hname
    exact eq_of_mem_put hentry hname

-- ======================================================== a file in a directory

/-- Following a name from the place of a path leads behind the place, which is a
directory. -/
theorem place_of_steps_child (hname : FileName.IsName name) {text text' : Text}
    (hroot : root.parts.foldlM (disk.step text) (disk.start (root.anchor != .relative))
      = .ok directory)
    (hsteps : (root.child name).parts.foldlM (disk.step text')
      (disk.start ((root.child name).anchor != .relative)) = .ok place) :
    place = directory ++ [name] ∧ disk.isDirectoryAt directory = true
      ∧ (disk.file? directory).isSome = false := by
  rw [FilePath.child_of_isPart hname.isPart] at hsteps
  change (root.parts ++ [name]).foldlM (disk.step text') (disk.start (root.anchor != .relative))
    = .ok place at hsteps
  rw [List.foldlM_append, steps_of_text hroot] at hsteps
  change [name].foldlM (disk.step text') directory = .ok place at hsteps
  rw [List.foldlM_cons] at hsteps
  obtain ⟨next, hnext, hend⟩ := bind_eq_ok.1 hsteps
  obtain rfl : next = place := Except.ok.inj hend
  obtain ⟨hfree, hdirectory, hbehind⟩ := step_eq_ok.1 hnext
  rw [behind?_of_isPart hname.isPart hbehind, hname.fixed]
  exact ⟨rfl, hdirectory, hfree⟩

theorem steps_of_locate (h : disk.locate path = .ok place) :
    path.parts.foldlM (disk.step path.text) (disk.start (path.anchor != .relative)) = .ok place := by
  obtain ⟨_, -, hsteps⟩ := bind_eq_ok.1 h
  exact hsteps

/-- Making a directory adds that directory, or nothing. -/
theorem made_of_ensureDirectory (hname : FileName.IsName name)
    (hroot : disk.locate root = .ok directory) (hdirectory : disk.isDirectoryAt directory = true)
    (h : disk.ensureDirectory (root.child name) = .ok made) :
    made = disk ∨ made = { disk with directories := disk.directories ++ [directory ++ [name]] } := by
  -- making the directory adds it where the name leads
  have hmade : ∀ {made}, disk.makeDirectory (root.child name) = .ok made →
      made = { disk with directories := disk.directories ++ [directory ++ [name]] } := by
    intro made hmake
    obtain ⟨location, hlocate, hmake⟩ := bind_eq_ok.1 hmake
    obtain ⟨rfl, -⟩ :=
      place_of_steps_child hname (steps_of_locate hroot) (steps_of_locate hlocate)
    split at hmake
    · cases hmake
    · exact (Except.ok.inj hmake).symm
  -- its parent is there and is left as it is
  have habove : ∀ {above}, disk.ensureDirectory (root.child name).parent = .ok above →
      above = disk := by
    intro above habove
    rw [FilePath.parent_child_of_isPart hname.isPart] at habove
    exact eq_of_ensureDirectory (steps_of_locate hroot) hdirectory habove
  unfold ensureDirectory at h
  split at h
  · next there hmake =>
    obtain rfl := Except.ok.inj h
    exact .inr (hmade hmake)
  · split at h
    · cases h
    · obtain ⟨above, hensure, hmake⟩ := bind_eq_ok.1 h
      rw [habove hensure] at hmake
      split at hmake
      · exact .inl (Except.ok.inj hmake).symm
      · exact .inr (hmade hmake)
  · split at h
    · exact .inl (Except.ok.inj h).symm
    · cases h

/-- To open a file is to have its directory made. -/
theorem ensureDirectory_of_openFile (h : disk.openFile path = .ok (location, made)) :
    disk.ensureDirectory path.parent = .ok made := by
  obtain ⟨there, hthere, hfile⟩ := bind_eq_ok.1 h
  obtain ⟨found, hfound, -⟩ := bind_eq_ok.1 hfile
  rw [openFile_of_ok hthere hfound] at h
  split at h
  · cases h
  · split at h
    · cases h
    · rw [← (Prod.mk.inj (Except.ok.inj h)).2]
      exact hthere

section Child

variable {above : Text} (habove : FileName.IsName above) (hname : FileName.IsName name)
  (hroot : disk.locate root = .ok directory) (hdirectory : disk.isDirectoryAt directory = true)
  (h : disk.openFile ((root.child above).child name) = .ok (location, made))

include habove hname hroot h

/-- A file in a directory of a directory is opened where the names say. -/
theorem location_of_openFile :
    location = directory ++ [above] ++ [name] ∧ made.isDirectoryAt (directory ++ [above]) = true
      ∧ (made.file? (directory ++ [above])).isSome = false := by
  obtain ⟨hgrows, hlocate⟩ := grows_of_openFile h
  obtain ⟨place, hplace, -⟩ := exists_of_locate_child hname.isPart hlocate
  obtain ⟨rfl, -⟩ := place_of_steps_child habove (steps_of_locate (hgrows.locate hroot)) hplace
  exact place_of_steps_child hname hplace (steps_of_locate hlocate)

include hdirectory

/-- Only the directory of the file may have been made. -/
theorem isDirectoryAt_made {front : Location} (hfront : made.isDirectoryAt front = true) :
    disk.isDirectoryAt front = true ∨ front = directory ++ [above] := by
  have hensure := ensureDirectory_of_openFile h
  rw [FilePath.parent_child_of_isPart hname.isPart] at hensure
  rcases made_of_ensureDirectory habove hroot hdirectory hensure with rfl | rfl
  · exact .inl hfront
  · obtain ⟨there, hthere, hprefix⟩ := isDirectoryAt_iff.1 hfront
    have hplaces : there ∈ disk.places ∨ there = directory ++ [above] := by
      unfold places at hthere ⊢
      simp only [List.cons_append, List.mem_cons, List.mem_append, List.not_mem_nil,
        or_false] at hthere ⊢
      tauto
    rcases hplaces with hold | rfl
    · exact .inl (isDirectoryAt_iff.2 ⟨there, hold, hprefix⟩)
    · rcases List.prefix_concat_iff.1 hprefix with rfl | hbefore
      · exact .inr rfl
      · exact .inl (isDirectoryAt_of_isPrefix hbefore hdirectory)

/-- What is written is within the directory of the file. -/
theorem differsWithin_of_openFile (bytes : Bytes) :
    disk.DiffersWithin (made.put location bytes) (directory ++ [above]) := by
  obtain ⟨hgrows, -⟩ := grows_of_openFile h
  obtain ⟨rfl, hmade, -⟩ := location_of_openFile habove hname hroot h
  have hopened : disk.DiffersWithin made (directory ++ [above]) := {
    files := fun front _ => congrFun hgrows.file? front
    directories := by
      intro front hnot
      rw [Bool.eq_iff_iff]
      refine ⟨fun hfront => ?_, hgrows.isDirectoryAt⟩
      refine (isDirectoryAt_made habove hname hroot hdirectory h hfront).resolve_right ?_
      rintro rfl
      exact hnot (List.prefix_refl _)
    closed := hgrows.closed }
  exact hopened.trans ((differsWithin_put hmade).mono (List.prefix_append ..))

/-- A tree stays a tree when the directory is made, as it is no file. -/
theorem isTree_made (tree : disk.IsTree) : made.IsTree := by
  obtain ⟨hgrows, -⟩ := grows_of_openFile h
  obtain ⟨-, -, hfree⟩ := location_of_openFile habove hname hroot h
  have hfiles : made.files = disk.files := by
    obtain ⟨more, rfl⟩ := hgrows
    rfl
  refine ⟨hfiles ▸ tree.nodup, fun file hfile => ?_, hfiles ▸ tree.named⟩
  rw [hfiles] at hfile
  rw [← Bool.not_eq_true]
  intro hfront
  rcases isDirectoryAt_made habove hname hroot hdirectory h hfront with hthere | rfl
  · rw [tree.apart file hfile] at hthere
    cases hthere
  · rw [hgrows.file?, file?_isSome_iff.2 hfile] at hfree
    cases hfree

/-- A tree stays a tree. -/
theorem isTree_of_openFile (tree : disk.IsTree)
    (hnames : ∀ name ∈ directory, FileName.IsName name) (bytes : Bytes) :
    (made.put location bytes).IsTree := by
  obtain ⟨rfl, hmade, -⟩ := location_of_openFile habove hname hroot h
  apply (isTree_made habove hname hroot hdirectory h tree).put hmade (free_of_openFile h).1
  intro part hpart
  rw [List.mem_append, List.mem_append, List.mem_singleton, List.mem_singleton] at hpart
  rcases hpart with (hfront | rfl) | rfl
  · exact hnames part hfront
  · exact habove
  · exact hname

end Child

-- ================================================================= once more

/-- A directory that is there is left as it is. -/
theorem ensureDirectory_eq_self (h : disk.isDirectory path = true) :
    disk.ensureDirectory path = .ok disk := by
  unfold isDirectory at h
  split at h
  · next location hlocate =>
    have hmake : disk.makeDirectory path = .error (.alreadyExists path.text) := by
      unfold makeDirectory
      rw [hlocate]
      change (if ((disk.file? location).isSome || disk.isDirectoryAt location) = true
        then throw (DiskError.alreadyExists path.text) else _) = _
      rw [h, Bool.or_true, if_pos rfl]
      rfl
    unfold ensureDirectory
    rw [hmake]
    show (if disk.isDirectory path = true then _ else _) = _
    unfold isDirectory
    rw [hlocate]
    exact if_pos h
  · cases h

/-- A directory that was made is there. -/
theorem isDirectory_of_makeDirectory (h : disk.makeDirectory path = .ok made) :
    made.isDirectory path = true := by
  have hgrows := grows_of_makeDirectory h
  obtain ⟨location, hlocate, hmake⟩ := bind_eq_ok.1 h
  split at hmake
  · cases hmake
  · unfold isDirectory
    rw [hgrows.locate hlocate, ← Except.ok.inj hmake]
    refine isDirectoryAt_iff.2 ⟨location, ?_, List.prefix_refl _⟩
    simp [places]

/-- A directory that was seen to is there. -/
theorem isDirectory_of_ensureDirectory (h : disk.ensureDirectory path = .ok made) :
    made.isDirectory path = true := by
  unfold ensureDirectory at h
  split at h
  · next there hmake =>
    obtain rfl := Except.ok.inj h
    exact isDirectory_of_makeDirectory hmake
  · split at h
    · cases h
    · obtain ⟨above, -, hmake⟩ := bind_eq_ok.1 h
      split at hmake
      · next hthere =>
        rw [← Except.ok.inj hmake]
        exact hthere
      · exact isDirectory_of_makeDirectory hmake
  · split at h
    · next hthere =>
      rw [← Except.ok.inj h]
      exact hthere
    · cases h

/-- A file that was written is opened where it is, and nothing has to be made. -/
theorem openFile_put (h : disk.openFile path = .ok (location, made)) (bytes : Bytes) :
    (made.put location bytes).openFile path = .ok (location, made.put location bytes) := by
  obtain ⟨hunused, hopen⟩ := free_of_openFile h
  obtain ⟨-, hlocate⟩ := grows_of_openFile h
  -- the parent was made when the file was opened, and is one still
  have hparent : (made.put location bytes).isDirectory path.parent = true := by
    have hmade := isDirectory_of_ensureDirectory (ensureDirectory_of_openFile h)
    unfold isDirectory at hmade ⊢
    split at hmade
    · next there hthere =>
      rw [locate_put hunused hthere]
      exact isDirectoryAt_put hmade bytes
    · cases hmade
  -- the place of the file is not above itself, so writing makes it no directory
  have hfile : (made.put location bytes).isDirectoryAt location = false := by
    rw [← Bool.not_eq_true, isDirectoryAt_put_iff]
    rintro (hdirectory | hfront)
    · rw [hunused] at hdirectory
      cases hdirectory
    · have hlength := hfront.length_le
      have hne : location ≠ [] := by
        rintro rfl
        rw [isDirectoryAt_root] at hunused
        cases hunused
      have hpos := List.length_pos_iff.2 hne
      rw [List.length_dropLast] at hlength
      omega
  rw [openFile_of_ok (ensureDirectory_eq_self hparent) (locate_put hunused hlocate bytes), hfile,
    (directories_put _ _ _).2.2, hopen]
  rfl

end MockApi.Disk

namespace MockApi.Document

variable {disk written : Disk} {path : FilePath} {text : Except NumeralError Text}

/-- What is written is the bytes of the text, at the place that was opened. -/
theorem of_writeText (h : writeText disk path text = .ok written) :
    ∃ t bytes location made, text = .ok t ∧ Utf8.encode? t = some bytes
      ∧ disk.openFile path = .ok (location, made) ∧ written = made.put location bytes := by
  obtain ⟨⟨location, made⟩, hopen, h⟩ := bind_eq_ok.1 h
  obtain ⟨t, htext, h⟩ := bind_eq_ok.1 h
  cases text with
  | error cause => cases htext
  | ok t' =>
    obtain rfl : t' = t := Except.ok.inj htext
    cases hopened : disk.openFile path with
    | error cause =>
      rw [hopened] at hopen
      cases hopen
    | ok opened =>
      rw [hopened] at hopen
      obtain rfl : opened = (location, made) := Except.ok.inj hopen
      split at h
      · next bytes hbytes =>
        exact ⟨t', bytes, location, made, rfl, hbytes, rfl, (Except.ok.inj h).symm⟩
      · cases h

/-- Writing a text once more leaves the disk as it is. -/
theorem writeText_again (h : writeText disk path text = .ok written) :
    writeText written path text = .ok written := by
  obtain ⟨t, bytes, location, made, rfl, hbytes, hopen, rfl⟩ := of_writeText h
  rw [writeText_eq hbytes, Disk.openFile_put hopen]
  show Except.ok ((made.put location bytes).put location bytes) = _
  rw [Disk.put_put_self]

end MockApi.Document
