/-
Reading back what was written. A file is put where no directory is, and every
directory stays, so the names of a path lead where they led when the file was
opened (`locate_put`): there the new bytes are, and nobody closed them
(`read_of_openFile`).
-/
import MockApi.Proofs.Disk.Walk

namespace MockApi.Disk

variable {disk made : Disk} {path : FilePath} {location other : Location} {bytes : Bytes}

/-- A file that was written is read back. -/
theorem file?_put_self (bytes : Bytes) :
    (disk.put location bytes).file? location = some bytes := by
  unfold put
  -- a file of that name is replaced where it stands, a new one is added at the end
  by_cases hthere : disk.files.any (·.1 == location) = true
  · rw [if_pos hthere]
    obtain ⟨entry, hentry, hname⟩ := List.any_eq_true.1 hthere
    obtain ⟨found, hfound⟩ :
        ∃ found, disk.files.find? (fun entry => entry.1 == location) = some found := by
      apply Option.isSome_iff_exists.1
      rw [List.find?_isSome]
      exact ⟨entry, hentry, hname⟩
    have hat : found.1 = location := by simpa using List.find?_some hfound
    unfold file?
    simp only
    rw [List.find?_map, comp_replaced, hfound, Option.map_some, hat]
    simp
  · rw [if_neg hthere]
    have hnone : disk.files.find? (fun entry => entry.1 == location) = none := by
      rw [List.find?_eq_none]
      intro entry hentry hname
      exact hthere (List.any_eq_true.2 ⟨entry, hentry, hname⟩)
    unfold file?
    simp only
    rw [List.find?_append, hnone, Option.none_or]
    simp

/-- Nothing but the files changes. -/
theorem directories_put (disk : Disk) (location : Location) (bytes : Bytes) :
    (disk.put location bytes).workingDirectory = disk.workingDirectory
      ∧ (disk.put location bytes).directories = disk.directories
      ∧ (disk.put location bytes).closed = disk.closed := by
  unfold put
  split
  · exact ⟨rfl, rfl, rfl⟩
  · exact ⟨rfl, rfl, rfl⟩

/-- The names of the files, once another is put there. -/
theorem names_put (disk : Disk) (location : Location) (bytes : Bytes) :
    (disk.put location bytes).files.map (·.1)
      = if location ∈ disk.files.map (·.1) then disk.files.map (·.1)
        else disk.files.map (·.1) ++ [location] := by
  have hany : disk.files.any (·.1 == location) = true ↔ location ∈ disk.files.map (·.1) := by
    rw [List.any_eq_true, List.mem_map]
    simp only [beq_iff_eq]
  unfold put
  by_cases hthere : location ∈ disk.files.map (·.1)
  · rw [if_pos (hany.2 hthere), if_pos hthere]
    show (disk.files.map _).map _ = _
    rw [List.map_map]
    apply List.map_congr_left
    intro entry _
    by_cases hentry : entry.1 = location
    · simp [hentry]
    · simp [hentry]
  · rw [if_neg (fun h => hthere (hany.1 h)), if_neg hthere]
    show (disk.files ++ [(location, bytes)]).map (·.1) = _
    rw [List.map_append]
    rfl

/-- With a file its directory is a place. -/
theorem mem_places_put {place : Location} :
    place ∈ (disk.put location bytes).places ↔ place ∈ disk.places ∨ place = location.dropLast := by
  obtain ⟨hworking, hdirectories, -⟩ := directories_put disk location bytes
  have hmapped (disk : Disk) : disk.files.map (fun entry => entry.1.dropLast)
      = (disk.files.map (·.1)).map List.dropLast := by
    rw [List.map_map]
    rfl
  have hnames : place ∈ ((disk.put location bytes).files.map (·.1)).map List.dropLast
      ↔ place ∈ (disk.files.map (·.1)).map List.dropLast ∨ place = location.dropLast := by
    rw [names_put]
    split
    · next hmem =>
      refine (or_iff_left_of_imp ?_).symm
      rintro rfl
      exact List.mem_map_of_mem hmem
    · rw [List.map_append, List.mem_append, List.map_singleton, List.mem_singleton]
  unfold places
  rw [hworking, hdirectories, hmapped, hmapped, List.mem_append, List.mem_append, hnames, or_assoc]

/-- With a file the directories on the way to it are there. -/
theorem isDirectoryAt_put_iff :
    (disk.put location bytes).isDirectoryAt other = true
      ↔ disk.isDirectoryAt other = true ∨ other <+: location.dropLast := by
  rw [isDirectoryAt_iff, isDirectoryAt_iff]
  constructor
  · rintro ⟨place, hplace, hfront⟩
    rcases mem_places_put.1 hplace with hold | rfl
    · exact .inl ⟨place, hold, hfront⟩
    · exact .inr hfront
  · rintro (⟨place, hplace, hfront⟩ | hfront)
    · exact ⟨place, mem_places_put.2 (.inl hplace), hfront⟩
    · exact ⟨_, mem_places_put.2 (.inr rfl), hfront⟩

/-- A directory stays one. -/
theorem isDirectoryAt_put (h : disk.isDirectoryAt other = true) (bytes : Bytes) :
    (disk.put location bytes).isDirectoryAt other = true :=
  isDirectoryAt_put_iff.2 (.inl h)

/-- A path leads where it led before, if all directories on its way are still there. -/
theorem locate_of_kept (hworking : made.workingDirectory = disk.workingDirectory)
    (kept : ∀ place, disk.isDirectoryAt place = true → (disk.file? place).isSome = false →
      made.isDirectoryAt place = true ∧ (made.file? place).isSome = false)
    (hlocate : disk.locate path = .ok location) : made.locate path = .ok location := by
  -- each step asks of one place only that it is a directory and no file
  have hsteps : ∀ {names : List Text} {first last : Location},
      names.foldlM (disk.step path.text) first = .ok last →
        names.foldlM (made.step path.text) first = .ok last := by
    intro names
    induction names with
    | nil =>
      intro first last h
      exact h
    | cons name rest ih =>
      intro first last h
      rw [List.foldlM_cons] at h ⊢
      obtain ⟨next, hnext, hrest⟩ := bind_eq_ok.1 h
      obtain ⟨hopen, hdirectory, hbehind⟩ := step_eq_ok.1 hnext
      obtain ⟨hthere, hfree⟩ := kept first hdirectory hopen
      rw [step_eq_ok.2 ⟨hfree, hthere, hbehind⟩]
      exact ih hrest
  obtain ⟨_, hcheck, hfound⟩ := bind_eq_ok.1 hlocate
  unfold locate
  rw [hcheck]
  show (path.parts.foldlM _ (made.start _)) = _
  unfold start
  rw [hworking]
  exact hsteps hfound

/-- A file that is put where no directory is stands in no path's way. -/
theorem locate_put (hfree : disk.isDirectoryAt location = false)
    (hlocate : disk.locate path = .ok other) (bytes : Bytes) :
    (disk.put location bytes).locate path = .ok other := by
  refine locate_of_kept (directories_put _ _ bytes).1 (fun place hdirectory hopen => ?_) hlocate
  have hne : location ≠ place := by
    rintro rfl
    rw [hdirectory] at hfree
    cases hfree
  refine ⟨isDirectoryAt_put hdirectory bytes, ?_⟩
  rw [file?_put_of_ne hne]
  exact hopen

/-- The directories of a disk that grew are still there. -/
theorem Grows.isDirectoryAt (h : disk.Grows made) (hdirectory : disk.isDirectoryAt other = true) :
    made.isDirectoryAt other = true := by
  obtain ⟨more, rfl⟩ := h
  unfold Disk.isDirectoryAt at hdirectory ⊢
  simp only [List.any_append, Bool.or_eq_true] at hdirectory ⊢
  rcases hdirectory with (hworking | hdirectories) | hfiles
  · exact .inl (.inl hworking)
  · exact .inl (.inr (.inl hdirectories))
  · exact .inr hfiles

theorem Grows.file? (h : disk.Grows made) : made.file? = disk.file? := by
  obtain ⟨more, rfl⟩ := h
  rfl

theorem Grows.closed (h : disk.Grows made) : made.closed = disk.closed := by
  obtain ⟨more, rfl⟩ := h
  rfl

/-- More directories stand in no path's way. -/
theorem Grows.locate (h : disk.Grows made) (hlocate : disk.locate path = .ok location) :
    made.locate path = .ok location := by
  have hworking : made.workingDirectory = disk.workingDirectory := by
    obtain ⟨more, rfl⟩ := h
    rfl
  refine locate_of_kept hworking (fun place hdirectory hopen => ?_) hlocate
  rw [h.file?]
  exact ⟨h.isDirectoryAt hdirectory, hopen⟩

/-- Where a file is opened for writing is no directory and nothing closed. -/
theorem free_of_openFile (h : disk.openFile path = .ok (location, made)) :
    made.isDirectoryAt location = false ∧ made.closed.contains location = false := by
  obtain ⟨above, habove, hfile⟩ := bind_eq_ok.1 h
  obtain ⟨found, hfound, -⟩ := bind_eq_ok.1 hfile
  rw [openFile_of_ok habove hfound] at h
  split at h
  · cases h
  · next hdirectory =>
    split at h
    · cases h
    · next hclosed =>
      obtain ⟨rfl, rfl⟩ := Prod.mk.inj (Except.ok.inj h)
      exact ⟨Bool.eq_false_iff.2 hdirectory, Bool.eq_false_iff.2 hclosed⟩

/-- A file is read if it is there and open to its reader. -/
theorem readFile_eq_ok {text : Text} {bytes : Bytes} :
    disk.readFile text location = .ok bytes
      ↔ disk.file? location = some bytes ∧ disk.closed.contains location = false := by
  unfold readFile
  cases disk.file? location with
  | none => simp
  | some found =>
    cases disk.closed.contains location with
    | true => simp
    | false => simp

/-- What is put at a place where a file was opened is read there. -/
theorem readFile_put_self (h : disk.openFile path = .ok (location, made)) (bytes : Bytes)
    (text : Text) : (made.put location bytes).readFile text location = .ok bytes := by
  refine readFile_eq_ok.2 ⟨file?_put_self bytes, ?_⟩
  rw [(directories_put _ _ bytes).2.2]
  exact (free_of_openFile h).2

/-- Writing a file leaves what is read at other places. -/
theorem readFile_put_of_ne (h : disk.openFile path = .ok (location, made)) (hne : location ≠ other)
    (bytes : Bytes) {text : Text} {there : Bytes} (hread : disk.readFile text other = .ok there) :
    (made.put location bytes).readFile text other = .ok there := by
  obtain ⟨hfile, hopen⟩ := readFile_eq_ok.1 hread
  obtain ⟨hgrows, -⟩ := grows_of_openFile h
  refine readFile_eq_ok.2 ⟨?_, ?_⟩
  · rw [file?_put_of_ne hne, hgrows.file?]
    exact hfile
  · rw [(directories_put _ _ bytes).2.2, hgrows.closed]
    exact hopen

/-- Writing a file leaves the places that paths lead to. -/
theorem locate_put_of_openFile (h : disk.openFile path = .ok (location, made)) (bytes : Bytes)
    {path' : FilePath} (hlocate : disk.locate path' = .ok other) :
    (made.put location bytes).locate path' = .ok other :=
  locate_put (free_of_openFile h).1 ((grows_of_openFile h).1.locate hlocate) bytes

/-- What was written to a file is read from it. -/
theorem read_of_openFile (h : disk.openFile path = .ok (location, made)) (bytes : Bytes) :
    (made.put location bytes).read path = .ok bytes := by
  unfold read
  rw [locate_put (free_of_openFile h).1 (of_openFile h).2]
  exact readFile_put_self h bytes path.text

end MockApi.Disk
