/-
What is in a directory. The names that are listed for it are those behind which a
file is and those behind which a directory is (`mem_fileNames`,
`mem_directoryNames`), so a listing says what paths say. And a disk is no deeper
than its directories: whatever is behind the names of a location is at most
`depth` names from the root (`length_le_depth`).
-/
import MockApi.Proofs.Disk
import MockApi.Proofs.Text.Order

namespace MockApi.Disk

variable {disk other : Disk} {directory location : Location} {name : Text}

-- =========================================================== being below

/-- What is below a place is what follows it. -/
theorem below?_eq_some {rest : Location} :
    below? directory location = some rest ↔ location = directory ++ rest := by
  induction directory generalizing location with
  | nil =>
    rw [below?, Option.some.injEq, List.nil_append]
  | cons a as ih =>
    cases location with
    | nil => simp [below?]
    | cons b bs =>
      by_cases hab : a = b
      · rw [below?, if_pos hab, ih, hab, List.cons_append, List.cons_inj_right]
      · rw [below?, if_neg hab]
        simp [Ne.symm hab]

/-- A place is in a directory under a name if it is the directory and that name. -/
theorem nameIn?_eq_some :
    nameIn? directory location = some name ↔ location = directory ++ [name] := by
  rw [← below?_eq_some]
  unfold nameIn?
  split
  · next found h => rw [h, Option.some.injEq, Option.some.injEq, List.cons.injEq, and_iff_left rfl]
  · next h =>
    refine iff_of_false nofun fun hname => ?_
    exact h name hname

/-- A file stands where some entry says that one is. -/
theorem file?_isSome_iff :
    (disk.file? location).isSome = true ↔ location ∈ disk.files.map (·.1) := by
  unfold file?
  rw [Option.isSome_map, List.find?_isSome, List.mem_map]
  simp

/-- The way to a file ends in its directory. -/
theorem prefix_dropLast_iff (file : Location) :
    location <+: file.dropLast ∧ file ≠ []
      ↔ location <+: file ∧ location.length < file.length := by
  rw [List.dropLast_eq_take, List.prefix_take_iff, and_assoc, ← List.length_pos_iff]
  constructor
  · rintro ⟨hfront, hle, hpos⟩
    exact ⟨hfront, by omega⟩
  · rintro ⟨hfront, hlt⟩
    exact ⟨hfront, by omega, by omega⟩

/-- A directory stands on the way to every place and nowhere else. -/
theorem isDirectoryAt_iff :
    disk.isDirectoryAt location = true ↔ ∃ place ∈ disk.places, location <+: place := by
  unfold isDirectoryAt places
  simp only [Bool.or_eq_true, List.any_eq_true, List.isPrefixOf_iff_prefix, Bool.and_eq_true,
    decide_eq_true_eq, List.cons_append, List.mem_cons, List.mem_append, List.mem_map,
    ← prefix_dropLast_iff]
  constructor
  · rintro ((h | ⟨place, hmem, h⟩) | ⟨entry, hmem, h, -⟩)
    · exact ⟨_, .inl rfl, h⟩
    · exact ⟨place, .inr (.inl hmem), h⟩
    · exact ⟨_, .inr (.inr ⟨entry, hmem, rfl⟩), h⟩
  · rintro ⟨place, rfl | hmem | ⟨entry, hmem, rfl⟩, h⟩
    · exact .inl (.inl h)
    · exact .inl (.inr ⟨place, hmem, h⟩)
    · by_cases hroot : entry.1 = []
      · -- the root is on every way
        rw [hroot] at h
        rw [List.prefix_nil.1 h]
        exact .inl (.inl List.nil_prefix)
      · exact .inr ⟨entry, hmem, h, hroot⟩

/-- Disks with the same places have the same directories. -/
theorem isDirectoryAt_congr (h : ∀ place, place ∈ disk.places ↔ place ∈ other.places) :
    disk.isDirectoryAt = other.isDirectoryAt := by
  funext location
  rw [Bool.eq_iff_iff, isDirectoryAt_iff, isDirectoryAt_iff]
  simp only [h]

/-- What leads to a directory is one. -/
theorem isDirectoryAt_of_isPrefix {front : Location} (hfront : front <+: location)
    (h : disk.isDirectoryAt location = true) : disk.isDirectoryAt front = true := by
  obtain ⟨there, hthere, hprefix⟩ := isDirectoryAt_iff.1 h
  exact isDirectoryAt_iff.2 ⟨there, hthere, hfront.trans hprefix⟩

-- ================================================================ listings

/-- The files listed in a directory are those that stand in it. -/
theorem mem_fileNames :
    name ∈ disk.fileNames directory ↔ (disk.file? (directory ++ [name])).isSome = true := by
  unfold fileNames
  rw [Text.mem_sorted, file?_isSome_iff]
  simp only [List.mem_filterMap, nameIn?_eq_some, List.mem_map]

/-- The directories listed in one are those that stand in it. -/
theorem mem_directoryNames :
    name ∈ disk.directoryNames directory ↔ disk.isDirectoryAt (directory ++ [name]) = true := by
  unfold directoryNames
  rw [Text.mem_sorted, List.mem_eraseDups, List.mem_filterMap, isDirectoryAt_iff]
  apply exists_congr
  intro place
  apply and_congr_right
  intro _
  rw [Option.bind_eq_some_iff]
  simp only [below?_eq_some]
  constructor
  · rintro ⟨rest, rfl, hhead⟩
    obtain ⟨tail, rfl⟩ := List.head?_eq_some_iff.1 hhead
    exact ⟨tail, by simp⟩
  · rintro ⟨tail, rfl⟩
    exact ⟨name :: tail, by simp, rfl⟩

/-- No file is listed twice on a disk that has none twice. -/
theorem nodup_fileNames (h : (disk.files.map (·.1)).Nodup) (directory : Location) :
    (disk.fileNames directory).Nodup := by
  unfold fileNames
  rw [Text.nodup_sorted]
  have hmap := h.filterMap (f := nameIn? directory) fun a a' b hb hb' =>
    (nameIn?_eq_some.1 hb).trans (nameIn?_eq_some.1 hb').symm
  rw [List.filterMap_map] at hmap
  exact hmap

theorem nodup_eraseDups {α : Type} [BEq α] [LawfulBEq α] (l : List α) : l.eraseDups.Nodup := by
  induction hlength : l.length using Nat.strongRecOn generalizing l with
  | ind n ih =>
    cases l with
    | nil => exact List.nodup_nil
    | cons a rest =>
      rw [List.eraseDups_cons, List.nodup_cons]
      constructor
      · intro hmem
        have hne := (List.mem_filter.1 (List.mem_eraseDups.1 hmem)).2
        simp at hne
      · have hle := List.length_filter_le (fun b => !b == a) rest
        rw [List.length_cons] at hlength
        exact ih _ (by omega) _ rfl

/-- No directory is listed twice. -/
theorem nodup_directoryNames (disk : Disk) (directory : Location) :
    (disk.directoryNames directory).Nodup := by
  unfold directoryNames
  rw [Text.nodup_sorted]
  exact nodup_eraseDups _

/-- Disks with the same places list the same directories. -/
theorem directoryNames_congr (h : ∀ place, place ∈ disk.places ↔ place ∈ other.places) :
    disk.directoryNames = other.directoryNames := by
  funext directory
  apply Text.sorted_eq_sorted (nodup_eraseDups _) (nodup_eraseDups _)
  intro name
  rw [List.mem_eraseDups, List.mem_eraseDups, List.mem_filterMap, List.mem_filterMap]
  simp only [h]

-- =================================================================== depth

/-- The depth of a disk bounds its places, and is the least bound. -/
theorem depth_le_iff {n : Nat} : disk.depth ≤ n ↔ ∀ place ∈ disk.places, place.length < n := by
  unfold depth
  induction disk.places with
  | nil => simp
  | cons place rest ih =>
    rw [List.map_cons, List.foldr_cons, Nat.max_le, ih, List.forall_mem_cons, Nat.succ_le_iff]

/-- Disks with the same places are equally deep. -/
theorem depth_congr (h : ∀ place, place ∈ disk.places ↔ place ∈ other.places) :
    disk.depth = other.depth := by
  apply eq_of_forall_ge_iff
  intro n
  rw [depth_le_iff, depth_le_iff]
  simp only [h]

/-- No file lies deeper than its disk. -/
theorem length_le_depth (h : (disk.file? location).isSome = true) :
    location.length ≤ disk.depth := by
  obtain ⟨entry, hmem, rfl⟩ := List.mem_map.1 (file?_isSome_iff.1 h)
  have hplace : entry.1.dropLast ∈ disk.places :=
    List.mem_append_right _ (List.mem_map.2 ⟨entry, hmem, rfl⟩)
  have hlt := depth_le_iff.1 le_rfl _ hplace
  rw [List.length_dropLast] at hlt
  omega

end MockApi.Disk
