/-
What is kept in an excluded directory. A scan does not look into it, so two trees that
differ within one only have the same endpoints (`Workspace.endpoints_of_differsWithin`):
what a command has left in the project's own directory is never scanned.

The walk visits other places only, and there both trees list the same names. They may
be of different depth, though; so it is shown first that a walk with room for all
directories does not depend on how much room there is (`walk_levels`).
-/
import MockApi.Proofs.Disk.Within
import MockApi.Proofs.Scan.Workspace

namespace MockApi

namespace Disk

variable {disk other : Disk} {directory : Location} {p : Text → Bool}

/-- Where the files with some names are the same, so are the names that are listed. -/
theorem filter_fileNames_eq (hnodup : (disk.files.map (·.1)).Nodup)
    (hnodup' : (other.files.map (·.1)).Nodup)
    (h : ∀ name, p name = true →
      other.file? (directory ++ [name]) = disk.file? (directory ++ [name])) :
    (other.fileNames directory).filter p = (disk.fileNames directory).filter p := by
  have hnames := nodup_fileNames hnodup directory
  have hnames' := nodup_fileNames hnodup' directory
  have hmem : ∀ name, p name = true →
      (name ∈ other.fileNames directory ↔ name ∈ disk.fileNames directory) := by
    intro name hname
    rw [mem_fileNames, mem_fileNames, h name hname]
  unfold fileNames at hnames hnames' hmem ⊢
  simp only [Text.mem_sorted] at hmem
  exact Text.filter_sorted_eq p (Text.nodup_sorted.1 hnames') (Text.nodup_sorted.1 hnames) hmem

/-- Among names that are told apart alike, two disks list the same directories. -/
theorem filter_directoryNames_eq
    (h : ∀ name, p name = true →
      other.isDirectoryAt (directory ++ [name]) = disk.isDirectoryAt (directory ++ [name])) :
    (other.directoryNames directory).filter p = (disk.directoryNames directory).filter p := by
  have hmem : ∀ name, p name = true →
      (name ∈ other.directoryNames directory ↔ name ∈ disk.directoryNames directory) := by
    intro name hname
    rw [mem_directoryNames, mem_directoryNames, h name hname]
  unfold directoryNames at hmem ⊢
  simp only [Text.mem_sorted] at hmem
  exact Text.filter_sorted_eq p (nodup_eraseDups _) (nodup_eraseDups _) hmem

end Disk

namespace Workspace

variable {disk other : Disk} {directory : Location}

/-- No walk finds anything below the depth of the disk. -/
theorem walk_eq_nil (h : disk.depth ≤ directory.length) (levels : Nat) :
    walk disk levels directory = [] := by
  apply List.eq_nil_iff_forall_not_mem.2
  intro location hmem
  obtain ⟨above, name, -, listed⟩ := mem_walk.1 hmem
  have hlength := Disk.length_le_depth listed.isFile
  simp only [List.length_append, List.length_singleton] at hlength
  omega

/-- With room for all directories it does not matter how much there is. -/
theorem walk_levels {levels levels' : Nat} (h : disk.depth ≤ directory.length + levels)
    (h' : disk.depth ≤ directory.length + levels') :
    walk disk levels directory = walk disk levels' directory := by
  induction levels generalizing levels' directory with
  | zero => rw [walk_eq_nil h, walk_eq_nil h]
  | succ levels ih =>
    cases levels' with
    | zero => rw [walk_eq_nil h', walk_eq_nil h']
    | succ levels' =>
      rw [walk, walk]
      congr 1
      apply List.flatMap_congr
      intro name _
      have hroom : disk.depth ≤ (directory ++ [name]).length + levels := by
        rw [List.length_append, List.length_singleton]
        omega
      have hroom' : disk.depth ≤ (directory ++ [name]).length + levels' := by
        rw [List.length_append, List.length_singleton]
        omega
      rw [ih hroom hroom']

/-- An excluded directory has no name of a source file. -/
theorem isSource_of_excluded {hidden : Text} (h : hidden ∈ excludedDirectories) :
    isSource hidden = false := by
  have hall : ∀ hidden ∈ excludedDirectories, isSource hidden = false := by decide
  exact hall hidden h

section Differing

variable {hidden : Text} (tree : disk.IsTree) (tree' : other.IsTree)
  (differs : disk.DiffersWithin other (directory ++ [hidden]))
  (hhidden : hidden ∈ excludedDirectories)

include hhidden in
/-- A way that passes no excluded directory does not lead into one. -/
theorem not_prefix_of_kept {above : Location} {name : Text}
    (habove : ∀ other ∈ above, other ∉ excludedDirectories) (hname : name ≠ hidden) :
    ¬directory ++ [hidden] <+: directory ++ above ++ [name] := by
  rw [List.append_assoc, List.prefix_append_right_inj]
  intro hprefix
  have hmem : hidden ∈ above ++ [name] := hprefix.subset List.mem_cons_self
  rw [List.mem_append, List.mem_singleton] at hmem
  rcases hmem with hfront | rfl
  · exact habove hidden hfront hhidden
  · exact hname rfl

include tree tree' differs hhidden in
/-- The walk does not look into an excluded directory. -/
theorem walk_of_differsWithin (levels : Nat) {above : Location}
    (habove : ∀ other ∈ above, other ∉ excludedDirectories) :
    walk other levels (directory ++ above) = walk disk levels (directory ++ above) := by
  induction levels generalizing above with
  | zero => rfl
  | succ levels ih =>
    -- neither the files that are read nor the directories that are
    -- walked are among what differs
    have hfiles : (other.fileNames (directory ++ above)).filter isSource
        = (disk.fileNames (directory ++ above)).filter isSource := by
      apply Disk.filter_fileNames_eq tree.nodup tree'.nodup
      intro name hsource
      apply differs.files
      apply not_prefix_of_kept hhidden habove
      rintro rfl
      rw [isSource_of_excluded hhidden] at hsource
      cases hsource
    have hdirectories : (other.directoryNames (directory ++ above)).filter
          (!excludedDirectories.contains ·)
        = (disk.directoryNames (directory ++ above)).filter (!excludedDirectories.contains ·) := by
      apply Disk.filter_directoryNames_eq
      intro name hkept
      apply differs.directories
      apply not_prefix_of_kept hhidden habove
      rintro rfl
      rw [List.contains_iff_mem.2 hhidden] at hkept
      cases hkept
    rw [walk, walk, hfiles, hdirectories]
    congr 1
    apply List.flatMap_congr
    intro name hname
    have hkept : name ∉ excludedDirectories := by simpa using (List.mem_filter.1 hname).2
    rw [List.append_assoc, ih]
    intro next hnext
    rcases List.mem_append.1 hnext with hfront | hlast
    · exact habove next hfront
    · rw [List.mem_singleton.1 hlast]
      exact hkept

include tree tree' differs hhidden in
/-- What differs within an excluded directory only has the same endpoints. -/
theorem endpoints_of_differsWithin {root : FilePath} (proper : root.IsProper)
    (hroot : disk.locate root = .ok directory) (hroot' : other.locate root = .ok directory)
    (limit : Int) : endpoints other root limit = endpoints disk root limit := by
  -- both disks may be of different depth: enough levels give the whole walk on each
  have hwalk : walk other other.depth directory = walk disk disk.depth directory := by
    have hnone : ∀ name ∈ ([] : Location), name ∉ excludedDirectories := nofun
    have hsame := walk_of_differsWithin tree tree' differs hhidden (max disk.depth other.depth) hnone
    rw [List.append_nil] at hsame
    calc walk other other.depth directory
      _ = walk other (max disk.depth other.depth) directory := walk_levels (by omega) (by omega)
      _ = walk disk (max disk.depth other.depth) directory := hsame
      _ = walk disk disk.depth directory := walk_levels (by omega) (by omega)
  rw [endpoints_of_leads hroot, endpoints_of_leads hroot', hwalk]
  congr 1
  apply List.flatMap_congr
  intro location hlocation
  obtain ⟨above, name, rfl, listed⟩ := mem_walk.1 hlocation
  -- a file of the walk does not lie in the excluded directory
  have houtside : ¬directory ++ [hidden] <+: directory ++ (above ++ [name]) := by
    rw [← List.append_assoc]
    apply not_prefix_of_kept hhidden listed.notExcluded
    rintro rfl
    have hsource := listed.isSource
    rw [isSource_of_excluded hhidden] at hsource
    cases hsource
  have hproper : (root.descend (above ++ [name])).IsProper := by
    apply proper.descend
    intro part hpart
    exact tree.named _ (Disk.file?_isSome_iff.1 listed.isFile) part (List.mem_append_right _ hpart)
  have hne : (root.descend (above ++ [name])).parts ≠ [] := by simp [FilePath.descend]
  apply Source.endpointsAt_congr
  rw [Disk.readAt_text tree' hproper hne, Disk.readAt_text tree hproper hne]
  exact Disk.read_congr tree tree' hroot hroot' listed.isFile (differs.files _ houtside)
    differs.closed

end Differing

end Workspace

end MockApi
