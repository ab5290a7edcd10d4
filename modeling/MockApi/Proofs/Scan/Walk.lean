/-
The walk over a tree of files. It lists a file once, and exactly where its name is
that of a source file and no directory on the way to it is excluded (`mem_walk`,
`nodup_walk`); a file that is taken out of the tree is taken out of the list, and
the others keep their order (`walk_without`). All three are inductions over the
levels of directories, and there are never more levels than the disk is deep.
-/
import MockApi.Proofs.Disk.Tree
import MockApi.Scan.Workspace

namespace MockApi

namespace Workspace

variable {disk : Disk} {directory location file : Location} {levels : Nat} {root path : FilePath}

-- ================================================================ the walk

/-- The location is that of a source file in so many levels of directories, none
of them an excluded one. -/
structure IsListed (disk : Disk) (levels : Nat) (directory above : Location) (name : Text) :
    Prop where
  isFile : (disk.file? (directory ++ (above ++ [name]))).isSome = true
  near : above.length < levels
  notExcluded : ∀ other ∈ above, other ∉ excludedDirectories
  isSource : isSource name = true

/-- The walk goes to the files that are listed along directories which are not skipped. -/
theorem mem_walk :
    location ∈ walk disk levels directory
      ↔ ∃ above name, location = above ++ [name] ∧ IsListed disk levels directory above name := by
  induction levels generalizing directory location with
  | zero =>
    rw [walk]
    refine iff_of_false List.not_mem_nil ?_
    rintro ⟨above, name, -, listed⟩
    exact absurd listed.near (Nat.not_lt_zero _)
  | succ levels ih =>
    rw [walk, List.mem_append, List.mem_map, List.mem_flatMap]
    constructor
    · rintro (⟨name, hname, rfl⟩ | ⟨next, hnext, hmem⟩)
      · obtain ⟨hfile, hsource⟩ := List.mem_filter.1 hname
        exact ⟨[], name, rfl, Disk.mem_fileNames.1 hfile, Nat.succ_pos _, nofun, hsource⟩
      · obtain ⟨rest, hrest, rfl⟩ := List.mem_map.1 hmem
        obtain ⟨above, name, rfl, listed⟩ := ih.1 hrest
        obtain ⟨-, hkept⟩ := List.mem_filter.1 hnext
        refine ⟨next :: above, name, rfl, ?_, Nat.succ_lt_succ listed.near, ?_, listed.isSource⟩
        · rw [List.cons_append, List.append_cons]
          exact listed.isFile
        · rw [List.forall_mem_cons]
          exact ⟨by simpa using hkept, listed.notExcluded⟩
    · rintro ⟨above, name, rfl, listed⟩
      cases above with
      | nil =>
        refine .inl ⟨name, List.mem_filter.2 ⟨?_, listed.isSource⟩, rfl⟩
        exact Disk.mem_fileNames.2 listed.isFile
      | cons next above =>
        -- the first directory on the way to the file is one of this directory's
        obtain ⟨hnext, habove⟩ := List.forall_mem_cons.1 listed.notExcluded
        have hfile := listed.isFile
        rw [List.cons_append, List.append_cons] at hfile
        have hdirectory : disk.isDirectoryAt (directory ++ [next]) = true :=
          Disk.isDirectoryAt_of_prefix hfile (List.prefix_append ..) (by simp)
        refine .inr ⟨next, List.mem_filter.2 ⟨Disk.mem_directoryNames.2 hdirectory, ?_⟩, ?_⟩
        · simpa using hnext
        · refine List.mem_map.2 ⟨above ++ [name], ih.2 ⟨above, name, rfl, hfile, ?_, habove, ?_⟩, rfl⟩
          · exact Nat.lt_of_succ_lt_succ listed.near
          · exact listed.isSource

/-- The walk goes to no file twice. -/
theorem nodup_walk (h : (disk.files.map (·.1)).Nodup) (levels : Nat) (directory : Location) :
    (walk disk levels directory).Nodup := by
  induction levels generalizing directory with
  | zero => exact List.nodup_nil
  | succ levels ih =>
    have hfiles := (Disk.nodup_fileNames h directory).filter isSource
    have hdirectories := (Disk.nodup_directoryNames disk directory).filter
      (!excludedDirectories.contains ·)
    rw [walk, List.nodup_append', List.nodup_flatMap]
    refine ⟨?_, ⟨?_, ?_⟩, ?_⟩
    · exact hfiles.map fun a b hab => List.singleton_inj.1 hab
    · intro next _
      exact (ih _).map fun a b hab => List.cons_injective hab
    · -- two directories of one directory have different names
      apply hdirectories.imp
      intro next other hne location hnext hother
      obtain ⟨_, -, rfl⟩ := List.mem_map.1 hnext
      obtain ⟨_, -, heq⟩ := List.mem_map.1 hother
      exact hne (List.cons.inj heq).1.symm
    · -- a file of a directory is in no directory of it
      intro location hfile hbelow
      obtain ⟨name, -, rfl⟩ := List.mem_map.1 hfile
      obtain ⟨next, -, hmem⟩ := List.mem_flatMap.1 hbelow
      obtain ⟨rest, hrest, heq⟩ := List.mem_map.1 hmem
      obtain ⟨above, name', rfl, -⟩ := mem_walk.1 hrest
      simp at heq

/-- Without a file, it goes to all the others. -/
theorem walk_without (h : (disk.file? file).isSome = true) (levels : Nat) (directory : Location) :
    walk (disk.without file) levels directory
      = (walk disk levels directory).filter fun location => directory ++ location != file := by
  induction levels generalizing directory with
  | zero => rfl
  | succ levels ih =>
    rw [walk, walk, Disk.fileNames_without, Disk.directoryNames_congr (Disk.mem_places_without h),
      List.filter_append, List.filter_map, List.filter_flatMap, List.filter_filter,
      List.filter_filter]
    congr 1
    · congr 2
      funext name
      exact Bool.and_comm ..
    · congr 1
      funext next
      rw [ih, List.filter_map]
      congr 2
      funext location
      simp

-- ============================================================= the listing

/-- The path is that of a source file below the root, and no directory between
the two is an excluded one. -/
def IsSourceFile (disk : Disk) (root path : FilePath) : Prop :=
  ∃ directory above name, disk.locate root = .ok directory
    ∧ path = root.descend (above ++ [name])
    ∧ (disk.file? (directory ++ (above ++ [name]))).isSome = true
    ∧ (∀ other ∈ above, other ∉ excludedDirectories)
    ∧ (Dialect.ofPath? path).isSome = true

/-- The dialect of a file is told by its name. -/
theorem ofPath?_descend {name : Text} (h : FileName.IsName name) (root : FilePath)
    (above : Location) :
    Dialect.ofPath? (root.descend (above ++ [name])) = Dialect.ofPath? (.ofText name) := by
  have hparts := FilePath.parts_ofText_of_isPart h.isPart
  have hsuffix : (root.descend (above ++ [name])).suffix = (FilePath.ofText name).suffix := by
    unfold FilePath.suffix FilePath.descend
    rw [hparts, ← List.append_assoc, List.getLastD_concat]
    rfl
  unfold Dialect.ofPath?
  rw [hsuffix]

/-- The source files of a root are the paths to such files. -/
theorem mem_sourceFiles (tree : disk.IsTree) :
    path ∈ sourceFiles disk root ↔ IsSourceFile disk root path := by
  unfold sourceFiles IsSourceFile
  cases disk.locate root with
  | error e =>
    refine iff_of_false List.not_mem_nil ?_
    rintro ⟨directory, -, -, hroot, -⟩
    cases hroot
  | ok directory =>
    rw [List.mem_map]
    constructor
    · rintro ⟨location, hlocation, rfl⟩
      obtain ⟨above, name, rfl, listed⟩ := mem_walk.1 hlocation
      refine ⟨directory, above, name, rfl, rfl, listed.isFile, listed.notExcluded, ?_⟩
      have hname := tree.named _ (Disk.file?_isSome_iff.1 listed.isFile) name (by simp)
      rw [ofPath?_descend hname]
      exact listed.isSource
    · rintro ⟨directory', above, name, hroot, rfl, hfile, hkept, hsource⟩
      obtain rfl := Except.ok.inj hroot
      have hname := tree.named _ (Disk.file?_isSome_iff.1 hfile) name (by simp)
      -- the depth of the disk is enough levels for every file on it
      have hlength := Disk.length_le_depth hfile
      rw [ofPath?_descend hname] at hsource
      refine ⟨_, mem_walk.2 ⟨above, name, rfl, hfile, ?_, hkept, hsource⟩, rfl⟩
      simp only [List.length_append, List.length_singleton] at hlength
      omega

/-- No source file is listed twice. -/
theorem nodup_sourceFiles (tree : disk.IsTree) (root : FilePath) :
    (sourceFiles disk root).Nodup := by
  unfold sourceFiles
  split
  · exact List.nodup_nil
  · refine (nodup_walk tree.nodup _ _).map fun a b hab => ?_
    exact List.append_cancel_left (congrArg FilePath.parts hab)

end Workspace

end MockApi
